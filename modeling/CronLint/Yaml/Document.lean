import CronLint.Yaml.Node
import CronLint.Yaml.Scalar
import CronLint.Yaml.Token.Lexer

/-!
# Documents as data

A mapping may merge the entries of other mappings, which stand behind its own. Keys have to be
scalars. Only one document is read, and one without content stands for nothing.
-/
namespace CronLint.Yaml

def Node.isMerge : Node → Bool
  | .scalar .merge _ => true
  | _ => false

/-- Entries as data. Those that were merged come first, so that a look-up from the end finds the
mapping's own entries before them. -/
structure Entries where
  merged : List (Data × Data)
  own : List (Data × Data)

def Entries.all (e : Entries) : List (Data × Data) := e.merged ++ e.own

def isScalarNode : Node → Bool
  | .scalar .. => true
  | _ => false

/-- A collection as data, if it may have its tag. -/
def sequenceValue (tag : Tag) (items : List Data) (pairs : Bool) : Except Fault Data :=
  match tag with
  | .sequence => .ok (.list items)
  | .orderedMapping | .pairs => if pairs then .ok .other else .error .malformed
  | _ => .error .malformed

def mappingValue (tag : Tag) (entries : List (Data × Data)) : Except Fault Data :=
  match tag with
  | .mapping => .ok (.mapping entries)
  | .set => .ok .other
  | _ => .error .malformed

def isPair : Node → Bool
  | .mapping _ [_] => true
  | _ => false

mutual

def Node.toData : Node → Except Fault Data
  | .scalar tag text => scalarValue tag text
  | .sequence tag items => do sequenceValue tag (← itemsToData items) (items.all isPair)
  | .mapping tag entries => do mappingValue tag (← entriesToData entries).all
  | .loop => .ok .other

def itemsToData : List Node → Except Fault (List Data)
  | [] => .ok []
  | item :: rest => do return (← item.toData) :: (← itemsToData rest)

/-- The entries of a mapping. A value behind a merge key is a mapping or a sequence of mappings, of
which the first counts most. A key tagged as a value is a text. -/
def entriesToData : List (Node × Node) → Except Fault Entries
  | [] => .ok ⟨[], []⟩
  | (key, value) :: rest => do
    if key.isMerge then
      let merged ← mergedEntries value
      let rest ← entriesToData rest
      return { rest with merged := merged ++ rest.merged }
    else if !isScalarNode key then throw .malformed
    else
      let key ← match key with
        | .scalar .value text => pure (Data.text (String.ofList text))
        | key => key.toData
      let value ← value.toData
      let rest ← entriesToData rest
      return { rest with own := (key, value) :: rest.own }

def mergedEntries : Node → Except Fault (List (Data × Data))
  | .mapping _ entries => do return (← entriesToData entries).all
  | .sequence _ items => mergedItems items
  | _ => .error .malformed

/-- The entries of several mappings, those of the last one first. -/
def mergedItems : List Node → Except Fault (List (Data × Data))
  | [] => .ok []
  | .mapping _ entries :: rest => do
    let entries ← entriesToData entries
    return (← mergedItems rest) ++ entries.all
  | _ :: _ => .error .malformed

end

def read (text : List Char) : Except Fault Data := do
  let text := Text.unifyNewlines text
  if !text.all isAllowed then throw .malformed
  match ← Node.ofTokens? (← (Source.ofText text).tokens) with
  | none => return .null
  | some root => root.toData

end CronLint.Yaml
