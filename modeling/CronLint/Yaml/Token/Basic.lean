import CronLint.Yaml.Fault
import CronLint.Yaml.Source

/-!
# Tokens

The indentation of blocks is turned into tokens of its own, so that the tokens of a document form a
context-free text.
-/
namespace CronLint.Yaml

inductive Directive where
  /-- The version of the format, of which the major number counts. -/
  | version (major : Nat)
  /-- A short form for the start of tags. -/
  | tagHandle (handle start : List Char)
  | unknown
  deriving DecidableEq, Repr

inductive Token where
  | directive (d : Directive)
  | documentStart
  | documentEnd
  | streamEnd
  | blockSequenceStart
  | blockMappingStart
  | blockEnd
  | flowSequenceStart
  | flowSequenceEnd
  | flowMappingStart
  | flowMappingEnd
  | blockEntry
  | flowEntry
  | key
  | value
  | alias (name : List Char)
  | anchor (name : List Char)
  | tag (handle : Option (List Char)) (suffix : List Char)
  | scalar (text : List Char) (plain : Bool)
  deriving DecidableEq, Repr

def malformed : Except Fault α := .error .malformed

end CronLint.Yaml
