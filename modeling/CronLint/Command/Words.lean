import CronLint.Duration

/-!
# Words of a command line

The words behind a command are options and arguments in any order. A long option takes its value
from behind an equals sign or from the next word. Short options can be joined, and the rest of the
word is the value of the first one that takes one. Behind two hyphens there are only arguments.
-/
namespace CronLint.Command

inductive UsageFault where
  | noCommand
  | unknownCommand (name : String)
  | unknownOption (word : String)
  | missingValue (option : String)
  | unexpectedValue (option : String)
  | badNumber (option value : String)
  | missingArgument
  | tooManyArguments
  | unknownSeverity (text : String)
  | badWindow (f : Duration.Fault)
  deriving DecidableEq, Repr

/-- An option: its long name with the hyphens, its letter, and whether it takes a value. -/
structure OptionForm where
  name : String
  letter : Option Char := none
  takesValue : Bool := false
  deriving DecidableEq, Repr

/-- The options with their values, in order, and the arguments. A switch has an empty value. -/
structure Words where
  options : List (String × String) := []
  arguments : List String := []
  deriving DecidableEq, Repr

namespace Words

def value? (w : Words) (name : String) : Option String := w.options.reverse.lookup name

def has (w : Words) (name : String) : Bool := (w.value? name).isSome

def addOptions (options : List (String × String)) (w : Words) : Words :=
  { w with options := options ++ w.options }

def addArgument (argument : String) (w : Words) : Words :=
  { w with arguments := argument :: w.arguments }

end Words

/-- The options in one word, and the name of the option that takes the next word as its value. -/
structure OptionWord where
  options : List (String × String)
  awaiting : Option String
  deriving DecidableEq, Repr

def readLetters (forms : List OptionForm) (word : String) :
    List Char → Except UsageFault OptionWord
  | [] => .ok ⟨[], none⟩
  | c :: cs =>
    match forms.find? fun f => f.letter == some c with
    | none => .error (.unknownOption word)
    | some f =>
      if f.takesValue then
        if cs.isEmpty then .ok ⟨[], some f.name⟩ else .ok ⟨[(f.name, String.ofList cs)], none⟩
      else do
        let rest ← readLetters forms word cs
        return { rest with options := (f.name, "") :: rest.options }

/-- Reads a long option with the value behind the equals sign, if there is one. -/
def readLong (f : OptionForm) (value : Option (List Char)) : Except UsageFault OptionWord :=
  match f.takesValue, value with
  | true, some value => .ok ⟨[(f.name, String.ofList value)], none⟩
  | true, none => .ok ⟨[], some f.name⟩
  | false, some _ => .error (.unexpectedValue f.name)
  | false, none => .ok ⟨[(f.name, "")], none⟩

def readOptionWord (forms : List OptionForm) (word : String) : Except UsageFault OptionWord :=
  let (name, value) := Text.breakOn '=' word.toList
  match forms.find? fun f => f.name.toList == name with
  | some f => readLong f value
  | none =>
    if ['-', '-'].isPrefixOf word.toList then .error (.unknownOption word)
    else readLetters forms word (word.toList.drop 1)

/-- Whether a word stands for options. A lone hyphen does not. -/
def isOptionWord (word : String) : Bool := word.toList.head? == some '-' && word != "-"

def readWords (forms : List OptionForm) : List String → Except UsageFault Words
  | [] => .ok {}
  | word :: rest =>
    if word = "--" then .ok { arguments := rest }
    else if isOptionWord word then do
      let read ← readOptionWord forms word
      match read.awaiting, rest with
      | none, rest => return (← readWords forms rest).addOptions read.options
      | some name, [] => throw (.missingValue name)
      | some name, value :: rest =>
        return (← readWords forms rest).addOptions (read.options ++ [(name, value)])
    else do return (← readWords forms rest).addArgument word

end CronLint.Command
