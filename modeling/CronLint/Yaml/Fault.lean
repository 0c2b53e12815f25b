import CronLint.Text.Utf8

/-!
# Faults of YAML documents

A document that breaks the rules of the format is malformed; this is the only fault that a reader
reports as its own. A well-formed document can still hold a scalar whose text does not fit its tag;
what is wrong with it is then told in more detail. Besides, the bytes may be no text, and a reader
can run into limits of the machine.
-/
namespace CronLint.Yaml

inductive ScalarFault where
  /-- An escape stands for a code point that does not exist. -/
  | noCharacter (code : Nat)
  | notInteger (base : Nat) (text : List Char)
  | integerTooLong (digits : Nat)
  | notReal (text : List Char)
  | emptyNumber
  | notFlag
  | notTime
  /-- A date or a time of day has a component out of its range. -/
  | noSuchTime (message : String)
  deriving DecidableEq, Repr

inductive Fault where
  | malformed
  | scalar (f : ScalarFault)
  | undecodable (e : Text.Utf8.DecodeError)
  /-- The reader ended in an exception of this name, such as the one for a nesting that is deeper
  than the stack. -/
  | interrupted (exception : String)
  deriving DecidableEq, Repr

end CronLint.Yaml
