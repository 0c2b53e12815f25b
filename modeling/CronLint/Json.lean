/-!
# JSON documents

Values with ordered members, and their text indented by two spaces a level. Characters outside
ASCII stay as they are.
-/
namespace CronLint

/-- A JSON value. `hundredths n` is the number `n / 100`. -/
inductive JsonValue where
  | flag (b : Bool)
  | integer (n : Int)
  | hundredths (n : Nat)
  | text (s : String)
  | list (items : List JsonValue)
  | object (members : List (String × JsonValue))

/-- A number of hundredths with as few decimals as possible, but at least one. -/
def hundredthsText (n : Nat) : String :=
  toString (n / 100) ++ "." ++ toString (n / 10 % 10) ++
    (if n % 10 = 0 then "" else toString (n % 10))

def twoDecimals (n : Nat) : String :=
  toString (n / 100) ++ "." ++ toString (n / 10 % 10) ++ toString (n % 10)

namespace JsonValue

def controlEscape (n : Nat) : List Char :=
  ['\\', 'u', '0', '0', Nat.digitChar (n / 16), Nat.digitChar (n % 16)]

def escapeChar (c : Char) : List Char :=
  if c == '"' || c == '\\' then ['\\', c]
  else if c == '\n' then ['\\', 'n']
  else if c == '\r' then ['\\', 'r']
  else if c == '\t' then ['\\', 't']
  else if c.toNat = 8 then ['\\', 'b']
  else if c.toNat = 12 then ['\\', 'f']
  else if c.toNat < 32 then controlEscape c.toNat
  else [c]

def quoted (s : String) : String := String.ofList ('"' :: s.toList.flatMap escapeChar ++ ['"'])

def indent (level : Nat) : String := String.ofList (List.replicate (2 * level) ' ')

/-- Items on lines of their own between brackets; without items the brackets touch. -/
def block (opening closing : String) (level : Nat) (items : List String) : String :=
  if items.isEmpty then opening ++ closing
  else
    opening ++ "\n" ++ ",\n".intercalate (items.map (indent (level + 1) ++ ·)) ++ "\n" ++
      indent level ++ closing

mutual

/-- The text of a value that starts at a level of indentation. -/
def render (level : Nat) : JsonValue → String
  | flag b => if b then "true" else "false"
  | integer n => toString n
  | hundredths n => hundredthsText n
  | text s => quoted s
  | list items => block "[" "]" level (renderItems (level + 1) items)
  | object members => block "\x7b" "\x7d" level (renderMembers (level + 1) members)

def renderItems (level : Nat) : List JsonValue → List String
  | [] => []
  | v :: rest => v.render level :: renderItems level rest

def renderMembers (level : Nat) : List (String × JsonValue) → List String
  | [] => []
  | (name, v) :: rest => (quoted name ++ ": " ++ v.render level) :: renderMembers level rest

end

def toText (v : JsonValue) : String := v.render 0

end JsonValue

end CronLint
