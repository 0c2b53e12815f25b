/-!
# The five positions of an expression

Minute, hour, day of the month, month and day of the week, in this order. `Fields` holds one value
for each position.
-/
namespace CronLint

inductive Position where
  | minute
  | hour
  | dayOfMonth
  | month
  | dayOfWeek
  deriving DecidableEq, Repr

namespace Position

def low : Position → Nat
  | minute => 0
  | hour => 0
  | dayOfMonth => 1
  | month => 1
  | dayOfWeek => 0

/-- The largest value of a position. Days of the week run from Sunday, 0, to Saturday. -/
def high : Position → Nat
  | minute => 59
  | hour => 23
  | dayOfMonth => 31
  | month => 12
  | dayOfWeek => 6

def label : Position → String
  | minute => "minute"
  | hour => "hour"
  | dayOfMonth => "day"
  | month => "month"
  | dayOfWeek => "day_of_week"

def names : Position → List (String × Nat)
  | month => [("jan", 1), ("feb", 2), ("mar", 3), ("apr", 4), ("may", 5), ("jun", 6), ("jul", 7),
      ("aug", 8), ("sep", 9), ("oct", 10), ("nov", 11), ("dec", 12)]
  | dayOfWeek => [("sun", 0), ("mon", 1), ("tue", 2), ("wed", 3), ("thu", 4), ("fri", 5),
      ("sat", 6)]
  | _ => []

theorem low_le_high (p : Position) : p.low ≤ p.high := by cases p <;> decide

end Position

structure Fields (α : Type) where
  minute : α
  hour : α
  dayOfMonth : α
  month : α
  dayOfWeek : α
  deriving DecidableEq, Repr

namespace Fields

def get (f : Fields α) : Position → α
  | .minute => f.minute
  | .hour => f.hour
  | .dayOfMonth => f.dayOfMonth
  | .month => f.month
  | .dayOfWeek => f.dayOfWeek

def toList (f : Fields α) : List α := [f.minute, f.hour, f.dayOfMonth, f.month, f.dayOfWeek]

def ofList? : List α → Option (Fields α)
  | [m, h, dom, mon, dow] => some ⟨m, h, dom, mon, dow⟩
  | _ => none

@[simp] theorem ofList?_toList (f : Fields α) : ofList? f.toList = some f := rfl

theorem ofList?_isSome_iff {l : List α} : (ofList? l).isSome = true ↔ l.length = 5 := by
  match l with
  | [] | [_] | [_, _] | [_, _, _] | [_, _, _, _] | [_, _, _, _, _] => simp [ofList?]
  | _ :: _ :: _ :: _ :: _ :: _ :: _ => simp [ofList?]

/-- Treats the positions in order; the first failure is the failure of the whole. -/
def traverse (f : Position → α → Except ε β) (x : Fields α) : Except ε (Fields β) := do
  let minute ← f .minute x.minute
  let hour ← f .hour x.hour
  let dayOfMonth ← f .dayOfMonth x.dayOfMonth
  let month ← f .month x.month
  let dayOfWeek ← f .dayOfWeek x.dayOfWeek
  return ⟨minute, hour, dayOfMonth, month, dayOfWeek⟩

end Fields

def aliases : List (String × Fields String) := [
  ("@yearly", ⟨"0", "0", "1", "1", "*"⟩),
  ("@annually", ⟨"0", "0", "1", "1", "*"⟩),
  ("@monthly", ⟨"0", "0", "1", "*", "*"⟩),
  ("@weekly", ⟨"0", "0", "*", "*", "0"⟩),
  ("@daily", ⟨"0", "0", "*", "*", "*"⟩),
  ("@hourly", ⟨"0", "*", "*", "*", "*"⟩)]

def aliasFields? (name : String) : Option (Fields String) := aliases.lookup name

end CronLint
