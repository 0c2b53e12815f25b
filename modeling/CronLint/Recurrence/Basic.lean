import CronLint.Calendar.Instant
import CronLint.Recurrence.Span
import CronLint.Text.Blank

/-!
# Recurrences

A recurrence says for every minute whether a job runs in it. It consists of the set of values that
each position admits. A day has to satisfy both day positions, unless each of them is restricted:
then it is enough that it satisfies one.
-/
namespace CronLint

/-- The values that one position admits, in ascending order, and whether one of its members leaves
the position unrestricted. -/
structure ValueSet where
  values : List Nat
  unrestricted : Bool
  deriving DecidableEq, Repr

namespace ValueSet

def ofSpans (p : Position) (spans : List Span) : ValueSet where
  values := (List.range' p.low (p.high - p.low + 1)).filter fun v => spans.any (·.admits v)
  unrestricted := spans.any (·.unrestricted)

theorem mem_ofSpans {p : Position} {spans : List Span} {v : Nat} :
    v ∈ (ofSpans p spans).values ↔ (p.low ≤ v ∧ v ≤ p.high) ∧ ∃ s ∈ spans, s.admits v = true := by
  have := p.low_le_high
  simp only [ofSpans, List.mem_filter, List.mem_range'_1, List.any_eq_true]
  constructor
  · rintro ⟨h, hs⟩; exact ⟨by omega, hs⟩
  · rintro ⟨h, hs⟩; exact ⟨by omega, hs⟩

def read (p : Position) (raw : String) : Except GrammarFault ValueSet :=
  (readAll p.readSpan (Field.members raw)).map (ofSpans p)

end ValueSet

structure Recurrence where
  sets : Fields ValueSet
  deriving DecidableEq, Repr

def wordsOf (s : String) : List String := (Text.words s.toList).map String.ofList

/-- The five fields of an expression, those of an alias included. Blanks around an alias are
ignored if they stand behind it. -/
def splitExpression (expression : String) : Except GrammarFault (Fields String) :=
  if expression.toList.head? = some '@' then
    let name := String.ofList (Text.trim expression.toList)
    match aliasFields? name with
    | some fields => .ok fields
    | none => .error (.unknownAlias name)
  else
    let fields := wordsOf expression
    match Fields.ofList? fields with
    | some fields => .ok fields
    | none => .error (.fieldCount fields)

namespace Recurrence

def eitherDay (r : Recurrence) : Bool :=
  !r.sets.dayOfMonth.unrestricted && !r.sets.dayOfWeek.unrestricted

def ofFields (raw : Fields String) : Except GrammarFault Recurrence :=
  (raw.traverse ValueSet.read).map Recurrence.mk

def ofExpression (expression : String) : Except GrammarFault Recurrence :=
  (splitExpression expression).bind ofFields

open Calendar

/-- Whether the job runs at some time on a day. -/
def onDay (r : Recurrence) (day : Nat) : Bool :=
  let d := Date.ofDayNumber day
  let byDate := r.sets.dayOfMonth.values.contains d.day
  let byWeekday := r.sets.dayOfWeek.values.contains (weekday day)
  r.sets.month.values.contains d.month &&
    (if r.eitherDay then byDate || byWeekday else byDate && byWeekday)

/-- Whether the job runs at a minute of the day, on the days on which it runs. -/
def atTime (r : Recurrence) (minuteOfDay : Nat) : Bool :=
  r.sets.hour.values.contains (minuteOfDay / 60) &&
    r.sets.minute.values.contains (minuteOfDay % 60)

/-- Whether the job runs in a minute, counted from the start of year 1. -/
def runsAt (r : Recurrence) (minute : Nat) : Bool :=
  r.onDay (minute / 1440) && r.atTime (minute % 1440)

end Recurrence

end CronLint
