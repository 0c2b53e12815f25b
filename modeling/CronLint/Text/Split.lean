/-!
# Cutting text at separators

Text is handled as a list of characters. `segments` cuts at every separator and `breakOn` at the
first one; neither loses a character, and neither leaves a separator in what it returns.
-/
namespace CronLint.Text

/-- The stretches between the characters that satisfy `p`. There is always at least one, and two
neighbouring separators have an empty stretch between them. -/
def segments (p : Char → Bool) : List Char → List (List Char)
  | [] => [[]]
  | c :: cs =>
    if p c then [] :: segments p cs
    else
      match segments p cs with
      | [] => [[c]]
      | s :: rest => (c :: s) :: rest

theorem segments_ne_nil (p : Char → Bool) (cs : List Char) : segments p cs ≠ [] := by
  cases cs with
  | nil => simp [segments]
  | cons c cs =>
    simp only [segments]
    split
    · simp
    · split <;> simp

theorem segments_append_cons {p : Char → Bool} {sep : Char} (h : p sep = true) (a b : List Char) :
    segments p (a ++ sep :: b) = segments p a ++ segments p b := by
  induction a with
  | nil => simp [segments, h]
  | cons c cs ih =>
    by_cases hc : p c = true
    · simp [segments, hc, ih]
    · simp only [List.cons_append, segments, hc, ih]
      cases hs : segments p cs with
      | nil => exact absurd hs (segments_ne_nil p cs)
      | cons s rest => simp

/-- The text before the first `sep` and, if there is one, the text after it. -/
def breakOn (sep : Char) : List Char → List Char × Option (List Char)
  | [] => ([], none)
  | c :: cs =>
    if c = sep then ([], some cs)
    else
      let rest := breakOn sep cs
      (c :: rest.1, rest.2)

theorem breakOn_of_notMem {sep : Char} {cs : List Char} (h : sep ∉ cs) :
    breakOn sep cs = (cs, none) := by
  induction cs with
  | nil => rfl
  | cons c cs ih =>
    have hc : ¬ c = sep := fun e => h (e ▸ List.mem_cons_self)
    have hcs : sep ∉ cs := fun m => h (List.mem_cons_of_mem _ m)
    simp [breakOn, hc, ih hcs]

theorem breakOn_append_cons {sep : Char} {a : List Char} (h : sep ∉ a) (b : List Char) :
    breakOn sep (a ++ sep :: b) = (a, some b) := by
  induction a with
  | nil => simp [breakOn]
  | cons c cs ih =>
    have hc : ¬ c = sep := fun e => h (e ▸ List.mem_cons_self)
    have hcs : sep ∉ cs := fun m => h (List.mem_cons_of_mem _ m)
    simp [breakOn, hc, ih hcs]

def joinWith (sep : List Char) (parts : List (List Char)) : List Char :=
  sep.intercalate parts

end CronLint.Text
