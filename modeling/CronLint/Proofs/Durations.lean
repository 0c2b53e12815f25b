import CronLint.Duration
import CronLint.Proofs.Literals
import CronLint.Proofs.Outcomes

/-!
# The grammar of durations

A duration is one number, or it consists of amounts of hours, minutes and seconds in this order,
each of them at most once. Reading accepts exactly the durations of one minute at least.
-/
namespace CronLint

namespace Text

variable {cs : List Char} {c : Char}

/-! ### Digits -/

/-- The number that a text of decimal digits spells. -/
def numeral (digits : List Char) : Nat := ofDigits (digits.filterMap digitValue?)

theorem isDecimal_iff : isDecimal c = true ↔ ∃ d, digitValue? c = some d := Option.isSome_iff_exists

theorem isDigit_of_isDecimal (h : isDecimal c = true) : isDigit c = true := by
  rw [isDigit, h, Bool.true_or]

theorem isNumberBlank_of_isDigit (h : isDigit c = true) : isNumberBlank c = false := by
  have hzeros : ∀ z ∈ digitZeros, 32 < z ∧ (z + 9 < 0x85 ∨ 0xa0 < z) ∧
      (z + 9 < 0x1680 ∨ 0x1680 < z) ∧ (z + 9 < 0x2000 ∨ 0x3000 < z) := by
    decide
  have hothers : ∀ r ∈ otherDigits, 0xa0 < r.1 ∧ (r.2 < 0x1680 ∨ 0x1680 < r.1) ∧
      (r.2 < 0x2000 ∨ 0x205f < r.1) ∧ (r.2 < 0x3000 ∨ 0x3000 < r.1) := by
    decide
  rw [isDigit, Bool.or_eq_true] at h
  rw [← Bool.not_eq_true]
  simp only [isNumberBlank, isBlank, Bool.and_eq_true, Bool.or_eq_true, decide_eq_true_eq,
    beq_iff_eq]
  rcases h with hdecimal | hother
  · simp only [isDecimal, digitValue?, Option.isSome_map, List.find?_isSome, Bool.and_eq_true,
      decide_eq_true_eq] at hdecimal
    obtain ⟨z, hz, hlow, hhigh⟩ := hdecimal
    have := hzeros z hz
    omega
  · obtain ⟨r, hr, hlow, hhigh⟩ := inRanges_iff.mp hother
    have := hothers r hr
    omega

theorem trimNumber_eq_self (h : ∀ c ∈ cs, isNumberBlank c = false) : trimNumber cs = cs := by
  have hkept {l : List Char} (hl : ∀ c ∈ l, isNumberBlank c = false) :
      l.dropWhile isNumberBlank = l := by
    rw [List.dropWhile_eq_self_iff]
    intro hlength
    simp [hl _ (List.getElem_mem hlength)]
  have hreverse : ∀ c ∈ cs.reverse, isNumberBlank c = false := by simpa using h
  rw [trimNumber, hkept h, hkept hreverse, List.reverse_reverse]

theorem readSign_of_decimal (h : ∀ c ∈ cs, isDecimal c = true) : readSign cs = (1, cs) := by
  unfold readSign
  split
  · exact absurd (h '-' List.mem_cons_self) (by decide)
  · exact absurd (h '+' List.mem_cons_self) (by decide)
  · rfl

theorem digitRun?_of_decimal (hne : cs ≠ []) (h : ∀ c ∈ cs, isDecimal c = true) :
    digitRun? cs = some (cs.filterMap digitValue?) := by
  induction cs with
  | nil => exact absurd rfl hne
  | cons c cs ih =>
    obtain ⟨hc, hcs⟩ := List.forall_mem_cons.mp h
    obtain ⟨d, hd⟩ := isDecimal_iff.mp hc
    cases cs with
    | nil => simp [digitRun?, hd]
    | cons c' rest =>
      have hrest := ih (List.cons_ne_nil _ _) hcs
      rw [List.filterMap_cons_some hd]
      unfold digitRun?
      split
      · next hnone =>
        rw [hd] at hnone
        cases hnone
      · next h => cases h
      · next score _ heq =>
        obtain ⟨rfl, -⟩ := List.cons.inj heq
        exact absurd (hcs '_' List.mem_cons_self) (by decide)
      · next d' hd' _ _ =>
        obtain rfl := Option.some.inj (hd.symm.trans hd')
        rw [hrest]
        rfl

theorem readInteger_of_decimal (hne : cs ≠ []) (h : ∀ c ∈ cs, isDecimal c = true) :
    readInteger cs =
      if maxDigits < cs.length then .error (.tooLong cs.length) else .ok (numeral cs) := by
  have htrim : trimNumber cs = cs :=
    trimNumber_eq_self fun c hc => isNumberBlank_of_isDigit (isDigit_of_isDecimal (h c hc))
  have hrun : cs.takeWhile (fun c => isDecimal c || c == '_') = cs := by
    rw [List.takeWhile_eq_self_iff]
    intro c hc
    rw [h c hc, Bool.true_or]
  have hlength : (cs.filterMap digitValue?).length = cs.length := by
    rw [List.length_filterMap_eq_countP, List.countP_eq_length]
    exact h
  unfold readInteger
  simp only [htrim, readSign_of_decimal h, hrun, digitRun?_of_decimal hne h, hlength]
  simp [numeral]

theorem isDecimal_of_integer? {v : Int} (h : integer? cs = some v)
    (hdigits : ∀ c ∈ cs, isDigit c = true) : ∀ c ∈ cs, isDecimal c = true := by
  intro c hc
  have hdigit := hdigits c hc
  obtain hblank | hdecimal | hsign := isLiteralChar_of_integer? h hc
  · rw [isNumberBlank_of_isDigit hdigit] at hblank
    cases hblank
  · exact hdecimal
  · have hsigns : ∀ d, d = '_' ∨ d = '-' ∨ d = '+' → isDigit d = false := by
      simp only [forall_eq_or_imp, forall_eq]
      decide
    rw [hsigns c hsign] at hdigit
    cases hdigit

end Text

namespace Duration

open Text

variable {cs digits rest text : List Char} {unit : Char} {n : Nat}

/-! ### The grammar -/

/-- Decimal digits, few enough to be read as a number, that spell `n`. -/
structure Spells (digits : List Char) (n : Nat) : Prop where
  nonempty : digits ≠ []
  decimal : ∀ c ∈ digits, isDecimal c = true
  length_le : digits.length ≤ maxDigits
  value : n = numeral digits

/-- An amount of a unit, which may be missing. -/
inductive Amount (unit : Char) : List Char → Nat → Prop
  | missing : Amount unit [] 0
  | given {digits : List Char} {n : Nat} (h : Spells digits n) : Amount unit (digits ++ [unit]) n

/-- The text is a duration of `n` minutes. -/
inductive Written : List Char → Nat → Prop
  | number {digits : List Char} {n : Nat} (h : Spells digits n) : Written digits n
  | amounts {a b c : List Char} {hours minutes seconds : Nat} (ha : Amount 'h' a hours)
      (hb : Amount 'm' b minutes) (hc : Amount 's' c seconds) (hne : a ++ (b ++ c) ≠ []) :
      Written (a ++ (b ++ c)) (60 * hours + minutes + seconds / 60)

/-! ### Numbers and amounts -/

theorem amount_of_spells (h : Spells digits n) : amount digits = .ok n := by
  have hlength : ¬ maxDigits < digits.length := not_lt.mpr h.length_le
  rw [amount, if_neg (by simpa using h.nonempty), readInteger_of_decimal h.nonempty h.decimal,
    if_neg hlength, h.value]
  rfl

theorem spells_of_amount (hne : digits ≠ []) (hdigits : ∀ c ∈ digits, isDigit c = true)
    (h : amount digits = .ok n) : Spells digits n := by
  have hdecimal : ∀ c ∈ digits, isDecimal c = true := by
    rw [amount, if_neg (by simpa using hne)] at h
    cases hread : readInteger digits with
    | error fault => cases fault <;> simp [hread] at h
    | ok v => exact isDecimal_of_integer? (v := v) (by rw [integer?, hread]; rfl) hdigits
  rw [amount, if_neg (by simpa using hne), readInteger_of_decimal hne hdecimal] at h
  by_cases hlong : maxDigits < digits.length
  · rw [if_pos hlong] at h
    cases h
  · rw [if_neg hlong] at h
    simp only [Int.toNat_natCast, Except.ok.injEq] at h
    exact ⟨hne, hdecimal, not_lt.mp hlong, h.symm⟩

/-- Digits up to a unit are taken if it is the one looked for. -/
theorem takeAmount_append {u : Char} (hne : digits ≠ []) (h : ∀ c ∈ digits, isDecimal c = true)
    (hu : isDecimal u = false) (rest : List Char) :
    takeAmount unit (digits ++ u :: rest) =
      if u = unit then (digits, rest) else ([], digits ++ u :: rest) := by
  have hnone : digits.dropWhile isDecimal = [] := List.dropWhile_eq_nil_iff.mpr h
  have hall : digits.takeWhile isDecimal = digits := List.takeWhile_eq_self_iff.mpr h
  unfold takeAmount
  simp [List.dropWhile_append, List.takeWhile_append, hnone, hall, hu, hne]

theorem takeAmount_cases (unit : Char) (cs : List Char) : takeAmount unit cs = ([], cs) ∨
    ∃ digits rest, takeAmount unit cs = (digits, rest) ∧ digits ≠ [] ∧
      (∀ c ∈ digits, isDecimal c = true) ∧ cs = digits ++ unit :: rest := by
  have hsplit := List.takeWhile_append_dropWhile (p := isDecimal) (l := cs)
  unfold takeAmount
  cases hdrop : cs.dropWhile isDecimal with
  | nil => exact Or.inl rfl
  | cons c rest =>
    dsimp only
    split_ifs with hunit
    · refine Or.inr ⟨_, rest, rfl, hunit.2, fun c hc => List.mem_takeWhile_imp hc, ?_⟩
      rw [← hunit.1, ← hdrop, hsplit]
    · exact Or.inl rfl

/-- What is taken for an amount is one, and it is what stands in front of the rest. -/
theorem exists_amount_of_takeAmount (h : takeAmount unit cs = (digits, rest))
    (hread : amount digits = .ok n) : ∃ text, cs = text ++ rest ∧ Amount unit text n := by
  obtain hmissing | ⟨digits', rest', htaken, hne, hdecimal, heq⟩ := takeAmount_cases unit cs
  · rw [hmissing, Prod.mk.injEq] at h
    rw [← h.1] at hread
    cases hread
    exact ⟨[], h.2, .missing⟩
  · rw [htaken, Prod.mk.injEq] at h
    rw [← h.1] at hread
    have hspells := spells_of_amount hne (fun c hc => isDigit_of_isDecimal (hdecimal c hc)) hread
    refine ⟨digits' ++ [unit], ?_, .given hspells⟩
    rw [heq, ← h.2, List.append_assoc, List.singleton_append]

theorem Amount.exists_takeAmount (h : Amount unit text n) (hunit : isDecimal unit = false)
    (hrest : takeAmount unit rest = ([], rest)) :
    ∃ digits, takeAmount unit (text ++ rest) = (digits, rest) ∧ amount digits = .ok n := by
  cases h with
  | missing => exact ⟨[], hrest, rfl⟩
  | @given digits n hspells =>
    refine ⟨digits, ?_, amount_of_spells hspells⟩
    rw [List.append_assoc, List.singleton_append,
      takeAmount_append hspells.nonempty hspells.decimal hunit, if_pos rfl]

theorem Amount.takeAmount_other {other : Char} (h : Amount other text n)
    (hother : isDecimal other = false) (hne : other ≠ unit)
    (hrest : takeAmount unit rest = ([], rest)) :
    takeAmount unit (text ++ rest) = ([], text ++ rest) := by
  cases h with
  | missing => exact hrest
  | given hspells =>
    rw [List.append_assoc, List.singleton_append,
      takeAmount_append hspells.nonempty hspells.decimal hother, if_neg hne]

/-- An amount that is not missing ends in its unit. -/
theorem Amount.eq_nil_of_digits (h : Amount unit text n) (hunit : isDigit unit = false)
    (hdigits : ∀ c ∈ text, isDigit c = true) : text = [] := by
  cases h with
  | missing => rfl
  | given =>
    have hlast := hdigits unit (by simp)
    rw [hunit] at hlast
    cases hlast

/-! ### Durations -/

theorem takeAmount_nil (unit : Char) : takeAmount unit [] = ([], []) := rfl

theorem minutesOf_of_spells (h : Spells cs n) : minutesOf cs = .ok n := by
  have hdigits : cs.all isDigit = true := by
    rw [List.all_eq_true]
    exact fun c hc => isDigit_of_isDecimal (h.decimal c hc)
  rw [minutesOf, if_neg (by simpa using h.nonempty), if_pos hdigits, amount_of_spells h]

theorem minutesOf_of_amounts {a b c : List Char} {hours minutes seconds : Nat}
    (ha : Amount 'h' a hours) (hb : Amount 'm' b minutes) (hc : Amount 's' c seconds)
    (hne : a ++ (b ++ c) ≠ []) :
    minutesOf (a ++ (b ++ c)) = .ok (60 * hours + minutes + seconds / 60) := by
  -- The units are no digits, so a text without letters holds no amount.
  have hletters : ¬ (a ++ (b ++ c)).all isDigit = true := by
    rw [List.all_eq_true]
    intro hall
    simp only [List.mem_append, or_imp, forall_and] at hall
    apply hne
    rw [ha.eq_nil_of_digits (by decide) hall.1, hb.eq_nil_of_digits (by decide) hall.2.1,
      hc.eq_nil_of_digits (by decide) hall.2.2]
    rfl
  have hother {unit : Char} (hs : 's' ≠ unit) : takeAmount unit c = ([], c) := by
    have h := hc.takeAmount_other (by decide) hs (takeAmount_nil unit)
    rwa [List.append_nil] at h
  obtain ⟨_, hafterHours, hhours⟩ := ha.exists_takeAmount (by decide)
    (hb.takeAmount_other (by decide) (by decide) (hother (by decide)))
  obtain ⟨_, hafterMinutes, hminutes⟩ := hb.exists_takeAmount (by decide) (hother (by decide))
  obtain ⟨_, hafterSeconds, hseconds⟩ := hc.exists_takeAmount (by decide) (takeAmount_nil 's')
  rw [List.append_nil] at hafterSeconds
  rw [minutesOf, if_neg (by simpa using hne), if_neg hletters]
  simp only [hafterHours, hafterMinutes, hafterSeconds]
  rw [if_pos List.isEmpty_nil, hhours, hminutes, hseconds, Nat.mul_comm]
  rfl

theorem written_of_minutesOf (h : minutesOf cs = .ok n) : Written cs n := by
  unfold minutesOf at h
  by_cases hempty : cs.isEmpty = true
  · rw [if_pos hempty] at h
    cases h
  rw [if_neg hempty] at h
  rw [List.isEmpty_iff] at hempty
  by_cases hdigits : cs.all isDigit = true
  · rw [if_pos hdigits] at h
    exact .number (spells_of_amount hempty (List.all_eq_true.mp hdigits) h)
  rw [if_neg hdigits] at h
  cases hhours : takeAmount 'h' cs with
  | mk hourDigits afterHours =>
    cases hminutes : takeAmount 'm' afterHours with
    | mk minuteDigits afterMinutes =>
      cases hseconds : takeAmount 's' afterMinutes with
      | mk secondDigits rest =>
        simp only [hhours, hminutes, hseconds] at h
        by_cases hrest : rest.isEmpty = true
        · rw [if_pos hrest] at h
          simp only [bind_eq_ok_iff, pure_eq_ok_iff] at h
          obtain ⟨hours, hreadHours, minutes, hreadMinutes, seconds, hreadSeconds, hvalue⟩ := h
          obtain ⟨a, rfl, ha⟩ := exists_amount_of_takeAmount hhours hreadHours
          obtain ⟨b, rfl, hb⟩ := exists_amount_of_takeAmount hminutes hreadMinutes
          obtain ⟨c, rfl, hc⟩ := exists_amount_of_takeAmount hseconds hreadSeconds
          rw [List.isEmpty_iff] at hrest
          rw [hrest, List.append_nil] at hempty ⊢
          rw [← hvalue, Nat.mul_comm]
          exact .amounts ha hb hc hempty
        · rw [if_neg hrest] at h
          cases h

theorem minutesOf_eq_ok_iff : minutesOf cs = .ok n ↔ Written cs n := by
  constructor
  · exact written_of_minutesOf
  · intro h
    cases h with
    | number h => exact minutesOf_of_spells h
    | amounts ha hb hc hne => exact minutesOf_of_amounts ha hb hc hne

/-- A text is read as a number of minutes if and only if it is a duration of so many minutes, blanks
around it aside, and there is one at least. Any other text is refused. -/
theorem readMinutes_accepts_durations (s : String) :
    (∀ n, readMinutes s = .ok n ↔ Written (trim s.toList) n ∧ 1 ≤ n) ∧
      ((∃ fault, readMinutes s = .error fault) ↔ ¬ ∃ n, Written (trim s.toList) n ∧ 1 ≤ n) := by
  have haccepted (n : Nat) : readMinutes s = .ok n ↔ Written (trim s.toList) n ∧ 1 ≤ n := by
    simp only [readMinutes, bind_eq_ok_iff, minutesOf_eq_ok_iff]
    constructor
    · intro h
      obtain ⟨minutes, hwritten, hread⟩ := h
      split_ifs at hread with hshort
      obtain rfl := Except.ok.inj hread
      exact ⟨hwritten, not_lt.mp hshort⟩
    · intro h
      refine ⟨n, h.1, ?_⟩
      rw [if_neg (not_lt.mpr h.2)]
  refine ⟨haccepted, ?_⟩
  simp only [← haccepted]
  cases readMinutes s with
  | ok n => simp
  | error fault => simp

end Duration

end CronLint
