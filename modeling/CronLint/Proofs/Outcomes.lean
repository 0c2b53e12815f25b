import CronLint.Position
import CronLint.Traversal
import Mathlib.Tactic

/-!
# Success step by step

A computation that may fail succeeds if each of its steps does. The lemmas take it apart at its
steps: one after the other, along a list, and over the five positions.
-/
namespace CronLint

theorem bind_eq_ok_iff {x : Except ε α} {f : α → Except ε β} {b : β} :
    (x >>= f) = .ok b ↔ ∃ a, x = .ok a ∧ f a = .ok b := by
  cases x with
  | error e => simp [bind, Except.bind]
  | ok a => simp [bind, Except.bind]

theorem map_eq_ok_iff {x : Except ε α} {f : α → β} {b : β} :
    x.map f = .ok b ↔ ∃ a, x = .ok a ∧ f a = b := by
  cases x with
  | error e => simp [Except.map]
  | ok a => simp [Except.map]

theorem pure_eq_ok_iff {a b : α} : (pure a : Except ε α) = .ok b ↔ a = b := by
  change Except.ok a = Except.ok b ↔ a = b
  rw [Except.ok.injEq]

theorem exists_of_isOk {x : Except ε α} (h : x.isOk = true) : ∃ a, x = .ok a := by
  cases x with
  | error e => cases h
  | ok a => exact ⟨a, rfl⟩

theorem readAll_eq_ok_iff {f : α → Except ε β} {l : List α} {r : List β} :
    readAll f l = .ok r ↔ List.Forall₂ (fun a b => f a = .ok b) l r := by
  induction l generalizing r with
  | nil =>
    rw [List.forall₂_nil_left_iff, readAll, Except.ok.injEq]
    exact eq_comm
  | cons a rest ih =>
    simp only [readAll, bind_eq_ok_iff, pure_eq_ok_iff, List.forall₂_cons_left_iff, ih]
    constructor
    · rintro ⟨b, hb, bs, hbs, rfl⟩
      exact ⟨b, bs, hb, hbs, rfl⟩
    · rintro ⟨b, bs, hb, hbs, rfl⟩
      exact ⟨b, hb, bs, hbs, rfl⟩

theorem mem_of_readAll {f : α → Except ε β} {l : List α} {r : List β} (h : readAll f l = .ok r)
    {b : β} : b ∈ r ↔ ∃ a ∈ l, f a = .ok b := by
  rw [readAll_eq_ok_iff] at h
  induction h with
  | nil => simp
  | @cons a b' l r ha hrest ih =>
    have hhead : b = b' ↔ f a = .ok b := by
      rw [ha, Except.ok.injEq]
      exact eq_comm
    simp only [List.mem_cons, exists_eq_or_imp, ih, hhead]

theorem exists_of_readAll {f : α → Except ε β} {l : List α} {r : List β}
    (h : readAll f l = .ok r) {a : α} (ha : a ∈ l) : ∃ b, f a = .ok b := by
  rw [readAll_eq_ok_iff] at h
  induction h with
  | nil => simp at ha
  | cons hhead _ ih =>
    rcases List.mem_cons.mp ha with rfl | ha
    · exact ⟨_, hhead⟩
    · exact ih ha

theorem readAll_map_eq_ok_iff {g : α → α'} {f : α' → Except ε β} {f' : α → Except ε β} {l : List α}
    {r : List β} (h : ∀ a ∈ l, ∀ b, f (g a) = .ok b ↔ f' a = .ok b) :
    readAll f (l.map g) = .ok r ↔ readAll f' l = .ok r := by
  induction l generalizing r with
  | nil => rfl
  | cons a rest ih =>
    obtain ⟨ha, hrest⟩ := List.forall_mem_cons.mp h
    simp only [List.map_cons, readAll, bind_eq_ok_iff, pure_eq_ok_iff, ha, ih hrest]

/-! ### The five positions -/

theorem Fields.ofList?_eq_some_iff {l : List α} {x : Fields α} :
    Fields.ofList? l = some x ↔ l = x.toList := by
  constructor
  · intro h
    unfold Fields.ofList? at h
    split at h
    · cases h
      rfl
    · cases h
  · rintro rfl
    exact Fields.ofList?_toList x

theorem Fields.mem_toList_iff {x : Fields α} {a : α} : a ∈ x.toList ↔ ∃ p, x.get p = a := by
  constructor
  · intro h
    simp only [Fields.toList, List.mem_cons, List.not_mem_nil, or_false] at h
    rcases h with rfl | rfl | rfl | rfl | rfl
    · exact ⟨.minute, rfl⟩
    · exact ⟨.hour, rfl⟩
    · exact ⟨.dayOfMonth, rfl⟩
    · exact ⟨.month, rfl⟩
    · exact ⟨.dayOfWeek, rfl⟩
  · rintro ⟨p, rfl⟩
    cases p <;> simp [Fields.toList, Fields.get]

theorem Fields.ofList?_map_eq_some_iff {f : α → β} {l : List α} {y : Fields β} :
    Fields.ofList? (l.map f) = some y ↔
      ∃ x, Fields.ofList? l = some x ∧ ∀ p, y.get p = f (x.get p) := by
  simp only [Fields.ofList?_eq_some_iff]
  constructor
  · intro h
    simp only [Fields.toList, List.map_eq_cons_iff, List.map_eq_nil_iff] at h
    obtain ⟨a, _, rfl, ha, b, _, rfl, hb, c, _, rfl, hc, d, _, rfl, hd, e, _, rfl, he, rfl⟩ := h
    refine ⟨⟨a, b, c, d, e⟩, rfl, ?_⟩
    rintro (_ | _ | _ | _ | _)
    · exact ha.symm
    · exact hb.symm
    · exact hc.symm
    · exact hd.symm
    · exact he.symm
  · rintro ⟨x, rfl, hget⟩
    simp only [Fields.toList, List.map_cons, List.map_nil]
    rw [show y.minute = _ from hget .minute, show y.hour = _ from hget .hour,
      show y.dayOfMonth = _ from hget .dayOfMonth, show y.month = _ from hget .month,
      show y.dayOfWeek = _ from hget .dayOfWeek]
    rfl

theorem Fields.traverse_eq_ok_iff {f : Position → α → Except ε β} {x : Fields α} {y : Fields β} :
    x.traverse f = .ok y ↔ ∀ p, f p (x.get p) = .ok (y.get p) := by
  simp only [Fields.traverse, bind_eq_ok_iff, pure_eq_ok_iff]
  constructor
  · rintro ⟨minute, hminute, hour, hhour, day, hday, month, hmonth, week, hweek, rfl⟩ p
    cases p <;> assumption
  · intro h
    exact ⟨_, h .minute, _, h .hour, _, h .dayOfMonth, _, h .month, _, h .dayOfWeek, rfl⟩

end CronLint
