import CronLint.Proofs.Outcomes

/-!
# Failure step by step

A computation that may fail does so at its first failing step. The lemmas name that step: one after
the other, along a list, and over the five positions from left to right. Replacing the faults of a
computation comes to replacing those of its steps, so two computations whose steps fail alike fail
alike.
-/
namespace CronLint

theorem bind_eq_error_iff {x : Except ε α} {f : α → Except ε β} {e : ε} :
    (x >>= f) = .error e ↔ x = .error e ∨ ∃ a, x = .ok a ∧ f a = .error e := by
  cases x with
  | error e' => simp [bind, Except.bind]
  | ok a => simp [bind, Except.bind]

theorem map_eq_error_iff {x : Except ε α} {f : α → β} {e : ε} :
    x.map f = .error e ↔ x = .error e := by
  cases x with
  | error e' => simp [Except.map]
  | ok a => simp [Except.map]

theorem readAll_eq_error_iff {f : α → Except ε β} {l : List α} {e : ε} :
    readAll f l = .error e ↔ ∃ before a after, l = before ++ a :: after ∧
      (∀ b ∈ before, ∃ c, f b = .ok c) ∧ f a = .error e := by
  constructor
  · intro h
    induction l with
    | nil => cases h
    | cons a rest ih =>
      rw [readAll, bind_eq_error_iff] at h
      rcases h with h | ⟨b, hb, h⟩
      · exact ⟨[], a, rest, rfl, by simp, h⟩
      · have hrest : readAll f rest = .error e := by
          obtain hrest | ⟨_, -, hpure⟩ := bind_eq_error_iff.mp h
          · exact hrest
          · cases hpure
        obtain ⟨before, a', after, rfl, hbefore, ha'⟩ := ih hrest
        refine ⟨a :: before, a', after, rfl, ?_, ha'⟩
        rw [List.forall_mem_cons]
        exact ⟨⟨b, hb⟩, hbefore⟩
  · rintro ⟨before, a, after, rfl, hbefore, ha⟩
    induction before with
    | nil =>
      rw [List.nil_append, readAll, bind_eq_error_iff]
      exact Or.inl ha
    | cons b before ih =>
      obtain ⟨⟨c, hc⟩, hbefore⟩ := List.forall_mem_cons.mp hbefore
      rw [List.cons_append, readAll, bind_eq_error_iff]
      exact Or.inr ⟨c, hc, bind_eq_error_iff.mpr (Or.inl (ih hbefore))⟩

def Position.all : List Position := [minute, hour, dayOfMonth, month, dayOfWeek]

/-- Treating the five positions is reading them from left to right. -/
theorem Fields.map_toList_traverse (f : Position → α → Except ε β) (x : Fields α) :
    (x.traverse f).map Fields.toList = readAll (fun p => f p (x.get p)) Position.all := by
  simp only [Fields.traverse, Position.all, readAll, Fields.get]
  cases f .minute x.minute with
  | error e => rfl
  | ok minute =>
    cases f .hour x.hour with
    | error e => rfl
    | ok hour =>
      cases f .dayOfMonth x.dayOfMonth with
      | error e => rfl
      | ok day =>
        cases f .month x.month with
        | error e => rfl
        | ok month => cases f .dayOfWeek x.dayOfWeek <;> rfl

theorem Fields.traverse_eq_error_iff {f : Position → α → Except ε β} {x : Fields α} {e : ε} :
    x.traverse f = .error e ↔ ∃ before p after, Position.all = before ++ p :: after ∧
      (∀ q ∈ before, ∃ b, f q (x.get q) = .ok b) ∧ f p (x.get p) = .error e := by
  rw [← map_eq_error_iff (f := Fields.toList), Fields.map_toList_traverse, readAll_eq_error_iff]

theorem Fields.traverse_congr {f g : Position → α → Except ε β} {x y : Fields α}
    (h : ∀ p, f p (x.get p) = g p (y.get p)) : x.traverse f = y.traverse g := by
  simp only [Fields.traverse]
  rw [show f .minute x.minute = _ from h .minute, show f .hour x.hour = _ from h .hour,
    show f .dayOfMonth x.dayOfMonth = _ from h .dayOfMonth,
    show f .month x.month = _ from h .month, show f .dayOfWeek x.dayOfWeek = _ from h .dayOfWeek]
  rfl

theorem readAll_map (f : α' → Except ε β) (g : α → α') (l : List α) :
    readAll f (l.map g) = readAll (fun a => f (g a)) l := by
  induction l with
  | nil => rfl
  | cons a rest ih => rw [List.map_cons, readAll, readAll, ih]

/-! ### Other faults -/

/-- Two computations that agree after their results are replaced have the same fault or succeed
both. -/
theorem map_eq_map_iff {f : α → β} {g : α' → β} {x : Except ε α} {y : Except ε α'} :
    x.map f = y.map g ↔
      (∃ a b, x = .ok a ∧ y = .ok b ∧ f a = g b) ∨ ∃ e, x = .error e ∧ y = .error e := by
  cases x with
  | ok a => cases y <;> simp [Except.map]
  | error e => cases y <;> simp [Except.map, eq_comm]

/-- Two computations that agree after their faults are replaced have the same result or fail
both. -/
theorem mapError_eq_mapError_iff {g : ε → ε'} {x y : Except ε α} :
    x.mapError g = y.mapError g ↔
      (∃ a, x = .ok a ∧ y = .ok a) ∨ ∃ e e', x = .error e ∧ y = .error e' ∧ g e = g e' := by
  cases x with
  | ok a => cases y <;> simp [Except.mapError, eq_comm]
  | error e => cases y <;> simp [Except.mapError]

theorem mapError_bind (g : ε → ε') (x : Except ε α) (f : α → Except ε β) :
    (x >>= f).mapError g = x.mapError g >>= fun a => (f a).mapError g := by
  cases x <;> rfl

theorem mapError_map (g : ε → ε') (x : Except ε α) (f : α → β) :
    (x.map f).mapError g = (x.mapError g).map f := by
  cases x <;> rfl

theorem readAll_mapError (g : ε → ε') (f : α → Except ε β) (l : List α) :
    (readAll f l).mapError g = readAll (fun a => (f a).mapError g) l := by
  induction l with
  | nil => rfl
  | cons a rest ih =>
    simp only [readAll, mapError_bind, ih]
    rfl

theorem Fields.traverse_mapError (g : ε → ε') (f : Position → α → Except ε β) (x : Fields α) :
    (x.traverse f).mapError g = x.traverse fun p a => (f p a).mapError g := by
  simp only [Fields.traverse, mapError_bind]
  rfl

end CronLint
