/-!
# Going through a list up to the first failure
-/
namespace CronLint

def readAll (f : α → Except ε β) : List α → Except ε (List β)
  | [] => .ok []
  | a :: rest => do return (← f a) :: (← readAll f rest)

theorem readAll_append (f : α → Except ε β) (a b : List α) :
    readAll f (a ++ b) = do return (← readAll f a) ++ (← readAll f b) := by
  induction a with
  | nil =>
    simp only [List.nil_append, readAll]
    cases readAll f b <;> rfl
  | cons x rest ih =>
    simp only [List.cons_append, readAll, ih]
    cases f x with
    | error e => rfl
    | ok y =>
      cases readAll f rest with
      | error e => rfl
      | ok ys => cases readAll f b <;> rfl

theorem readAll_length {f : α → Except ε β} {l : List α} {r : List β} (h : readAll f l = .ok r) :
    r.length = l.length := by
  induction l generalizing r with
  | nil => cases h; rfl
  | cons a rest ih =>
    simp only [readAll] at h
    cases ha : f a with
    | error e => rw [ha] at h; cases h
    | ok b =>
      cases hr : readAll f rest with
      | error e => rw [ha, hr] at h; cases h
      | ok bs => rw [ha, hr] at h; cases h; simp [ih hr]

end CronLint
