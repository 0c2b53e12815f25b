/-!
# Grouping by a key

`groupByKey` sorts a list by a key and puts the elements of each key into a group. Groups come in
ascending order of the keys, and the elements of a group in the order of the list.
-/
namespace CronLint

/-- Puts an element in front of groups, into the first of them if that has the same key. -/
def joinGroup (key : α → Int) (a : α) : List (List α) → List (List α)
  | (b :: bs) :: groups =>
    if key a = key b then (a :: b :: bs) :: groups else [a] :: (b :: bs) :: groups
  | groups => [a] :: groups

def groupNeighbours (key : α → Int) (items : List α) : List (List α) :=
  items.foldr (joinGroup key) []

def groupByKey (key : α → Int) (items : List α) : List (List α) :=
  groupNeighbours key (items.mergeSort fun a b => decide (key a ≤ key b))

theorem flatten_joinGroup (key : α → Int) (a : α) (groups : List (List α)) :
    (joinGroup key a groups).flatten = a :: groups.flatten := by
  unfold joinGroup
  split
  · split <;> simp
  · simp

theorem flatten_groupNeighbours (key : α → Int) (items : List α) :
    (groupNeighbours key items).flatten = items := by
  induction items with
  | nil => rfl
  | cons a rest ih =>
    change (joinGroup key a (groupNeighbours key rest)).flatten = _
    rw [flatten_joinGroup, ih]

theorem flatten_groupByKey_perm (key : α → Int) (items : List α) :
    (groupByKey key items).flatten.Perm items := by
  rw [groupByKey, flatten_groupNeighbours]
  exact List.mergeSort_perm items _

end CronLint
