import Mathlib.Order.Basic
import Mathlib.Data.Int.Order.Basic
import Mathlib.Data.List.Basic
import Mathlib.Data.List.Sort
import CronLint.Analysis.Grouping

/-!
# What the groups are

The groups of a list belong to the keys that occur in it, in ascending order, and the group of a key
is what the list has with this key. Sorting keeps the order of elements with equal keys, so each
group stands in the order of the list.
-/
namespace CronLint

variable {α : Type} {key : α → Int} {items rest : List α} {a : α} {k : Int} {keys : List Int}

/-- The elements with a key, in the order of the list. -/
def withKey (key : α → Int) (items : List α) (k : Int) : List α :=
  items.filter fun a => decide (key a = k)

/-- The keys that occur in a list, each once and in ascending order. -/
structure IsKeys (key : α → Int) (items : List α) (keys : List Int) : Prop where
  ascending : keys.Pairwise (· < ·)
  mem_iff : ∀ k, k ∈ keys ↔ ∃ a ∈ items, key a = k

/-- A list in the order of a key is told by its elements. -/
theorem eq_of_ascending {items' : List α} (h : items.Pairwise fun a b => key a < key b)
    (h' : items'.Pairwise fun a b => key a < key b) (hmem : ∀ a, a ∈ items ↔ a ∈ items') :
    items = items' := by
  have : Std.Irrefl fun a b : α => key a < key b := ⟨fun a => lt_irrefl (key a)⟩
  have : Std.Antisymm fun a b : α => key a < key b := ⟨fun _ _ hab hba => absurd hab hba.asymm⟩
  exact h.eq_of_mem_iff h' hmem

theorem IsKeys.eq {items' : List α} {keys' : List Int} (h : IsKeys key items keys)
    (h' : IsKeys key items' keys')
    (hkeys : ∀ k, (∃ a ∈ items, key a = k) ↔ ∃ a ∈ items', key a = k) : keys = keys' := by
  apply h.ascending.eq_of_mem_iff h'.ascending
  intro k
  rw [h.mem_iff, h'.mem_iff, hkeys]

theorem mem_withKey : a ∈ withKey key items k ↔ a ∈ items ∧ key a = k := by
  simp [withKey]

theorem withKey_cons_self : withKey key (a :: rest) (key a) = a :: withKey key rest (key a) := by
  simp [withKey]

theorem withKey_cons_of_ne (h : key a ≠ k) : withKey key (a :: rest) k = withKey key rest k := by
  simp [withKey, h]

theorem IsKeys.withKey_eq_nil (h : IsKeys key items keys) (hk : k ∉ keys) :
    withKey key items k = [] := by
  rw [List.eq_nil_iff_forall_not_mem]
  intro a ha
  obtain ⟨hmem, hkey⟩ := mem_withKey.mp ha
  exact hk ((h.mem_iff k).mpr ⟨a, hmem, hkey⟩)

/-! ### One more element -/

theorem IsKeys.cons_of_mem (h : IsKeys key rest keys) (ha : key a ∈ keys) :
    IsKeys key (a :: rest) keys where
  ascending := h.ascending
  mem_iff k := by
    simp only [List.exists_mem_cons_iff, h.mem_iff]
    constructor
    · intro hk
      exact Or.inr hk
    · rintro (rfl | hk)
      · exact (h.mem_iff _).mp ha
      · exact hk

theorem IsKeys.cons_of_lt (h : IsKeys key rest keys) (ha : ∀ k ∈ keys, key a < k) :
    IsKeys key (a :: rest) (key a :: keys) where
  ascending := List.pairwise_cons.mpr ⟨ha, h.ascending⟩
  mem_iff k := by
    rw [List.mem_cons, List.exists_mem_cons_iff, h.mem_iff, eq_comm]

theorem exists_joinGroup_eq (h : IsKeys key rest keys) (least : ∀ b ∈ rest, key a ≤ key b) :
    ∃ keys', IsKeys key (a :: rest) keys' ∧
      joinGroup key a (keys.map (withKey key rest)) = keys'.map (withKey key (a :: rest)) := by
  have hleast : ∀ k ∈ keys, key a ≤ k := by
    intro k hk
    obtain ⟨b, hb, rfl⟩ := (h.mem_iff k).mp hk
    exact least b hb
  have hothers : ∀ ks : List Int, (∀ k ∈ ks, key a ≠ k) →
      ks.map (withKey key rest) = ks.map (withKey key (a :: rest)) := by
    intro ks hks
    exact List.map_congr_left fun k hk => (withKey_cons_of_ne (hks k hk)).symm
  by_cases hmem : key a ∈ keys
  · refine ⟨keys, h.cons_of_mem hmem, ?_⟩
    cases keys with
    | nil => cases hmem
    | cons k ks =>
      obtain ⟨hlt, -⟩ := List.pairwise_cons.mp h.ascending
      -- No key is less than that of the element, so only the first group can have it.
      obtain rfl : key a = k := by
        rcases List.mem_cons.mp hmem with heq | hks
        · exact heq
        · have := hlt _ hks
          have := hleast k List.mem_cons_self
          omega
      obtain ⟨b, hb, hkey⟩ := (h.mem_iff (key a)).mp hmem
      cases hgroup : withKey key rest (key a) with
      | nil => exact absurd (mem_withKey.mpr ⟨hb, hkey⟩) (by simp [hgroup])
      | cons c cs =>
        have hc : key c = key a := (mem_withKey.mp (hgroup ▸ List.mem_cons_self)).2
        rw [List.map_cons, List.map_cons, withKey_cons_self, hgroup,
          ← hothers ks fun k hk => (hlt k hk).ne]
        simp only [joinGroup, hc, if_true]
  · have hlt : ∀ k ∈ keys, key a < k := by
      intro k hk
      exact lt_of_le_of_ne (hleast k hk) fun heq => hmem (heq ▸ hk)
    refine ⟨key a :: keys, h.cons_of_lt hlt, ?_⟩
    rw [List.map_cons, withKey_cons_self, h.withKey_eq_nil hmem,
      ← hothers keys fun k hk => (hlt k hk).ne]
    unfold joinGroup
    split
    · next b bs groups hgroups =>
      have hb : key a ≠ key b := by
        intro heq
        obtain ⟨k, hk, hgroup⟩ := List.mem_map.mp (hgroups ▸ List.mem_cons_self)
        obtain ⟨-, hkey⟩ := mem_withKey.mp (hgroup ▸ List.mem_cons_self)
        exact (hlt k hk).ne (heq.trans hkey)
      rw [if_neg hb, hgroups]
    · rfl

/-! ### All elements -/

theorem keyOrder_trans (a b c : α) (hab : decide (key a ≤ key b) = true)
    (hbc : decide (key b ≤ key c) = true) : decide (key a ≤ key c) = true :=
  decide_eq_true ((of_decide_eq_true hab).trans (of_decide_eq_true hbc))

theorem keyOrder_total (a b : α) : (decide (key a ≤ key b) || decide (key b ≤ key a)) = true := by
  simpa using Int.le_total (key a) (key b)

theorem pairwise_mergeSort_key (key : α → Int) (items : List α) :
    (items.mergeSort fun a b => decide (key a ≤ key b)).Pairwise fun a b => key a ≤ key b :=
  (List.pairwise_mergeSort keyOrder_trans keyOrder_total items).imp of_decide_eq_true

/-- Where no two elements have one key, sorting by an order that different keys make strict gives a
strict order. -/
theorem pairwise_mergeSort_of_ne (key : α → Int) {le : α → α → Bool} {lt : α → α → Prop}
    (trans : ∀ a b c, le a b = true → le b c = true → le a c = true)
    (total : ∀ a b, (le a b || le b a) = true)
    (strict : ∀ a b, le a b = true → key a ≠ key b → lt a b)
    (distinct : items.Pairwise fun a b => key a ≠ key b) : (items.mergeSort le).Pairwise lt := by
  have hdistinct : (items.mergeSort le).Pairwise fun a b => key a ≠ key b :=
    ((List.mergeSort_perm items le).pairwise_iff Ne.symm).mpr distinct
  exact (List.pairwise_mergeSort trans total items).imp₂ (fun {a b} => strict a b) hdistinct

theorem exists_groupNeighbours_eq (sorted : items.Pairwise fun a b => key a ≤ key b) :
    ∃ keys, IsKeys key items keys ∧ groupNeighbours key items = keys.map (withKey key items) := by
  induction items with
  | nil => exact ⟨[], ⟨List.Pairwise.nil, by simp⟩, rfl⟩
  | cons a rest ih =>
    obtain ⟨hleast, hrest⟩ := List.pairwise_cons.mp sorted
    obtain ⟨keys, hkeys, hgroups⟩ := ih hrest
    obtain ⟨keys', hkeys', hjoin⟩ := exists_joinGroup_eq hkeys hleast
    refine ⟨keys', hkeys', ?_⟩
    rw [← hjoin, ← hgroups]
    rfl

theorem withKey_mergeSort (key : α → Int) (items : List α) (k : Int) :
    withKey key (items.mergeSort fun a b => decide (key a ≤ key b)) k = withKey key items k := by
  have hsublist : (withKey key items k).Sublist
      (items.mergeSort fun a b => decide (key a ≤ key b)) := by
    apply List.sublist_mergeSort keyOrder_trans keyOrder_total
    · apply List.pairwise_of_forall_mem_list
      intro a ha b hb
      simp [(mem_withKey.mp ha).2, (mem_withKey.mp hb).2]
    · exact List.filter_sublist
  have hkept : withKey key (withKey key items k) k = withKey key items k := by
    simp [withKey]
  symm
  apply List.Sublist.eq_of_length
  · rw [← hkept]
    exact hsublist.filter _
  · exact ((List.mergeSort_perm items _).filter _).length_eq.symm

theorem exists_groupByKey_eq (key : α → Int) (items : List α) :
    ∃ keys, IsKeys key items keys ∧ groupByKey key items = keys.map (withKey key items) := by
  obtain ⟨keys, hkeys, hgroups⟩ := exists_groupNeighbours_eq (pairwise_mergeSort_key key items)
  refine ⟨keys, ⟨hkeys.ascending, ?_⟩, ?_⟩
  · intro k
    simp only [hkeys.mem_iff, List.mem_mergeSort]
  · rw [groupByKey, hgroups]
    exact List.map_congr_left fun k _ => withKey_mergeSort key items k

end CronLint
