import CronLint.Proofs.OverlapMinutes

/-!
# Counts

What a loop counts is the size of a set. The places of a list stand for its elements where some of
them are equal, so that each counts by itself.
-/
namespace CronLint

variable {α β : Type} {l : List α}

theorem count_eraseDups [BEq α] [LawfulBEq α] (l : List α) (a : α) :
    l.eraseDups.count a = if 0 < l.count a then 1 else 0 := by
  split_ifs with ha
  · exact List.count_eq_one_of_mem (nodup_eraseDups l)
      (List.mem_eraseDups.mpr (List.count_pos_iff.mp ha))
  · exact List.count_eq_zero.mpr fun h => ha (List.count_pos_iff.mpr (List.mem_eraseDups.mp h))

end CronLint
