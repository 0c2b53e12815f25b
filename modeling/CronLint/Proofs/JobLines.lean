import CronLint.Crontab.Entry
import CronLint.Proofs.UnitSteps
import Mathlib.Data.List.DropRight

/-!
# Lines of jobs

Cutting words off a text gives its first words in order, and what stands after them holds the
others. So a line that starts with an alias or with five words and goes on to a command is a job,
whose expression consists of these words with one space between them.
-/
namespace CronLint

open Text

namespace Text

variable {cs a b : List Char} {c : Char}

/-! ### Words -/

theorem words_append_blank (hc : isBlank c = true) (a b : List Char) :
    words (a ++ c :: b) = words a ++ words b := by
  rw [words, segments_append_cons hc, List.filter_append]
  rfl

theorem words_trimStart (cs : List Char) : words (trimStart cs) = words cs := by
  induction cs with
  | nil => rfl
  | cons c cs ih =>
    unfold trimStart at ih ⊢
    by_cases hc : isBlank c = true
    · rw [List.dropWhile_cons_of_pos hc, ih]
      exact (words_append_blank hc [] cs).symm
    · rw [List.dropWhile_cons_of_neg hc]

theorem words_trimEnd (cs : List Char) : words (trimEnd cs) = words cs := by
  induction cs using List.reverseRecOn with
  | nil => rfl
  | append_singleton cs c ih =>
    unfold trimEnd at ih ⊢
    rw [List.reverse_append, List.reverse_singleton, List.singleton_append]
    by_cases hc : isBlank c = true
    · rw [List.dropWhile_cons_of_pos hc, ih, words_append_blank hc]
      exact (List.append_nil _).symm
    · rw [List.dropWhile_cons_of_neg hc, List.reverse_cons, List.reverse_reverse]

theorem words_trim (cs : List Char) : words (trim cs) = words cs := by
  rw [trim, words_trimEnd, words_trimStart]

theorem words_cons_blank (hc : isBlank c = true) (cs : List Char) : words (c :: cs) = words cs :=
  words_append_blank hc [] cs

theorem words_append {w rest : List Char} (hne : w ≠ []) (hw : ∀ c ∈ w, isBlank c = false)
    (hrest : ∀ d ∈ rest.head?, isBlank d = true) : words (w ++ rest) = w :: words rest := by
  have hword : words w = [w] := by
    simpa [joinWith] using words_joinWith (List.cons_ne_nil w []) (by simpa using ⟨hne, hw⟩)
  cases rest with
  | nil => rw [List.append_nil, hword]; rfl
  | cons d rest =>
    have hd : isBlank d = true := hrest d rfl
    rw [words_append_blank hd, words_cons_blank hd, hword, List.singleton_append]

/-- The first word goes up to the first blank. -/
theorem words_of_head (hc : isBlank c = false) : words (c :: cs) =
    (c :: cs).takeWhile (!isBlank ·) :: words ((c :: cs).dropWhile (!isBlank ·)) := by
  conv_lhs => rw [← List.takeWhile_append_dropWhile (p := (!isBlank ·)) (l := c :: cs)]
  apply words_append
  · simp [hc]
  · intro d hd
    simpa using List.mem_takeWhile_imp hd
  · intro d hd
    have h := List.head?_dropWhile_not (!isBlank ·) (c :: cs)
    rw [Option.mem_def.mp hd] at h
    simpa using h

theorem head_of_trimStart {d : Char} {rest : List Char} (h : trimStart cs = d :: rest) :
    isBlank d = false := by
  have hhead := List.head?_dropWhile_not isBlank cs
  rwa [show cs.dropWhile isBlank = d :: rest from h] at hhead

theorem trimStart_eq_nil_iff : trimStart cs = [] ↔ words cs = [] := by
  rw [← words_trimStart]
  cases h : trimStart cs with
  | nil => simp [words, segments]
  | cons d rest => simp [words_of_head (head_of_trimStart h)]

theorem words_takeWords (n : Nat) (cs : List Char) :
    words (takeWords n cs).2 = (words cs).drop n := by
  -- The text is cut at its start only, so the induction goes over all that may be left of it.
  induction n generalizing cs with
  | zero => exact words_trimStart cs
  | succ n ih =>
    rw [takeWords, ← words_trimStart cs, ih]
    cases htrim : trimStart cs with
    | nil => simp [words, segments]
    | cons d rest => rw [words_of_head (head_of_trimStart htrim), List.drop_succ_cons]

theorem takeWords_fst {n : Nat} (h : n ≤ (words cs).length) :
    (takeWords n cs).1 = (words cs).take n := by
  induction n generalizing cs with
  | zero => rfl
  | succ n ih =>
    rw [← words_trimStart] at h ⊢
    rw [takeWords]
    cases htrim : trimStart cs with
    | nil => simp [htrim, words, segments] at h
    | cons d rest =>
      have hwords : words (d :: rest) = _ := words_of_head (head_of_trimStart htrim)
      rw [htrim, hwords, List.length_cons] at h
      rw [hwords, List.take_succ_cons]
      exact congrArg _ (ih (Nat.le_of_succ_le_succ h))

theorem trimStart_takeWords (n : Nat) (cs : List Char) :
    trimStart (takeWords n cs).2 = (takeWords n cs).2 := by
  induction n generalizing cs with
  | zero => exact List.dropWhile_idempotent ..
  | succ n ih => exact ih _

theorem takeWords_snd_eq_nil_iff {n : Nat} :
    (takeWords n cs).2 = [] ↔ (words cs).length ≤ n := by
  rw [← trimStart_takeWords, trimStart_eq_nil_iff, words_takeWords, List.drop_eq_nil_iff]

/-! ### Trimming -/

theorem trimStart_append (ha : words a ≠ []) (b : List Char) :
    trimStart (a ++ b) = trimStart a ++ b := by
  have hne : a.dropWhile isBlank ≠ [] := fun h => ha (trimStart_eq_nil_iff.mp h)
  rw [trimStart, List.dropWhile_append, if_neg (by simpa using hne)]
  rfl

theorem trimEnd_append (hb : words b ≠ []) (a : List Char) : trimEnd (a ++ b) = a ++ trimEnd b := by
  have hne : b.reverse.dropWhile isBlank ≠ [] := by
    intro h
    apply hb
    rw [← words_trimEnd, trimEnd, h]
    rfl
  rw [trimEnd, List.reverse_append, List.dropWhile_append, if_neg (by simpa using hne),
    List.reverse_append, List.reverse_reverse]
  rfl

theorem trim_append_blank (ha : words a ≠ []) (hc : isBlank c = true) (hb : words b ≠ []) :
    trim (a ++ c :: b) = trimStart a ++ c :: trimEnd b := by
  rw [trim, trimStart_append ha, trimEnd_append (by rwa [words_cons_blank hc]),
    ← List.singleton_append, trimEnd_append hb, List.singleton_append]

end Text

namespace LineShape

variable {e c cs w rest : List Char}

/-- The text opens a line of a job: an alias, or five words that start neither a comment nor a
variable. -/
def OpensJob (e : List Char) : Prop :=
  (∃ a ∈ aliases, e = a.1.toList) ∨
  ∃ w ws, words e = w :: ws ∧ ws.length = 4 ∧ w.head? ≠ some '#' ∧ w.head? ≠ some '@' ∧
    startsWithVariable w = false

theorem isNameChar_of_isBlank {d : Char} (h : isBlank d = true) : isNameChar d = false := by
  simp only [isBlank, Bool.or_eq_true, Bool.and_eq_true, decide_eq_true_eq, beq_iff_eq] at h
  simp only [isNameChar, isNameStart, Bool.or_eq_false_iff, Bool.and_eq_false_iff,
    decide_eq_false_iff_not, beq_eq_false_iff_ne, Char.le_def, UInt32.le_iff_toNat_le, ne_eq,
    Char.ext_iff, ← UInt32.toNat_inj]
  change ((¬ 65 ≤ d.toNat ∨ ¬ d.toNat ≤ 90) ∧ ¬ d.toNat = 95) ∧ (¬ 48 ≤ d.toNat ∨ ¬ d.toNat ≤ 57)
  omega

/-- A blank ends a name, and it is no equals sign. -/
theorem startsWithVariable_append (hrest : ∀ d ∈ rest.head?, isBlank d = true) (hw : w ≠ []) :
    startsWithVariable (w ++ rest) = startsWithVariable w := by
  obtain ⟨c, w, rfl⟩ := List.exists_cons_of_ne_nil hw
  have hstop : rest.dropWhile isNameChar = rest ∧ rest.head? ≠ some '=' := by
    cases rest with
    | nil => exact ⟨rfl, by simp⟩
    | cons d rest =>
      have hd : isBlank d = true := hrest d rfl
      refine ⟨List.dropWhile_cons_of_neg (by simp [isNameChar_of_isBlank hd]), ?_⟩
      rintro ⟨⟩
      revert hd
      decide
  rw [List.cons_append, startsWithVariable, startsWithVariable, List.dropWhile_append, hstop.1]
  cases hname : w.dropWhile isNameChar with
  | nil => simp [hstop.2]
  | cons d w => rfl

/-- The first words make the expression if others follow. -/
theorem jobAfter_eq (n : Nat) (cs : List Char) : jobAfter n cs =
    if n < (words cs).length then .job (joinWith [' '] ((words cs).take n)) (takeWords n cs).2
    else .invalid := by
  unfold jobAfter
  by_cases h : n < (words cs).length
  · have hrest : ¬ (takeWords n cs).2.isEmpty = true := by
      rw [List.isEmpty_iff, takeWords_snd_eq_nil_iff]
      omega
    rw [if_pos h, ← takeWords_fst h.le]
    exact if_neg hrest
  · rw [if_neg h]
    exact if_pos (List.isEmpty_iff.mpr (takeWords_snd_eq_nil_iff.mpr (not_lt.mp h)))

theorem exists_jobAfter {ws others : List (List Char)} (h : words cs = ws ++ others)
    (hothers : others ≠ []) :
    ∃ rest, jobAfter ws.length cs = .job (joinWith [' '] ws) rest := by
  have hlength : ws.length < (words cs).length := by
    rw [h, List.length_append]
    exact Nat.lt_add_of_pos_right (List.length_pos_iff.mpr hothers)
  rw [jobAfter_eq, if_pos hlength, h, List.take_left]
  exact ⟨_, rfl⟩

theorem startsWithAlias_of_head {d : Char} (hd : d ≠ '@') (cs : List Char) :
    startsWithAlias (d :: cs) = false := by
  have haliases : ∀ name ∈ jobAliases, name.toList.head? = some '@' := by decide
  rw [startsWithAlias, List.any_eq_false]
  intro name hname
  have hat := haliases name hname
  cases hchars : name.toList with
  | nil => simp [hchars] at hat
  | cons a rest =>
    rw [hchars, List.head?_cons, Option.some.injEq] at hat
    simp [hat, hd.symm]

set_option maxRecDepth 4000 in
theorem isWordChar_space : isWordChar ' ' = false := by decide

theorem startsWithAlias_append {a : String} (ha : a ∈ jobAliases) (cs : List Char) :
    startsWithAlias (a.toList ++ ' ' :: cs) = true := by
  rw [startsWithAlias, List.any_eq_true]
  refine ⟨a, ha, ?_⟩
  simp [atWordEnd, isWordChar_space]

/-- A line that starts neither a comment nor a variable has to go on after its expression. -/
theorem ofLine_eq_jobAfter {line : List Char} (hne : trim line ≠ [])
    (hcomment : (trim line).head? ≠ some '#') (hvariable : startsWithVariable (trim line) = false) :
    ofLine line =
      if startsWithAlias (trim line) then jobAfter 1 (trim line) else jobAfter 5 (trim line) := by
  unfold ofLine
  obtain ⟨d, cs, htrim⟩ := List.exists_cons_of_ne_nil hne
  rw [htrim] at hcomment hvariable ⊢
  have hd : d ≠ '#' := by simpa using hcomment
  simp [hd, hvariable]

/-- A trimmed line starts with its first word, and a blank comes after it. -/
theorem exists_trim_eq {w : List Char} {ws : List (List Char)} (he : words e = w :: ws)
    (hc : words c ≠ []) : ∃ rest, trim (e ++ ' ' :: c) = w ++ rest ∧
      (∀ d ∈ rest.head?, isBlank d = true) ∧ w ≠ [] := by
  have htrim : trim (e ++ ' ' :: c) = trimStart e ++ ' ' :: trimEnd c :=
    trim_append_blank (by simp [he]) (by decide) hc
  obtain ⟨d, text, hstart⟩ : ∃ d text, trimStart e = d :: text := by
    apply List.exists_cons_of_ne_nil
    intro hnil
    simp [trimStart_eq_nil_iff.mp hnil] at he
  have hd := head_of_trimStart hstart
  rw [← words_trimStart, hstart, words_of_head hd, List.cons.injEq] at he
  refine ⟨(d :: text).dropWhile (!isBlank ·) ++ ' ' :: trimEnd c, ?_, ?_, ?_⟩
  · rw [htrim, hstart, ← he.1, ← List.append_assoc, List.takeWhile_append_dropWhile]
  · intro b hb
    have hstop := List.head?_dropWhile_not (!isBlank ·) (d :: text)
    cases hrest : (d :: text).dropWhile (!isBlank ·) with
    | nil =>
      rw [hrest, List.nil_append, List.head?_cons, Option.mem_some_iff] at hb
      rw [← hb]
      decide
    | cons b' rest =>
      rw [hrest, List.cons_append, List.head?_cons, Option.mem_some_iff] at hb
      rw [hrest, List.head?_cons] at hstop
      simpa [hb] using hstop
  · rw [← he.1]
    simp [hd]

/-- A text that opens a job, a space and a command are a job. -/
theorem ofLine_of_opensJob (he : OpensJob e) (hc : words c ≠ []) :
    ∃ rest, ofLine (e ++ ' ' :: c) = .job (joinWith [' '] (words e)) rest := by
  have hspace : isBlank ' ' = true := by decide
  have hwords : words (trim (e ++ ' ' :: c)) = words e ++ words c := by
    rw [words_trim, words_append_blank hspace]
  obtain ⟨rest, hjob⟩ := exists_jobAfter hwords hc
  refine ⟨rest, ?_⟩
  rw [← hjob]
  obtain ⟨a, ha, rfl⟩ | ⟨w, ws, hfive, hlength, hcomment, halias, hvariable⟩ := he
  · have hname : ∀ a ∈ aliases, a.1 ∈ jobAliases ∧ words a.1.toList = [a.1.toList] ∧
        trimStart a.1.toList = a.1.toList ∧ a.1.toList.head? = some '@' := by
      decide
    obtain ⟨hmem, hword, hstart, hhead⟩ := hname a ha
    obtain ⟨name, hat⟩ := List.head?_eq_some_iff.mp hhead
    have htrim : trim (a.1.toList ++ ' ' :: c) = a.1.toList ++ ' ' :: trimEnd c := by
      rw [trim_append_blank (by simp [hword]) hspace hc, hstart]
    rw [ofLine_eq_jobAfter, htrim, startsWithAlias_append hmem, hword]
    · rw [if_pos rfl, List.length_singleton]
    · simp [htrim]
    · rw [htrim, hat]
      simp
    · rw [htrim, hat]
      rfl
  · obtain ⟨rest, htrim, hrest, hne⟩ := exists_trim_eq hfive hc
    have hvariable' : startsWithVariable (w ++ rest) = false := by
      rw [startsWithVariable_append hrest hne, hvariable]
    obtain ⟨d, word, rfl⟩ := List.exists_cons_of_ne_nil hne
    have hat : startsWithAlias (d :: word ++ rest) = false :=
      startsWithAlias_of_head (by simpa using halias) _
    rw [ofLine_eq_jobAfter, htrim, hat, hfive, List.length_cons, hlength]
    · rw [if_neg Bool.false_ne_true]
    · simp [htrim]
    · rw [htrim]
      simpa using hcomment
    · rw [htrim, hvariable']

end LineShape

/-! ### The job in a line -/

namespace Job

variable (p : Parser) (expression rest : List Char) (line : Int)

theorem line_ofLine : (ofLine p expression rest line).line = line := rfl

theorem expression_ofLine :
    (ofLine p expression rest line).expression = String.ofList expression := rfl

/-- A job carries the complaint about its own expression. -/
theorem fault_ofLine : (ofLine p expression rest line).fault =
    p.faultOf (ofLine p expression rest line).expression := rfl

end Job

theorem exists_jobsOf_ofLine (p : Parser) {e c : List Char} (n : Int)
    (he : LineShape.OpensJob e) (hc : words c ≠ []) :
    ∃ job, jobsOf [Entry.ofLine p (e ++ ' ' :: c) n] = [job] ∧ job.line = n ∧
      job.expression = String.ofList (joinWith [' '] (words e)) ∧
      job.fault = p.faultOf job.expression := by
  obtain ⟨rest, hshape⟩ := LineShape.ofLine_of_opensJob he hc
  refine ⟨Job.ofLine p (joinWith [' '] (words e)) rest n, ?_, Job.line_ofLine ..,
    Job.expression_ofLine .., Job.fault_ofLine ..⟩
  simp [jobsOf, Entry.ofLine, Entry.job?, hshape]

end CronLint
