import CronLint.Analysis.Validator
import CronLint.Proofs.Encoding

/-!
# Text, streams, files and the user's crontab

A stream and a file give the same entries for the same text, and the user's crontab gives the jobs
of the text in memory. All of them agree on a text unless it holds a character that ends a line in
memory only.
-/
namespace CronLint

namespace Text

variable {p q : Char → Bool} {cs : List Char}

/-! ### Lines -/

/-- A line ends at a break that is not half of a pair. -/
theorem linesBy_cons_of_break {c : Char} (hpair : ∀ rest, c = '\r' → cs = '\n' :: rest → False)
    (hc : p c = true) : linesBy p (c :: cs) = [] :: linesBy p cs := by
  rw [linesBy, if_pos hc]
  exact hpair

/-- Any other character starts the first line, or goes to it. -/
theorem linesBy_cons {c : Char} (hpair : ∀ rest, c = '\r' → cs = '\n' :: rest → False)
    (hc : ¬ p c = true) : linesBy p (c :: cs) =
      (c :: (linesBy p cs).headD []) :: (linesBy p cs).tail := by
  rw [linesBy, if_neg hc]
  · cases linesBy p cs <;> rfl
  · exact hpair

theorem linesBy_congr (h : ∀ c ∈ cs, p c = q c) : linesBy p cs = linesBy q cs := by
  fun_induction linesBy p cs with
  | case1 => rfl
  | case2 cs ih =>
    rw [linesBy, ih fun c hc => h c (by simp [hc])]
  | case3 c cs hpair hc ih =>
    rw [h c List.mem_cons_self] at hc
    rw [linesBy_cons_of_break hpair hc, ih fun c hc => h c (List.mem_cons_of_mem _ hc)]
  | case4 c cs hpair hc hnil ih =>
    rw [h c List.mem_cons_self] at hc
    rw [linesBy_cons hpair hc, ← ih fun c hc => h c (List.mem_cons_of_mem _ hc), hnil]
    rfl
  | case5 c cs hpair hc l ls hlines ih =>
    rw [h c List.mem_cons_self] at hc
    rw [linesBy_cons hpair hc, ← ih fun c hc => h c (List.mem_cons_of_mem _ hc), hlines]
    rfl

theorem not_break_of_mem_linesBy {l : List Char} (hl : l ∈ linesBy p cs) {c : Char} (hc : c ∈ l) :
    ¬ p c = true := by
  fun_induction linesBy p cs generalizing l with
  | case1 => cases hl
  | case2 cs ih =>
    rcases List.mem_cons.mp hl with rfl | hl
    · cases hc
    · exact ih hl hc
  | case3 d cs hpair hd ih =>
    rcases List.mem_cons.mp hl with rfl | hl
    · cases hc
    · exact ih hl hc
  | case4 d cs hpair hd hnil ih =>
    rw [List.mem_singleton] at hl
    rw [hl, List.mem_singleton] at hc
    exact hc ▸ hd
  | case5 d cs hpair hd k ls hlines ih =>
    rcases List.mem_cons.mp hl with rfl | hl
    · rcases List.mem_cons.mp hc with rfl | hc
      · exact hd
      · exact ih (hlines ▸ List.mem_cons_self) hc
    · exact ih (hlines ▸ List.mem_cons_of_mem _ hl) hc

/-- Only breaks get lost. -/
theorem exists_line_of_mem (hreturn : p '\r' = true) (hfeed : p '\n' = true) {c : Char}
    (hc : c ∈ cs) (hbreak : ¬ p c = true) : ∃ l ∈ linesBy p cs, c ∈ l := by
  fun_induction linesBy p cs with
  | case1 => cases hc
  | case2 cs ih =>
    rcases List.mem_cons.mp hc with rfl | hc
    · exact absurd hreturn hbreak
    · rcases List.mem_cons.mp hc with rfl | hc
      · exact absurd hfeed hbreak
      · obtain ⟨l, hl, hcl⟩ := ih hc
        exact ⟨l, List.mem_cons_of_mem _ hl, hcl⟩
  | case3 d cs hpair hd ih =>
    rcases List.mem_cons.mp hc with rfl | hc
    · exact absurd hd hbreak
    · obtain ⟨l, hl, hcl⟩ := ih hc
      exact ⟨l, List.mem_cons_of_mem _ hl, hcl⟩
  | case4 d cs hpair hd hnil ih =>
    rcases List.mem_cons.mp hc with rfl | hc
    · exact ⟨_, List.mem_cons_self, List.mem_cons_self⟩
    · obtain ⟨l, hl, -⟩ := ih hc
      rw [hnil] at hl
      cases hl
  | case5 d cs hpair hd k ls hlines ih =>
    rcases List.mem_cons.mp hc with rfl | hc
    · exact ⟨_, List.mem_cons_self, List.mem_cons_self⟩
    · obtain ⟨l, hl, hcl⟩ := ih hc
      rw [hlines] at hl
      rcases List.mem_cons.mp hl with rfl | hl
      · exact ⟨_, List.mem_cons_self, List.mem_cons_of_mem _ hcl⟩
      · exact ⟨l, List.mem_cons_of_mem _ hl, hcl⟩

/-- Whether a text breaks in memory only where stored text does. -/
def BreaksAlike (cs : List Char) : Prop := ∀ c ∈ cs, isLineBreak c = true → isNewline c = true

instance : DecidablePred BreaksAlike := fun cs =>
  decidable_of_iff (cs.all (fun c => decide (isLineBreak c = true → isNewline c = true)) = true) (by
    simp only [BreaksAlike, List.all_eq_true, decide_eq_true_eq])

theorem lines_eq_storedLines_iff : lines cs = storedLines cs ↔ BreaksAlike cs := by
  constructor
  · intro h c hc hbreak
    by_contra hnewline
    obtain ⟨l, hl, hcl⟩ := exists_line_of_mem (by decide) (by decide) hc hnewline
    exact not_break_of_mem_linesBy (h ▸ hl : l ∈ lines cs) hcl hbreak
  · intro h
    refine linesBy_congr fun c hc => ?_
    rw [Bool.eq_iff_iff]
    exact ⟨h c hc, isLineBreak_of_isNewline⟩

/-- Text in memory breaks alike whether its newlines are unified or not. -/
theorem lines_unifyNewlines (cs : List Char) : lines (unifyNewlines cs) = lines cs := by
  unfold lines
  have hfeed (cs : List Char) : linesBy isLineBreak ('\n' :: cs) = [] :: linesBy isLineBreak cs :=
    linesBy_cons_of_break (by simp) (by decide)
  fun_induction unifyNewlines cs with
  | case1 => rfl
  | case2 cs ih => rw [hfeed, ih, linesBy]
  | case3 cs hpair ih =>
    rw [hfeed, ih, linesBy_cons_of_break _ (by decide)]
    exact fun rest _ heq => hpair rest heq
  | case4 c cs hpair hreturn ih =>
    have hnoPair (ds : List Char) : ∀ rest, c = '\r' → ds = '\n' :: rest → False :=
      fun _ h _ => hreturn h
    by_cases hc : isLineBreak c = true
    · rw [linesBy_cons_of_break (hnoPair _) hc, linesBy_cons_of_break (hnoPair _) hc, ih]
    · rw [linesBy_cons (hnoPair _) hc, linesBy_cons (hnoPair _) hc, ih]

end Text

open Text

/-! ### Entries -/

theorem entriesFrom_map_raw (p : Parser) (first : Int) (lines : List (List Char)) :
    (entriesFrom p first lines).map Entry.raw = lines.map String.ofList := by
  induction lines generalizing first with
  | nil => rfl
  | cons text rest ih => simp [entriesFrom, Entry.ofLine, ih]

theorem entriesOf_inj {p : Parser} {a b : List (List Char)} :
    entriesOf p a = entriesOf p b ↔ a = b := by
  constructor
  · intro h
    have hraw := congrArg (List.map Entry.raw) h
    rw [entriesOf, entriesOf, entriesFrom_map_raw, entriesFrom_map_raw] at hraw
    exact List.map_injective_iff.mpr (fun _ _ => String.ofList_injective) hraw
  · rintro rfl
    rfl

namespace Parser

variable (p : Parser) (text : String) {h : Host} {name : String} {errors : Bytes}
  {complaints : List Char}

theorem readStream_encode :
    p.readStream (Utf8.encode text) = .ok (entriesOf p (storedLines text.toList)) := by
  rw [readStream, Utf8.decodeStream_encode]

theorem readCrontab_encode (hname : '\x00' ∉ name.toList)
    (hfile : h.contentOf (Path.ofText name) = .ok (Utf8.encode text)) :
    p.readCrontab h name = .ok (entriesOf p (storedLines text.toList)) := by
  rw [readCrontab, if_neg (by simpa using hname)]
  simp only [hfile, Utf8.decodeStream_encode]

theorem readUser_encode (hprogram : h.crontab = some ⟨0, Utf8.encode text, errors⟩)
    (herrors : Utf8.decode errors = .ok complaints) :
    p.readUser h = .ok (jobsOf (p.readText text.toList)) := by
  rw [readUser, hprogram]
  simp only [readResult, Utf8.decode_encode, herrors, readText, lines_unifyNewlines]
  rfl

end Parser

/-- A text gives the same entries from memory as from a stream or a file if and only if it breaks
alike in all of them. The user's crontab gives the jobs of the entries from memory, so then all
checks of the text end alike. -/
theorem sources_agree_iff (p : Parser) (text : String) (h : Host) (name : String)
    {errors : Bytes} {complaints : List Char} (hname : '\x00' ∉ name.toList)
    (hfile : h.contentOf (Path.ofText name) = .ok (Utf8.encode text))
    (hprogram : h.crontab = some ⟨0, Utf8.encode text, errors⟩)
    (herrors : Utf8.decode errors = .ok complaints) :
    ∃ entries, p.readStream (Utf8.encode text) = .ok entries ∧ p.readCrontab h name = .ok entries ∧
      p.readUser h = .ok (jobsOf (p.readText text.toList)) ∧
      (p.readText text.toList = entries ↔ BreaksAlike text.toList) ∧
      (BreaksAlike text.toList → p.readUser h = .ok (jobsOf entries) ∧
        ∀ v : Validator, v.parser = p →
          v.checkFile h name = (v.checkEntries entries).mapError .calendar ∧
          v.checkUser h = (v.checkEntries entries).mapError .calendar) := by
  have hcrontab := p.readCrontab_encode text hname hfile
  have huser := p.readUser_encode text hprogram herrors
  have hagree : p.readText text.toList = entriesOf p (storedLines text.toList) ↔
      BreaksAlike text.toList := entriesOf_inj.trans lines_eq_storedLines_iff
  refine ⟨_, p.readStream_encode text, hcrontab, huser, hagree, fun halike => ?_⟩
  rw [hagree.mpr halike] at huser
  refine ⟨huser, ?_⟩
  rintro v rfl
  constructor
  · rw [Validator.checkFile, hcrontab, Validator.checkRead]
  · rw [Validator.checkUser, huser, Validator.checkRead, Validator.checkEntries]

/-- A crontab with newlines of all three kinds. -/
theorem sources_agree_on_newlines :
    ∃ h : Host, h.contentOf (Path.ofText "tab") = .ok (Utf8.encode "A=1\r\n@daily b\r# c\n") ∧
      ({} : Parser).readCrontab h "tab" =
        .ok (({} : Parser).readText "A=1\r\n@daily b\r# c\n".toList) := by
  obtain ⟨h, hfile, hprogram⟩ : ∃ h : Host,
      h.contentOf (Path.ofText "tab") = .ok (Utf8.encode "A=1\r\n@daily b\r# c\n") ∧
        h.crontab = some ⟨0, Utf8.encode "A=1\r\n@daily b\r# c\n", []⟩ :=
    ⟨{ files := [(Path.ofText "tab", .file (Utf8.encode "A=1\r\n@daily b\r# c\n"))]
       crontab := some ⟨0, Utf8.encode "A=1\r\n@daily b\r# c\n", []⟩ }, rfl, rfl⟩
  obtain ⟨entries, -, hcrontab, -, hagree, -⟩ :=
    sources_agree_iff {} "A=1\r\n@daily b\r# c\n" h "tab" (by decide) hfile hprogram
      (show Utf8.decode [] = .ok [] by rfl)
  refine ⟨h, hfile, ?_⟩
  rw [hagree.mpr (by decide)]
  exact hcrontab

/-- A form feed ends a job in memory, and belongs to its command in a stream. -/
theorem sources_differ_on_formFeed :
    (jobsOf (({} : Parser).readText "0 0 * * * a\x0c0 0 * * * b".toList)).length = 2 ∧
      ∃ entries, ({} : Parser).readStream (Utf8.encode "0 0 * * * a\x0c0 0 * * * b") = .ok entries ∧
        (jobsOf entries).length = 1 := by
  refine ⟨by decide, _, Parser.readStream_encode _ _, by decide⟩

end CronLint
