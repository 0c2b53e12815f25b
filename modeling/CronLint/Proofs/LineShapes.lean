import CronLint.Proofs.JobLines

/-!
# What a line is, and what becomes of its text

A line is of one kind only, and how it starts and how many words it has decide which. The text of a
job goes to its expression, its command and its comment: blanks aside, all of it is there, in order.
-/
namespace CronLint

open Text

namespace Text

variable {cs a b : List Char} {c : Char}

/-! ### Visible text -/

/-- The text without its blanks. -/
def visible (cs : List Char) : List Char := cs.filter (!isBlank ·)

theorem visible_append (a b : List Char) : visible (a ++ b) = visible a ++ visible b :=
  List.filter_append ..

theorem mem_visible_iff (hc : isBlank c = false) : c ∈ visible cs ↔ c ∈ cs := by
  simp [visible, hc]

theorem flatten_segments (p : Char → Bool) (cs : List Char) :
    (segments p cs).flatten = cs.filter (!p ·) := by
  induction cs with
  | nil => rfl
  | cons c cs ih =>
    obtain ⟨s, rest, hs⟩ := List.exists_cons_of_ne_nil (segments_ne_nil p cs)
    rw [hs, List.flatten_cons] at ih
    by_cases hc : p c = true
    · simp [segments, hc, hs, ih]
    · simp [segments, hc, hs, ih]

theorem flatten_words (cs : List Char) : (words cs).flatten = visible cs := by
  rw [words, List.flatten_filter_not_isEmpty, flatten_segments, visible]

theorem visible_trim (cs : List Char) : visible (trim cs) = visible cs := by
  rw [← flatten_words, words_trim, flatten_words]

theorem visible_joinWith {ws : List (List Char)}
    (h : ∀ w ∈ ws, w ≠ [] ∧ ∀ c ∈ w, isBlank c = false) :
    visible (joinWith [' '] ws) = ws.flatten := by
  cases ws with
  | nil => rfl
  | cons w ws => rw [← flatten_words, words_joinWith (List.cons_ne_nil w ws) h]

theorem takeWords_suffix (n : Nat) (cs : List Char) : (takeWords n cs).2 <:+ cs := by
  induction n generalizing cs with
  | zero => exact List.dropWhile_suffix _
  | succ n ih => exact (ih _).trans ((List.dropWhile_suffix _).trans (List.dropWhile_suffix _))

end Text

namespace LineShape

variable {cs : List Char}

/-! ### How a line starts -/

def IsName (name : List Char) : Prop :=
  ∃ c cs, name = c :: cs ∧ isNameStart c = true ∧ ∀ d ∈ cs, isNameChar d = true

/-- The text starts with a name and an equals sign right after it. -/
def IsAssignment (cs : List Char) : Prop := ∃ name value, IsName name ∧ cs = name ++ '=' :: value

def OpensWithAlias (cs : List Char) : Prop :=
  ∃ name ∈ jobAliases, ∃ rest, cs = name.toList ++ rest ∧ ∀ c ∈ rest.head?, isWordChar c = false

theorem startsWithVariable_iff : startsWithVariable cs = true ↔ IsAssignment cs := by
  cases cs with
  | nil => simp [startsWithVariable, IsAssignment]
  | cons c cs =>
    rw [startsWithVariable, Bool.and_eq_true, beq_iff_eq]
    constructor
    · intro h
      obtain ⟨hstart, hequals⟩ := h
      obtain ⟨value, hvalue⟩ := List.head?_eq_some_iff.mp hequals
      refine ⟨c :: cs.takeWhile isNameChar, value, ⟨c, _, rfl, hstart, ?_⟩, ?_⟩
      · exact fun d hd => List.mem_takeWhile_imp hd
      · rw [List.cons_append, ← hvalue, List.takeWhile_append_dropWhile]
    · intro h
      obtain ⟨name, value, ⟨d, ds, rfl, hstart, hchars⟩, heq⟩ := h
      rw [List.cons_append] at heq
      obtain ⟨rfl, rfl⟩ := List.cons.inj heq
      have hname : ds.dropWhile isNameChar = [] := List.dropWhile_eq_nil_iff.mpr hchars
      have hequals : isNameChar '=' = false := by decide
      refine ⟨hstart, ?_⟩
      rw [List.dropWhile_append, hname]
      simp [hequals]

theorem atWordEnd_iff {rest : List Char} :
    atWordEnd rest = true ↔ ∀ c ∈ rest.head?, isWordChar c = false := by
  cases rest <;> simp [atWordEnd]

theorem startsWithAlias_iff : startsWithAlias cs = true ↔ OpensWithAlias cs := by
  simp only [startsWithAlias, List.any_eq_true, Bool.and_eq_true, List.isPrefixOf_iff_prefix,
    OpensWithAlias]
  constructor
  · intro h
    obtain ⟨name, hname, ⟨rest, rfl⟩, hend⟩ := h
    rw [List.drop_left, atWordEnd_iff] at hend
    exact ⟨name, hname, rest, rfl, hend⟩
  · intro h
    obtain ⟨name, hname, rest, rfl, hend⟩ := h
    refine ⟨name, hname, List.prefix_append _ _, ?_⟩
    rw [List.drop_left, atWordEnd_iff]
    exact hend

/-- A text that is neither empty nor a comment nor an assignment: a job, if it is long enough. -/
structure IsOther (cs : List Char) : Prop where
  nonempty : cs ≠ []
  notComment : cs.head? ≠ some '#'
  notAssignment : ¬ IsAssignment cs

/-- An alias and one word after it, or at least six words. -/
def HasCommand (cs : List Char) : Prop :=
  OpensWithAlias cs ∧ 2 ≤ (words cs).length ∨ ¬ OpensWithAlias cs ∧ 6 ≤ (words cs).length

/-- The number of words of the expression that a text starts with. -/
def expressionLength (cs : List Char) : Nat := if startsWithAlias cs then 1 else 5

theorem expressionLength_of_alias (h : OpensWithAlias cs) : expressionLength cs = 1 :=
  if_pos (startsWithAlias_iff.mpr h)

theorem expressionLength_of_fields (h : ¬ OpensWithAlias cs) : expressionLength cs = 5 :=
  if_neg (mt startsWithAlias_iff.mp h)

theorem hasCommand_iff : HasCommand cs ↔ expressionLength cs < (words cs).length := by
  unfold HasCommand
  by_cases h : OpensWithAlias cs
  · simp [h, expressionLength_of_alias h, Nat.lt_iff_add_one_le]
  · simp [h, expressionLength_of_fields h, Nat.lt_iff_add_one_le]

theorem ofLine_of_nil {line : List Char} (h : trim line = []) : ofLine line = .empty := by
  rw [ofLine, h]

theorem ofLine_of_comment {line : List Char} (h : (trim line).head? = some '#') :
    ofLine line = .comment := by
  obtain ⟨rest, hrest⟩ := List.head?_eq_some_iff.mp h
  rw [ofLine, hrest]
  rfl

theorem ofLine_of_assignment {line : List Char} (hne : trim line ≠ [])
    (hcomment : (trim line).head? ≠ some '#') (h : IsAssignment (trim line)) :
    ofLine line = .variable := by
  rw [← startsWithVariable_iff] at h
  obtain ⟨d, cs, htrim⟩ := List.exists_cons_of_ne_nil hne
  unfold ofLine
  rw [htrim] at hcomment h ⊢
  have hd : d ≠ '#' := by simpa using hcomment
  simp [hd, h]

theorem ofLine_of_other {line : List Char} (h : IsOther (trim line)) :
    ofLine line = jobAfter (expressionLength (trim line)) (trim line) := by
  have hvariable : startsWithVariable (trim line) = false := by
    rw [← Bool.not_eq_true, startsWithVariable_iff]
    exact h.notAssignment
  rw [ofLine_eq_jobAfter h.nonempty h.notComment hvariable, expressionLength]
  split_ifs <;> rfl

end LineShape

/-! ### The text of a job -/

/-- The first hash, if there is one, is all that stands between a command and its comment. -/
theorem splitComment_spec (rest : List Char) :
    '#' ∉ (splitComment rest).1 ∧
      visible rest = visible (splitComment rest).1 ++
        (if '#' ∈ rest then '#' :: visible (splitComment rest).2 else []) ∧
      ('#' ∉ rest → (splitComment rest).2 = []) := by
  have hhash : isBlank '#' = false := by decide
  unfold splitComment
  cases hbreak : breakOn '#' rest with
  | mk command comment =>
    dsimp only
    rw [← mem_visible_iff hhash, visible_trim, visible_trim, mem_visible_iff hhash]
    cases comment with
    | none =>
      obtain ⟨rfl, hmem⟩ := breakOn_eq_none_iff.mp hbreak
      rw [if_neg hmem, List.append_nil]
      exact ⟨hmem, rfl, fun _ => rfl⟩
    | some comment =>
      obtain ⟨rfl, hmem⟩ := breakOn_eq_some_iff.mp hbreak
      have hrest : '#' ∈ command ++ '#' :: comment := by simp
      rw [if_pos hrest]
      have hcons : visible ('#' :: comment) = '#' :: visible comment :=
        List.filter_cons_of_pos (by simp [hhash])
      refine ⟨hmem, ?_, fun h => absurd hrest h⟩
      rw [visible_append, hcons, Option.getD_some]

/-- The job consists of the text of the line, whose first `count` words are its expression. -/
structure Job.Keeps (job : Job) (line : List Char) (count : Nat) : Prop where
  expression : job.expression = String.ofList (joinWith [' '] ((words line).take count))
  command : '#' ∉ job.command.toList
  pieces : ∃ rest, rest <:+ trim line ∧ words rest = (words line).drop count ∧
    visible line = visible job.expression.toList ++ visible job.command.toList ++
      (if '#' ∈ rest then '#' :: visible job.comment.toList else []) ∧
    ('#' ∉ rest → job.comment = "")

/-- The job that is made of the first words of a line and of the text after them. -/
theorem Job.keeps_ofLine (p : Parser) (line : List Char) (n : Int) (count : Nat) :
    (Job.ofLine p (joinWith [' '] ((words (trim line)).take count))
      (takeWords count (trim line)).2 n).Keeps line count := by
  have hwords : words (trim line) = words line := words_trim line
  have hleft := words_takeWords count (trim line)
  rw [hwords] at hleft ⊢
  obtain ⟨hcommand, hpieces, hcomment⟩ := splitComment_spec (takeWords count (trim line)).2
  constructor
  case expression => rfl
  case command =>
    rw [Job.ofLine]
    simpa using hcommand
  case pieces =>
    refine ⟨_, takeWords_suffix count (trim line), hleft, ?_, ?_⟩
    · have hexpression : visible (joinWith [' '] ((words line).take count)) =
          ((words line).take count).flatten :=
        visible_joinWith fun w hw => mem_words (List.mem_of_mem_take hw)
      calc visible line
        _ = ((words line).take count).flatten ++ ((words line).drop count).flatten := by
          rw [← List.flatten_append, List.take_append_drop, flatten_words]
        _ = visible (joinWith [' '] ((words line).take count)) ++
            visible (takeWords count (trim line)).2 := by
          rw [hexpression, ← hleft, flatten_words]
        _ = _ := by
          rw [hpieces, ← List.append_assoc]
          simp [Job.ofLine]
    · intro hnone
      rw [Job.ofLine]
      simp [hcomment hnone]

/-! ### Entries -/

namespace Entry

/-- The kind of an entry follows from the trimmed line, and only jobs hold a job. -/
structure Classifies (e : Entry) (cs : List Char) : Prop where
  empty_iff : e.body = .empty ↔ cs = []
  comment_iff : e.body = .comment ↔ cs ≠ [] ∧ cs.head? = some '#'
  variable_iff : e.body = .variable ↔
    cs ≠ [] ∧ cs.head? ≠ some '#' ∧ LineShape.IsAssignment cs
  job_iff : (∃ job, e.body = .job job) ↔ LineShape.IsOther cs ∧ LineShape.HasCommand cs
  invalid_iff : e.body = .invalid ↔ LineShape.IsOther cs ∧ ¬ LineShape.HasCommand cs
  job?_iff (job : Job) : e.job? = some job ↔ e.body = .job job

variable {p : Parser} {line : List Char} {n : Int}

theorem job?_eq_some_iff {e : Entry} {job : Job} : e.job? = some job ↔ e.body = .job job := by
  unfold job?
  cases e.body <;> simp

theorem body_ofLine_of_command (h : LineShape.IsOther (trim line))
    (hcommand : LineShape.HasCommand (trim line)) : (Entry.ofLine p line n).body =
      .job (Job.ofLine p (joinWith [' ']
        ((words (trim line)).take (LineShape.expressionLength (trim line))))
        (takeWords (LineShape.expressionLength (trim line)) (trim line)).2 n) := by
  rw [LineShape.hasCommand_iff] at hcommand
  rw [Entry.ofLine, LineShape.ofLine_of_other h, LineShape.jobAfter_eq, if_pos hcommand]

theorem body_ofLine_of_short (h : LineShape.IsOther (trim line))
    (hshort : ¬ LineShape.HasCommand (trim line)) : (Entry.ofLine p line n).body = .invalid := by
  rw [LineShape.hasCommand_iff] at hshort
  rw [Entry.ofLine, LineShape.ofLine_of_other h, LineShape.jobAfter_eq, if_neg hshort]

theorem classifies_ofLine (p : Parser) (line : List Char) (n : Int) :
    (Entry.ofLine p line n).Classifies (trim line) := by
  have hjob? (job : Job) : (Entry.ofLine p line n).job? = some job ↔
      (Entry.ofLine p line n).body = .job job := job?_eq_some_iff
  by_cases hnil : trim line = []
  · have hbody : (Entry.ofLine p line n).body = .empty := by
      rw [Entry.ofLine, LineShape.ofLine_of_nil hnil]
    have hother : ¬ LineShape.IsOther (trim line) := fun h => h.nonempty hnil
    rw [hnil] at hother ⊢
    constructor <;> simp [hbody, hother, hjob?]
  by_cases hcomment : (trim line).head? = some '#'
  · have hbody : (Entry.ofLine p line n).body = .comment := by
      rw [Entry.ofLine, LineShape.ofLine_of_comment hcomment]
    have hother : ¬ LineShape.IsOther (trim line) := fun h => h.notComment hcomment
    constructor <;> simp [hbody, hnil, hcomment, hother, hjob?]
  by_cases hassignment : LineShape.IsAssignment (trim line)
  · have hbody : (Entry.ofLine p line n).body = .variable := by
      rw [Entry.ofLine, LineShape.ofLine_of_assignment hnil hcomment hassignment]
    have hother : ¬ LineShape.IsOther (trim line) := fun h => h.notAssignment hassignment
    constructor <;> simp [hbody, hnil, hcomment, hassignment, hother, hjob?]
  have hother : LineShape.IsOther (trim line) := ⟨hnil, hcomment, hassignment⟩
  by_cases hcommand : LineShape.HasCommand (trim line)
  · have hbody := body_ofLine_of_command (p := p) (n := n) hother hcommand
    constructor <;> simp [hbody, hnil, hcomment, hassignment, hother, hcommand, hjob?]
  · have hbody := body_ofLine_of_short (p := p) (n := n) hother hcommand
    constructor <;> simp [hbody, hnil, hcomment, hassignment, hother, hcommand, hjob?]

/-- The job of an entry is what the rules for jobs make of its line. -/
theorem keeps_of_ofLine {job : Job} (h : (Entry.ofLine p line n).job? = some job) :
    job.line = n ∧ job.Keeps line (LineShape.expressionLength (trim line)) := by
  have hclass := classifies_ofLine p line n
  rw [job?_eq_some_iff] at h
  obtain ⟨hother, hcommand⟩ := hclass.job_iff.mp ⟨job, h⟩
  rw [body_ofLine_of_command hother hcommand, EntryBody.job.injEq] at h
  rw [← h]
  exact ⟨Job.line_ofLine .., Job.keeps_ofLine p line n _⟩

/-- Every line is of exactly one kind, told by its trimmed text. A job's expression is an alias or
consists of five words, its command has no hash, and what is visible of the line is what is visible
of its expression, its command and, behind a hash in the text after the expression, its comment. -/
theorem ofLine_accounts (p : Parser) (line : List Char) (n : Int) :
    (Entry.ofLine p line n).line = n ∧ (Entry.ofLine p line n).raw = String.ofList line ∧
      (Entry.ofLine p line n).Classifies (trim line) ∧
      ∀ job, (Entry.ofLine p line n).job? = some job → job.line = n ∧
        (LineShape.OpensWithAlias (trim line) → job.Keeps line 1) ∧
        (¬ LineShape.OpensWithAlias (trim line) → job.Keeps line 5) := by
  refine ⟨rfl, rfl, classifies_ofLine p line n, ?_⟩
  intro job hjob
  obtain ⟨hline, hkeeps⟩ := keeps_of_ofLine hjob
  refine ⟨hline, ?_, ?_⟩
  · intro halias
    rwa [LineShape.expressionLength_of_alias halias] at hkeeps
  · intro hfields
    rwa [LineShape.expressionLength_of_fields hfields] at hkeeps

def weekdayPoll : List Char := "*/5  9-17 * * 1-5  poll --fast  # weekdays #1".toList

theorem ofLine_accounts_weekdayPoll : ∃ job, (Entry.ofLine {} weekdayPoll 4).job? = some job ∧
    job.line = 4 ∧ job.expression = "*/5 9-17 * * 1-5" ∧ '#' ∉ job.command.toList := by
  obtain ⟨-, -, -, hjobs⟩ := ofLine_accounts {} weekdayPoll 4
  obtain ⟨job, hjob⟩ : ∃ job, (Entry.ofLine {} weekdayPoll 4).job? = some job :=
    Option.isSome_iff_exists.mp (by decide)
  have hfields : ¬ LineShape.OpensWithAlias (trim weekdayPoll) := by
    rw [← LineShape.startsWithAlias_iff]
    decide
  obtain ⟨hline, -, hkeeps⟩ := hjobs job hjob
  have hexpression := (hkeeps hfields).expression
  exact ⟨job, hjob, hline, hexpression.trans (by decide), (hkeeps hfields).command⟩

end Entry

end CronLint
