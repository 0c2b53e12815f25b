import CronLint.Proofs.Decoding
import CronLint.Proofs.ReportParts
import CronLint.Proofs.Sources

/-!
# Crontabs that cannot be read

A failure to read a crontab is reported, with two exceptions: no file is looked for if the path
holds a NUL character, and nothing is made of what the program printed if any of it is not UTF-8. A
check reports a failure as a single issue, and stops in the two other cases.
-/
namespace CronLint

open Text

/-- Something was read, or the failure to read it can be reported. -/
def Handled {α : Type} (read : Except ReadError α) : Prop :=
  (∃ a, read = .ok a) ∨ ∃ e, read = .error (.reported e)

def Host.PrintsText (h : Host) : Prop :=
  ∀ r, h.crontab = some r → Utf8.IsText r.output ∧ Utf8.IsText r.errors

section

variable {α β : Type}

theorem handled_ok (a : α) : Handled (.ok a) := Or.inl ⟨a, rfl⟩

theorem handled_reported (e : SourceError) : Handled (.error (.reported e) : Except _ α) :=
  Or.inr ⟨e, rfl⟩

theorem not_handled_nullInPath : ¬ Handled (.error .nullInPath : Except _ α) := by
  simp [Handled]

theorem not_handled_undecodable (e : Utf8.DecodeError) :
    ¬ Handled (.error (.undecodable e) : Except _ α) := by
  simp [Handled]

theorem handled_map_iff {read : Except ReadError α} (f : α → β) :
    Handled (read.map f) ↔ Handled read := by
  cases read <;> simp [Handled, Except.map]

end

/-! ### Bytes that are no text -/

namespace Text.Utf8

variable {bytes : List UInt8}

theorem exists_decode_error (h : ¬ IsText bytes) : ∃ e, decode bytes = .error e := by
  cases hdecode : decode bytes with
  | ok cs => exact absurd (isText_iff.mpr ⟨cs, hdecode⟩) h
  | error e => exact ⟨e, rfl⟩

theorem exists_decodeStream_error (h : ¬ IsText bytes) : ∃ e, decodeStream bytes = .error e := by
  obtain ⟨e, he⟩ := exists_decode_error h
  exact ⟨_, by rw [decodeStream, he]; rfl⟩

end Text.Utf8

namespace Parser

variable {p : Parser} {h : Host} {name : String} {bytes : Bytes}

/-! ### How reading ends -/

inductive StreamRead (p : Parser) (bytes : Bytes) : Except SourceError (List Entry) → Prop where
  | text {text : String} : Utf8.encode text = bytes →
    StreamRead p bytes (.ok (entriesOf p (storedLines text.toList)))
  | notText {e : Utf8.DecodeError} : ¬ Utf8.IsText bytes → StreamRead p bytes (.error (.badInput e))

theorem streamRead (p : Parser) (bytes : Bytes) : StreamRead p bytes (p.readStream bytes) := by
  by_cases htext : Utf8.IsText bytes
  · obtain ⟨text, rfl⟩ := htext
    rw [readStream_encode]
    exact .text rfl
  · obtain ⟨e, he⟩ := Utf8.exists_decodeStream_error htext
    rw [readStream, he]
    exact .notText htext

inductive FileRead (p : Parser) (h : Host) (name : String) :
    Except ReadError (List Entry) → Prop where
  | nullInPath : '\x00' ∈ name.toList → FileRead p h name (.error .nullInPath)
  | noFile {f : FileFault} : '\x00' ∉ name.toList → h.contentOf (Path.ofText name) = .error f →
    FileRead p h name (.error (.reported (.noFile (Path.ofText name).toText f)))
  | text {text : String} : '\x00' ∉ name.toList →
    h.contentOf (Path.ofText name) = .ok (Utf8.encode text) →
    FileRead p h name (.ok (entriesOf p (storedLines text.toList)))
  | notText {bytes : Bytes} {e : Utf8.DecodeError} : '\x00' ∉ name.toList →
    h.contentOf (Path.ofText name) = .ok bytes → ¬ Utf8.IsText bytes →
    FileRead p h name (.error (.reported (.badFile (Path.ofText name).toText e)))

theorem fileRead (p : Parser) (h : Host) (name : String) :
    FileRead p h name (p.readCrontab h name) := by
  by_cases hname : '\x00' ∈ name.toList
  · rw [readCrontab, if_pos (by simpa using hname)]
    exact .nullInPath hname
  · cases hfile : h.contentOf (Path.ofText name) with
    | error f =>
      rw [readCrontab, if_neg (by simpa using hname)]
      simp only [hfile]
      exact .noFile hname hfile
    | ok bytes =>
      by_cases htext : Utf8.IsText bytes
      · obtain ⟨text, rfl⟩ := htext
        rw [p.readCrontab_encode text hname hfile]
        exact .text hname hfile
      · obtain ⟨e, he⟩ := Utf8.exists_decodeStream_error htext
        rw [readCrontab, if_neg (by simpa using hname)]
        simp only [hfile, he]
        exact .notText hname hfile htext

inductive UserRead (p : Parser) (h : Host) : Except ReadError (List Job) → Prop where
  | noProgram : h.crontab = none → UserRead p h (.error (.reported .noProgram))
  | notText {r : ProgramResult} {e : Utf8.DecodeError} : h.crontab = some r →
    ¬ (Utf8.IsText r.output ∧ Utf8.IsText r.errors) → UserRead p h (.error (.undecodable e))
  | noCrontab {output errors : String} :
    h.crontab = some ⟨1, Utf8.encode output, Utf8.encode errors⟩ → UserRead p h (.ok [])
  | failed {status : Int} {output errors : String} :
    h.crontab = some ⟨status, Utf8.encode output, Utf8.encode errors⟩ → status ≠ 0 → status ≠ 1 →
    UserRead p h (.error (.reported (.programFailed status
      (String.ofList (trim (unifyNewlines errors.toList))))))
  | text {output errors : String} :
    h.crontab = some ⟨0, Utf8.encode output, Utf8.encode errors⟩ →
    UserRead p h (.ok (jobsOf (p.readText output.toList)))

theorem readResult_notText {r : ProgramResult}
    (htext : ¬ (Utf8.IsText r.output ∧ Utf8.IsText r.errors)) :
    ∃ e, p.readResult r = .error (.undecodable e) := by
  unfold readResult
  by_cases houtput : Utf8.IsText r.output
  · obtain ⟨output, houtput'⟩ := Utf8.isText_iff.mp houtput
    obtain ⟨e, herrors⟩ := Utf8.exists_decode_error fun herrors => htext ⟨houtput, herrors⟩
    rw [houtput', herrors]
    exact ⟨e, rfl⟩
  · obtain ⟨e, houtput⟩ := Utf8.exists_decode_error houtput
    rw [houtput]
    exact ⟨e, rfl⟩

theorem userRead (p : Parser) (h : Host) : UserRead p h (p.readUser h) := by
  cases hprogram : h.crontab with
  | none =>
    simp only [readUser, hprogram]
    exact .noProgram hprogram
  | some r =>
    by_cases htext : Utf8.IsText r.output ∧ Utf8.IsText r.errors
    · obtain ⟨status, _, _⟩ := r
      obtain ⟨⟨output, rfl⟩, errors, rfl⟩ := htext
      by_cases hzero : status = 0
      · subst hzero
        rw [p.readUser_encode output hprogram (Utf8.decode_encode errors)]
        exact .text hprogram
      · simp only [readUser, hprogram, readResult, Utf8.decode_encode]
        by_cases hone : status = 1
        · subst hone
          exact .noCrontab hprogram
        · simp only [Except.mapError, bind, Except.bind, hone, hzero, if_false, ne_eq,
            not_false_eq_true, if_true]
          exact .failed hprogram hzero hone
    · obtain ⟨e, he⟩ := p.readResult_notText htext
      simp only [readUser, hprogram, he]
      exact .notText hprogram htext

/-! ### Which failures are reported -/

theorem exists_readStream_iff : (∃ entries, p.readStream bytes = .ok entries) ↔
    Utf8.IsText bytes := by
  have hread := p.streamRead bytes
  generalize p.readStream bytes = read at hread
  cases hread with
  | text htext => simpa using ⟨_, htext⟩
  | notText htext => simpa using htext

theorem handled_readCrontab_iff : Handled (p.readCrontab h name) ↔ '\x00' ∉ name.toList := by
  have hread := p.fileRead h name
  generalize p.readCrontab h name = read at hread
  cases hread with
  | nullInPath hname => exact iff_of_false not_handled_nullInPath (not_not.mpr hname)
  | noFile hname => exact iff_of_true (handled_reported _) hname
  | text hname => exact iff_of_true (handled_ok _) hname
  | notText hname => exact iff_of_true (handled_reported _) hname

theorem handled_readUser_iff : Handled (p.readUser h) ↔ h.PrintsText := by
  have hprints {status : Int} {output errors : String}
      (hprogram : h.crontab = some ⟨status, Utf8.encode output, Utf8.encode errors⟩) :
      h.PrintsText := by
    intro r hr
    obtain rfl := Option.some.inj (hprogram.symm.trans hr)
    exact ⟨⟨output, rfl⟩, errors, rfl⟩
  have hread := p.userRead h
  generalize p.readUser h = read at hread
  cases hread with
  | noProgram hprogram =>
    refine iff_of_true (handled_reported _) ?_
    intro r hr
    cases hprogram.symm.trans hr
  | notText hprogram htext =>
    exact iff_of_false (not_handled_undecodable _) fun hprints => htext (hprints _ hprogram)
  | noCrontab hprogram => exact iff_of_true (handled_ok _) (hprints hprogram)
  | failed hprogram => exact iff_of_true (handled_reported _) (hprints hprogram)
  | text hprogram => exact iff_of_true (handled_ok _) (hprints hprogram)

end Parser

/-! ### Reports on failures -/

/-- The report counts no jobs and has a single issue, the error that the crontab cannot be read. -/
structure Report.IsReadFailure (r : Report) : Prop where
  invalid : r.valid = false
  noJobs : r.totalJobs = 0 ∧ r.validJobs = 0 ∧ r.invalidJobs = 0
  single : ∃ i, r.issues = [i] ∧ i.code = .fileReadError ∧ i.severity = .error

namespace Validator

variable {v : Validator} {α : Type} {read : Except ReadError α} {what : String}
  {check : α → Except Calendar.CalendarError Report}

theorem isReadFailure_readFailure (message : String) : (readFailure message).IsReadFailure where
  invalid := rfl
  noJobs := ⟨rfl, rfl, rfl⟩
  single := ⟨_, rfl, rfl, rfl⟩

theorem checkRead_of_reported {e : SourceError} (h : read = .error (.reported e)) :
    ∃ report, checkRead read what check = .ok report ∧ report.IsReadFailure := by
  rw [h]
  exact ⟨_, rfl, isReadFailure_readFailure _⟩

theorem exists_checkRead_iff : (∃ report, checkRead read what check = .ok report) ↔
    Handled read ∧ ∀ a, read = .ok a → ∃ report, check a = .ok report := by
  cases read with
  | ok a =>
    cases hcheck : check a <;> simp [checkRead, handled_ok, hcheck, Except.mapError]
  | error e =>
    cases e with
    | reported e => simp [checkRead, handled_reported]
    | nullInPath => simp [checkRead, not_handled_nullInPath]
    | undecodable e => simp [checkRead, not_handled_undecodable]

/-- A stream can be read if it is UTF-8. Failures to read a file are reported unless its path holds
a NUL character, and failures to read the user's crontab unless the program prints something that is
not UTF-8. Other than that, a report fails to come only when a check of the jobs leaves the
calendar, and a failure that is reported makes for one error and no jobs. -/
theorem read_failures_reported (v : Validator) (h : Host) (name : String) :
    (∀ bytes, (∃ entries, v.parser.readStream bytes = .ok entries) ↔ Utf8.IsText bytes) ∧
    (Handled (v.parser.readCrontab h name) ↔ '\x00' ∉ name.toList) ∧
    (Handled ((v.parser.readCrontab h name).map jobsOf) ↔ '\x00' ∉ name.toList) ∧
    (Handled (v.parser.readUser h) ↔ h.PrintsText) ∧
    ((∃ report, v.checkFile h name = .ok report) ↔ '\x00' ∉ name.toList ∧
      ∀ entries, v.parser.readCrontab h name = .ok entries → v.KeepsToCalendar (jobsOf entries)) ∧
    ((∃ report, v.checkUser h = .ok report) ↔ h.PrintsText ∧
      ∀ jobs, v.parser.readUser h = .ok jobs → v.KeepsToCalendar jobs) ∧
    (∀ e, v.parser.readCrontab h name = .error (.reported e) →
      ∃ report, v.checkFile h name = .ok report ∧ report.IsReadFailure) ∧
    ∀ e, v.parser.readUser h = .error (.reported e) →
      ∃ report, v.checkUser h = .ok report ∧ report.IsReadFailure := by
  refine ⟨fun bytes => Parser.exists_readStream_iff, Parser.handled_readCrontab_iff, ?_,
    Parser.handled_readUser_iff, ?_, ?_, ?_, ?_⟩
  · rw [handled_map_iff, Parser.handled_readCrontab_iff]
  · rw [checkFile, exists_checkRead_iff, Parser.handled_readCrontab_iff]
    simp only [checkEntries, exists_checkJobs_iff]
  · rw [checkUser, exists_checkRead_iff, Parser.handled_readUser_iff]
    simp only [exists_checkJobs_iff]
  · intro e he
    exact checkRead_of_reported he
  · intro e he
    exact checkRead_of_reported he

/-- A file that is not UTF-8 on a host without the program that prints crontabs. -/
theorem read_failures_reported_both :
    ∃ fromFile fromProgram,
      (⟨{}, {}, .utc 0⟩ : Validator).checkFile
        { files := [(Path.ofText "tab", .file [0xff])] } "tab" = .ok fromFile ∧
      fromFile.IsReadFailure ∧
      (⟨{}, {}, .utc 0⟩ : Validator).checkUser { files := [(Path.ofText "tab", .file [0xff])] } =
        .ok fromProgram ∧ fromProgram.IsReadFailure := by
  have hfile : ({} : Parser).readCrontab { files := [(Path.ofText "tab", .file [0xff])] } "tab" =
      .error (.reported (.badFile "tab" ⟨.badStart, 0, 1, 0xff⟩)) := by
    rfl
  have hprogram : ({} : Parser).readUser { files := [(Path.ofText "tab", .file [0xff])] } =
      .error (.reported .noProgram) := by
    rfl
  obtain ⟨-, -, -, -, -, -, hreadFile, hreadUser⟩ := read_failures_reported ⟨{}, {}, .utc 0⟩
    { files := [(Path.ofText "tab", .file [0xff])] } "tab"
  obtain ⟨fromFile, hfromFile, hfileFails⟩ := hreadFile _ hfile
  obtain ⟨fromProgram, hfromProgram, hprogramFails⟩ := hreadUser _ hprogram
  exact ⟨fromFile, fromProgram, hfromFile, hfileFails, hfromProgram, hprogramFails⟩

/-- The same byte printed by the program stops the check, and so does a NUL character in a path. -/
theorem undecodable_output_not_reported :
    ¬ Handled (({} : Parser).readUser { crontab := some ⟨0, [0xff], []⟩ }) ∧
      (⟨{}, {}, .utc 0⟩ : Validator).checkUser { crontab := some ⟨0, [0xff], []⟩ } =
        .error (.undecodable ⟨.badStart, 0, 1, 0xff⟩) ∧
      ¬ Handled (({} : Parser).readCrontab {} "a\x00b") ∧
      (⟨{}, {}, .utc 0⟩ : Validator).checkFile {} "a\x00b" = .error .nullInPath := by
  have hprogram : ({} : Parser).readUser { crontab := some ⟨0, [0xff], []⟩ } =
      .error (.undecodable ⟨.badStart, 0, 1, 0xff⟩) := by
    rfl
  have hpath : ({} : Parser).readCrontab {} "a\x00b" = .error .nullInPath := by
    rfl
  refine ⟨?_, ?_, ?_, ?_⟩
  · rw [hprogram]
    exact not_handled_undecodable _
  · rw [checkUser, hprogram]
    rfl
  · rw [hpath]
    exact not_handled_nullInPath
  · rw [checkFile, hpath]
    rfl

end Validator

end CronLint
