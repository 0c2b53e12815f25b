import CronLint.Proofs.ReadFailures
import CronLint.Settings.Reference

/-!
# How loading settings ends

Settings that are loaded meet their constraints, and those that do not fit are refused with a
complaint. A place where no file can be read counts as one with an empty section, and so does a file
without a section. Of the libraries it is asked that files are read to their end and that settings
are checked. Then nothing stops loading but a place that cannot be looked at and an exception of the
reader that is not a complaint about the document.
-/
namespace CronLint.Settings

open Text

/-- What is relied on of the libraries. -/
structure Libraries.Lawful (lib : Libraries) : Prop where
  /-- A file holds one document, so it is decoded to its end before there is any. -/
  isText_of_document : ∀ content d, lib.readDocument content = .ok d → Utf8.IsText content
  /-- Settings that are accepted meet the constraints that are declared for them. -/
  admissible_of_valid : ∀ entries s, lib.validate entries = .ok s → s.Admissible

/-- Settings that meet the constraints are loaded, or they are refused because something does not
fit. -/
def Concludes (loaded : Except LoadFault Settings) : Prop :=
  (∃ s, loaded = .ok s ∧ s.Admissible) ∨ ∃ complaints, loaded = .error (.invalid complaints)

def Libraries.Tolerates (lib : Libraries) (content : Bytes) : Prop :=
  lib.readDocument content = .error .malformed ∨
    Utf8.IsText content ∧ ∃ d, lib.readDocument content = .ok d

/-- There is no section: nothing can be read at the place of the file, or there is no document, or
the document has no mapping under the name of the section. -/
def WithoutSection (lib : Libraries) (h : Host) (path : Option String) : Prop :=
  (∀ f, lookAt h path = .error f → f.meansAbsence = true) ∧
    ∀ node content, lookAt h path = .ok node → node.content = .ok content →
      lib.readDocument content = .error .malformed ∨
        ∃ d, lib.readDocument content = .ok d ∧ section? d = none

section

variable {lib : Libraries} {h : Host} {path : Option String} {content : Bytes} {s : Settings}
  {entries : List (Data × Data)} {node : Node}

/-! ### The section of a file -/

theorem exists_sectionOf_iff (hlib : lib.Lawful) :
    (∃ entries, sectionOf lib content = .ok entries) ↔ lib.Tolerates content := by
  unfold sectionOf Libraries.Tolerates
  cases hread : lib.readDocument content with
  | ok d => simp [hlib.isText_of_document content d hread]
  | error fault => cases fault <;> simp

theorem sectionOf_ne_invalid (complaints : List Complaint) :
    sectionOf lib content ≠ .error (.invalid complaints) := by
  unfold sectionOf
  cases lib.readDocument content with
  | ok d => simp
  | error fault => cases fault <;> simp

/-- How looking for the section of a file ends. -/
inductive Lookup (lib : Libraries) (h : Host) (path : Option String) :
    Except LoadFault (List (Data × Data)) → Prop where
  | barred {f : FileFault} : lookAt h path = .error f → f.meansAbsence = false →
    Lookup lib h path (.error (.path f))
  | absent {f : FileFault} : lookAt h path = .error f → f.meansAbsence = true →
    Lookup lib h path (.ok [])
  | closed {node : Node} {f : FileFault} : lookAt h path = .ok node → node.content = .error f →
    Lookup lib h path (.ok [])
  | opened {node : Node} {content : Bytes} : lookAt h path = .ok node →
    node.content = .ok content → Lookup lib h path (sectionOf lib content)

theorem lookup (lib : Libraries) (h : Host) (path : Option String) :
    Lookup lib h path (fileEntries lib h path) := by
  unfold fileEntries
  cases hat : lookAt h path with
  | error f =>
    dsimp only
    split_ifs with habsent
    · exact .absent hat habsent
    · exact .barred hat (by simpa using habsent)
  | ok node =>
    dsimp only
    cases hcontent : node.content with
    | error f => exact .closed hat hcontent
    | ok content => exact .opened hat hcontent

/-- There is a section, empty perhaps, unless looking at the place fails or the reader does not
tolerate the file. -/
theorem exists_fileEntries_iff (hlib : lib.Lawful) :
    (∃ entries, fileEntries lib h path = .ok entries) ↔
    (∀ f, lookAt h path = .error f → f.meansAbsence = true) ∧
      ∀ node content, lookAt h path = .ok node → node.content = .ok content →
        lib.Tolerates content := by
  have hlookup := lookup lib h path
  generalize fileEntries lib h path = entries at hlookup
  cases hlookup with
  | barred hat hpresent => simp [hat, hpresent]
  | absent hat habsent => simp [hat, habsent]
  | closed hat hcontent =>
    refine iff_of_true ⟨_, rfl⟩ ⟨by simp [hat], ?_⟩
    intro node content hnode hopened
    obtain rfl := Except.ok.inj (hat.symm.trans hnode)
    cases hcontent.symm.trans hopened
  | opened hat hcontent =>
    rw [exists_sectionOf_iff hlib]
    refine ⟨fun htolerated => ⟨by simp [hat], ?_⟩, fun hall => hall.2 _ _ hat hcontent⟩
    intro node content hnode hopened
    obtain rfl := Except.ok.inj (hat.symm.trans hnode)
    exact Except.ok.inj (hcontent.symm.trans hopened) ▸ htolerated

theorem fileEntries_ne_invalid (complaints : List Complaint) :
    fileEntries lib h path ≠ .error (.invalid complaints) := by
  have hlookup := lookup lib h path
  generalize fileEntries lib h path = entries at hlookup
  cases hlookup with
  | barred => simp
  | absent => simp
  | closed => simp
  | opened => exact sectionOf_ne_invalid complaints

theorem fileEntries_eq_nil (hnone : WithoutSection lib h path) :
    fileEntries lib h path = .ok [] := by
  obtain ⟨habsent, hcontents⟩ := hnone
  have hlookup := lookup lib h path
  generalize fileEntries lib h path = entries at hlookup
  cases hlookup with
  | barred hat hpresent =>
    rw [habsent _ hat] at hpresent
    cases hpresent
  | absent => rfl
  | closed => rfl
  | opened hat hcontent =>
    unfold sectionOf
    obtain hmalformed | ⟨d, hd, hsection⟩ := hcontents _ _ hat hcontent
    · rw [hmalformed]
    · simp [hd, hsection]

/-! ### Loading -/

theorem load_of_fileEntries (h' : fileEntries lib h path = .ok entries) :
    load lib h path = (lib.validate (entries ++ environmentEntries h)).mapError .invalid := by
  rw [load, h']
  rfl

theorem admissible_of_load (hlib : lib.Lawful) (h' : load lib h path = .ok s) : s.Admissible := by
  obtain ⟨entries, -, hs⟩ := bind_eq_ok_iff.mp h'
  cases hvalid : lib.validate (entries ++ environmentEntries h) with
  | ok found =>
    rw [hvalid] at hs
    cases hs
    exact hlib.admissible_of_valid _ _ hvalid
  | error complaints =>
    rw [hvalid] at hs
    cases hs

theorem concludes_iff_fileEntries (hlib : lib.Lawful) : Concludes (load lib h path) ↔
    ∃ entries, fileEntries lib h path = .ok entries := by
  cases hentries : fileEntries lib h path with
  | ok entries =>
    simp only [Except.ok.injEq, exists_eq', iff_true]
    cases hload : load lib h path with
    | ok s => exact Or.inl ⟨s, rfl, admissible_of_load hlib hload⟩
    | error fault =>
      rw [load_of_fileEntries hentries] at hload
      cases hvalid : lib.validate (entries ++ environmentEntries h) with
      | ok s =>
        rw [hvalid] at hload
        cases hload
      | error complaints =>
        rw [hvalid] at hload
        cases hload
        exact Or.inr ⟨complaints, rfl⟩
  | error fault =>
    have hload : load lib h path = .error fault := by
      rw [load, hentries]
      rfl
    rw [hload]
    simp only [reduceCtorEq, exists_false, iff_false]
    rintro (⟨s, hs, -⟩ | ⟨complaints, hcomplaints⟩)
    · cases hs
    · cases hcomplaints
      exact fileEntries_ne_invalid complaints hentries

/-- With any libraries that keep to their laws, loading settings ends in settings that meet their
constraints or in a complaint about them, unless looking at the place of the file fails or there is
a file that its reader does not tolerate. Without a section, the environment alone is asked. -/
theorem load_concludes_iff {lib : Libraries} (hlib : lib.Lawful) (h : Host) (path : Option String) :
    (Concludes (load lib h path) ↔
      (∀ f, lookAt h path = .error f → f.meansAbsence = true) ∧
      ∀ node content, lookAt h path = .ok node → node.content = .ok content →
        lib.Tolerates content) ∧
    (∀ s, load lib h path = .ok s → s.Admissible) ∧
    (WithoutSection lib h path →
      load lib h path = (lib.validate (environmentEntries h)).mapError .invalid) := by
  refine ⟨(concludes_iff_fileEntries hlib).trans (exists_fileEntries_iff hlib),
    fun s hs => admissible_of_load hlib hs, ?_⟩
  intro hnone
  rw [load_of_fileEntries (fileEntries_eq_nil hnone), List.nil_append]

end

/-! ### The libraries written out -/

section

variable {d : Data} {entries : List (Data × Data)} {s : Settings}

/-- A field without a complaint has its default or was read. -/
theorem readField_of_noComplaint {α : Type} {p : α → Prop} {name : String} {default : α}
    {read : Data → Except Problem α} (hdefault : p default) (hread : ∀ d a, read d = .ok a → p a)
    (h : (readField entries name default read).2 = []) :
    p (readField entries name default read).1 := by
  unfold readField at h ⊢
  cases hentry : Data.get? entries name with
  | none => exact hdefault
  | some d =>
    simp only [hentry] at h ⊢
    cases hd : read d with
    | ok a => exact hread d a hd
    | error problem => simp [hd] at h

theorem one_le_of_readPositive {n : Int} (h : readPositive d = .ok n) : 1 ≤ n := by
  unfold readPositive at h
  obtain ⟨m, -, hm⟩ := bind_eq_ok_iff.mp h
  split_ifs at hm with hsmall
  · cases hm
  · obtain rfl := pure_eq_ok_iff.mp hm
    omega

theorem ne_empty_of_readText {text : String} (h : readText d = .ok text) : text ≠ "" := by
  unfold readText at h
  split at h
  · split_ifs at h with hempty
    cases h
    simpa using hempty
  · cases h

/-- The defaults meet the constraints, and what is read is checked. -/
theorem admissible_of_ofEntries (h : ofEntries entries = .ok s) : s.Admissible := by
  have hpositive (d : Data) (n : Int) (h : readPositive d = .ok n) : 1 ≤ n :=
    one_le_of_readPositive h
  unfold ofEntries at h
  dsimp only at h
  split at h
  · next hnone =>
    cases h
    simp only [List.append_eq_nil_iff] at hnone
    obtain ⟨⟨⟨⟨⟨hlocale, -⟩, hruns⟩, -⟩, -⟩, hwindow⟩ := hnone
    constructor
    · exact readField_of_noComplaint (by decide) (fun _ _ => ne_empty_of_readText) hlocale
    · exact readField_of_noComplaint (by decide) hpositive hruns
    · exact readField_of_noComplaint (by decide) hpositive hwindow
  · cases h

theorem isText_of_readFile {content : Bytes} (h : Yaml.readFile content = .ok d) :
    Utf8.IsText content := by
  by_contra htext
  obtain ⟨e, he⟩ := Utf8.exists_decodeStream_error htext
  rw [Yaml.readFile, he] at h
  cases h

theorem Libraries.reference_lawful : reference.Lawful where
  isText_of_document _ _ h := isText_of_readFile h
  admissible_of_valid _ _ h := admissible_of_ofEntries h

end

/-- A configuration file that holds a control character, which no document has. -/
def damagedHost : Host where
  config := .ok (.file [0x01])
  environment := [("CRONKIT_MAX_RUNS_PER_DAY", "7")]

/-- The damaged file is passed over, and the environment counts. -/
theorem load_concludes_damaged :
    ∃ s, load .reference damagedHost = .ok s ∧ s.maxRunsPerDay = 7 ∧ s.Admissible := by
  obtain ⟨-, hadmissible, hload⟩ :=
    load_concludes_iff Libraries.reference_lawful damagedHost none
  have hnone : WithoutSection .reference damagedHost none := by
    refine ⟨fun f hf => (by cases hf), ?_⟩
    intro node content hnode hcontent
    cases hnode
    cases hcontent
    exact Or.inl rfl
  have hs : load .reference damagedHost = .ok { maxRunsPerDay := 7 } := by
    rw [hload hnone]
    decide
  exact ⟨_, hs, rfl, hadmissible _ hs⟩

/-- A file with a byte that is no UTF-8 is not passed over. -/
theorem load_fails_on_undecodable :
    load .reference { config := .ok (.file [0xff]) } =
      .error (.undecodable ⟨.badStart, 0, 1, 0xff⟩) ∧
    ¬ Concludes (load .reference { config := .ok (.file [0xff]) }) := by
  have hload : load .reference { config := .ok (.file [0xff]) } =
      .error (.undecodable ⟨.badStart, 0, 1, 0xff⟩) := by
    decide
  refine ⟨hload, ?_⟩
  rw [hload]
  simp [Concludes]

end CronLint.Settings
