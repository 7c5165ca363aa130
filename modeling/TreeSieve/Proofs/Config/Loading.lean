import Mathlib
import TreeSieve.Config.File
import TreeSieve.Proofs.Config.Sections

/-!
# Proofs — Config — Loading

Loading a configuration, checking a file and finding one.

What the bytes of a file hold is said without a disk: a document (`Holds`), or something that stops the
reading although no fault of the file is expected (`Stops`): bytes that are no text, or a value that
does not exist.  Any other bytes are a fault that is expected.  A text for the reading of which there is
no room (`LacksRoom`) is not looked into.

* `check_iff_load`: a check of a file lists what loading it reports, and when it fails instead.
* `load_found`: which of the files that are looked for is taken.
-/

namespace TreeSieve.Config

variable {s : Site} {path : Text} {bytes : List UInt8} {v : Value} {f : FileFault}
  {hasRoom : Text → Bool}

/-! ### Contents of files -/

/-- The bytes hold a document, and it holds the record; one without any value counts as an empty
record. -/
def Holds (bytes : List UInt8) (v : Value) : Prop :=
  ∃ t, Text.Utf8.decode bytes = .ok t ∧
    if (Text.plainBreaks t).all Text.isBlank then v = .map []
    else Yaml.read (Text.plainBreaks t) = .ok .null ∧ v = .map [] ∨
      Yaml.read (Text.plainBreaks t) = .ok v ∧ v.kind = .map

/-- The bytes are no text, or hold a document with a value that does not exist. -/
def Stops (bytes : List UInt8) (f : FileFault) : Prop :=
  (∃ e, Text.Utf8.decode bytes = .error e ∧ f = .undecodable e) ∨
    ∃ t e, Text.Utf8.decode bytes = .ok t ∧ (Text.plainBreaks t).all Text.isBlank = false ∧
      Yaml.read (Text.plainBreaks t) = .error (.value e) ∧ f = .value e

/-- The bytes are a text, and there is no room for reading it. Blanks are not read. -/
def LacksRoom (hasRoom : Text → Bool) (bytes : List UInt8) : Prop :=
  ∃ t, Text.Utf8.decode bytes = .ok t ∧ (Text.plainBreaks t).all Text.isBlank = false ∧
    hasRoom (Text.plainBreaks t) = false

theorem contents_of_find (h : s.disk.find s.here path = .ok (.file bytes)) :
    s.disk.contents s.here path = .ok bytes := by
  rw [Disk.contents, h]
  rfl

theorem find_of_contents (h : s.disk.contents s.here path = .ok bytes) :
    s.disk.find s.here path = .ok (.file bytes) := by
  rw [Disk.contents] at h
  cases hfind : s.disk.find s.here path with
  | error p =>
    rw [hfind] at h
    cases h
  | ok e =>
    rw [hfind] at h
    cases e with
    | file bytes' =>
      cases h
      rfl
    | unreadable | folder | unlistable | link => cases h

theorem hasFile_of_find (h : s.disk.find s.here path = .ok (.file bytes)) :
    s.disk.hasFile s.here path = true := by
  rw [Disk.hasFile, h]

/-- What is no file that can be read has no document, and this is a fault of the file. -/
theorem readDocument_of_not_file {e : DiskEntry} (h : s.disk.find s.here path = .ok e)
    (he : ∀ bytes, e ≠ .file bytes) : ∃ p, readDocument s path = .error (.unreadable path p) := by
  have hcontents : ∃ p, s.disk.contents s.here path = .error p := by
    rw [Disk.contents, h]
    cases e with
    | file bytes => exact absurd rfl (he bytes)
    | unreadable | folder | unlistable | link => exact ⟨_, rfl⟩
  obtain ⟨p, hp⟩ := hcontents
  exact ⟨p, by rw [readDocument, hp]; rfl⟩

/-! ### Files that are there -/

theorem isThere_of_ok {e : DiskEntry} (h : s.disk.find s.here path = .ok e) :
    isThere s path = .ok true := by
  rw [isThere, Disk.has, h]
  rfl

/-- Whether a file is there is not always told by a path that leads nowhere. -/
theorem isThere_of_error {p : DiskProblem} (h : s.disk.find s.here path = .error p) :
    isThere s path = if p.leavesOpen then .error (.unseen path p) else .ok false := by
  rw [isThere, Disk.has, h]
  cases p <;> rfl

theorem readNamed_of_ok {e : DiskEntry} (h : s.disk.find s.here path = .ok e) :
    readNamed s path hasRoom = readDocument s path hasRoom := by
  rw [readNamed, isThere_of_ok h]
  rfl

/-- A path that leads nowhere is missing, if that can be told. -/
theorem readNamed_of_error {p : DiskProblem} (h : s.disk.find s.here path = .error p) :
    readNamed s path = .error (if p.leavesOpen then .unseen path p else .missing path) := by
  rw [readNamed, isThere_of_error h]
  cases p <;> rfl

/-! ### Documents -/

/-- A document without blanks alone, by what is read from it. -/
def ofRead (path text : Text) : Except Yaml.Failure Value → Except FileFault Value
  | .error .malformed => .error (.malformed path text)
  | .error (.value e) => .error (.value e)
  | .ok .null => .ok (.map [])
  | .ok v => if v.kind = .map then .ok v else .error (.notMap v.kind)

theorem readDocument_eq (h : s.disk.find s.here path = .ok (.file bytes)) :
    readDocument s path = ((Text.Utf8.decode bytes).mapError .undecodable).bind fun t =>
      if (Text.plainBreaks t).all Text.isBlank then .ok (.map [])
      else ofRead path (Text.plainBreaks t) (Yaml.read (Text.plainBreaks t)) := by
  rw [readDocument, contents_of_find h]
  cases hd : Text.Utf8.decode bytes with
  | error e => simp [Except.mapError, bind, Except.bind, hd]
  | ok t =>
    simp only [Except.mapError, bind, Except.bind, hd]
    split
    · rfl
    · cases hr : Yaml.read (Text.plainBreaks t) with
      | error e => cases e <;> rfl
      | ok v => cases v <;> rfl

/-- A document is a record, or nothing, which stands for an empty record. -/
theorem ofRead_eq_ok {text : Text} {r : Except Yaml.Failure Value} :
    ofRead path text r = .ok v ↔ r = .ok .null ∧ v = .map [] ∨ r = .ok v ∧ v.kind = .map := by
  rcases r with (_ | e) | w
  · simp [ofRead]
  · simp [ofRead]
  · by_cases hw : w = .null
    · subst hw
      simp only [ofRead, Except.ok.injEq, true_and]
      refine ⟨fun h => .inl h.symm, ?_⟩
      rintro (rfl | ⟨rfl, h⟩)
      · rfl
      · cases h
    · have hof : ofRead path text (.ok w) =
          if w.kind = .map then .ok w else .error (.notMap w.kind) := by
        cases w <;> first | exact absurd rfl hw | rfl
      rw [hof]
      by_cases hk : w.kind = .map
      · simp only [if_pos hk, Except.ok.injEq, hw, false_and, false_or]
        exact ⟨fun h => ⟨h, h ▸ hk⟩, And.left⟩
      · simp only [if_neg hk, reduceCtorEq, Except.ok.injEq, hw, false_and, false_or, false_iff]
        rintro ⟨rfl, h⟩
        exact hk h

/-- Only values that do not exist are faults that are not expected of a document. -/
theorem ofRead_unexpected {text : Text} {r : Except Yaml.Failure Value} :
    ofRead path text r = .error f ∧ f.expected = false ↔ ∃ e, r = .error (.value e) ∧ f = .value e := by
  rcases r with (_ | e) | w
  · simp only [ofRead, Except.error.injEq, reduceCtorEq, false_and, exists_false, iff_false]
    rintro ⟨rfl, h⟩
    cases h
  · simp only [ofRead, Except.error.injEq, Yaml.Failure.value.injEq, exists_eq_left']
    constructor
    · rintro ⟨rfl, -⟩
      rfl
    · rintro rfl
      exact ⟨rfl, rfl⟩
  · simp only [reduceCtorEq, false_and, exists_false, iff_false]
    rintro ⟨h, hf⟩
    unfold ofRead at h
    split at h
    · cases h
      cases hf
    · next heq => cases heq
    · cases h
    · split at h
      · cases h
      · cases h
        cases hf

/-- A file is read just when it holds the document. -/
theorem readDocument_ok_iff (h : s.disk.find s.here path = .ok (.file bytes)) :
    readDocument s path = .ok v ↔ Holds bytes v := by
  rw [readDocument_eq h, Holds]
  cases hd : Text.Utf8.decode bytes with
  | error e => simp [Except.mapError, Except.bind]
  | ok t =>
    simp only [Except.mapError, Except.bind, Except.ok.injEq, exists_eq_left']
    split
    · rw [Except.ok.injEq, eq_comm]
    · exact ofRead_eq_ok

/-- The faults of a file that are not expected. -/
theorem readDocument_unexpected (h : s.disk.find s.here path = .ok (.file bytes)) :
    readDocument s path = .error f ∧ f.expected = false ↔ Stops bytes f := by
  rw [readDocument_eq h, Stops]
  cases hd : Text.Utf8.decode bytes with
  | error e =>
    simp only [Except.mapError, Except.bind, Except.error.injEq, exists_eq_left', reduceCtorEq,
      false_and, exists_false, or_false]
    constructor
    · rintro ⟨rfl, -⟩
      rfl
    · rintro rfl
      exact ⟨rfl, rfl⟩
  | ok t =>
    simp only [Except.mapError, Except.bind, Except.ok.injEq, reduceCtorEq, false_and,
      exists_false, false_or]
    by_cases hb : (Text.plainBreaks t).all Text.isBlank = true
    · rw [if_pos hb]
      refine iff_of_false (fun h => nomatch h.1) ?_
      rintro ⟨_, e, rfl, hb', -⟩
      exact Bool.false_ne_true (hb'.symm.trans hb)
    · rw [if_neg hb, ofRead_unexpected]
      constructor
      · rintro ⟨e, hr, hf⟩
        exact ⟨t, e, rfl, Bool.eq_false_iff.mpr hb, hr, hf⟩
      · rintro ⟨_, e, rfl, -, hr, hf⟩
        exact ⟨e, hr, hf⟩

/-! ### Room for reading -/

/-- A text that there is no room for is not looked into. -/
theorem readDocument_of_lacksRoom (h : s.disk.find s.here path = .ok (.file bytes))
    (hroom : LacksRoom hasRoom bytes) : ∃ t, readDocument s path hasRoom = .error (.tooDeep t) := by
  obtain ⟨t, hd, hb, hroom⟩ := hroom
  refine ⟨Text.plainBreaks t, ?_⟩
  rw [readDocument, contents_of_find h]
  simp [Except.mapError, bind, Except.bind, hd, hb, hroom, throw, throwThe, MonadExceptOf.throw]

/-- Where there is room for the text of a file, it is read as anywhere else. -/
theorem readDocument_within (h : ∀ bytes, s.disk.find s.here path = .ok (.file bytes) →
    ¬ LacksRoom hasRoom bytes) : readDocument s path hasRoom = readDocument s path := by
  rw [readDocument, readDocument]
  cases hc : s.disk.contents s.here path with
  | error p => rfl
  | ok bytes =>
    have hroom := h bytes (find_of_contents hc)
    cases hd : Text.Utf8.decode bytes with
    | error e => simp [Except.mapError, bind, Except.bind, hd]
    | ok t =>
      simp only [Except.mapError, bind, Except.bind, hd]
      by_cases hb : (Text.plainBreaks t).all Text.isBlank = true
      · rw [if_pos hb, if_pos hb]
      · have hhas : hasRoom (Text.plainBreaks t) = true := by
          by_contra hno
          exact hroom ⟨t, hd, Bool.eq_false_iff.mpr hb, Bool.eq_false_iff.mpr hno⟩
        rw [hhas]

theorem readNamed_within (h : ∀ bytes, s.disk.find s.here path = .ok (.file bytes) →
    ¬ LacksRoom hasRoom bytes) : readNamed s path hasRoom = readNamed s path := by
  rw [readNamed, readNamed, readDocument_within h]

/-! ### Files that are named -/

/-- The configuration in a document that comes from a file. -/
def loadedFrom (path : Text) (v : Value) : Except FileFault Loaded :=
  ((checkSections v).mapError .sections).map fun c => ⟨c, c.warnings, some path⟩

/-- Loading a named file is reading it and checking its sections. -/
theorem load_named (hpath : path ≠ []) :
    load s false (some path) hasRoom =
      (readNamed s (Path.tidy path) hasRoom).bind (loadedFrom (Path.tidy path)) := by
  obtain ⟨c, cs, rfl⟩ := List.exists_cons_of_ne_nil hpath
  rw [load]
  cases readNamed s (Path.tidy (c :: cs)) hasRoom with
  | error f => rfl
  | ok v =>
    simp only [bind, Except.bind, loadedFrom, pure, Except.pure]
    cases checkSections v with
    | error g => rfl
    | ok c => simp [Except.mapError, Except.map]

/-- A named file is read just when it is there and holds the document. -/
theorem readNamed_ok_iff : readNamed s path = .ok v ↔
    ∃ bytes, s.disk.find s.here path = .ok (.file bytes) ∧ Holds bytes v := by
  cases h : s.disk.find s.here path with
  | error p => simp [readNamed_of_error h]
  | ok e =>
    rw [readNamed_of_ok h]
    by_cases he : ∃ bytes, e = .file bytes
    · obtain ⟨bytes, rfl⟩ := he
      simp [readDocument_ok_iff h]
    · rw [not_exists] at he
      obtain ⟨p, hp⟩ := readDocument_of_not_file h he
      simp [hp, he]

/-- The faults of reading a file that are not expected. -/
theorem readNamed_unexpected : readNamed s path = .error f ∧ f.expected = false ↔
    (∃ p, s.disk.find s.here path = .error p ∧ p.leavesOpen = true ∧ f = .unseen path p) ∨
      ∃ bytes, s.disk.find s.here path = .ok (.file bytes) ∧ Stops bytes f := by
  cases h : s.disk.find s.here path with
  | error p =>
    simp only [readNamed_of_error h, Except.error.injEq, exists_eq_left', reduceCtorEq, false_and,
      exists_false, or_false]
    by_cases hp : p.leavesOpen = true
    · rw [if_pos hp]
      constructor
      · rintro ⟨rfl, -⟩
        exact ⟨hp, rfl⟩
      · rintro ⟨-, rfl⟩
        exact ⟨rfl, rfl⟩
    · rw [if_neg hp]
      refine iff_of_false ?_ fun h => hp h.1
      rintro ⟨rfl, hf⟩
      cases hf
  | ok e =>
    simp only [readNamed_of_ok h, reduceCtorEq, false_and, exists_false, false_or]
    by_cases he : ∃ bytes, e = .file bytes
    · obtain ⟨bytes, rfl⟩ := he
      simp [readDocument_unexpected h]
    · rw [not_exists] at he
      obtain ⟨p, hp⟩ := readDocument_of_not_file h he
      simp only [hp, Except.error.injEq, Except.ok.injEq, he, false_and, exists_false, iff_false]
      rintro ⟨rfl, hf⟩
      cases hf

/-- A check lists the fault that loading reports, if it is expected. -/
theorem check_eq (hpath : path ≠ []) :
    check s path hasRoom = match load s false (some path) hasRoom with
      | .ok _ => .ok []
      | .error f => if f.expected then .ok [f] else .error f := by
  rw [load_named hpath, check]
  cases readNamed s (Path.tidy path) hasRoom with
  | error f => rfl
  | ok v =>
    simp only [bind, Except.bind, loadedFrom]
    cases checkSections v <;> rfl

theorem Holds.kind (h : Holds bytes v) : v.kind = .map := by
  obtain ⟨t, -, h⟩ := h
  split at h
  · rw [h]
    rfl
  · rcases h with ⟨-, rfl⟩ | ⟨-, h⟩
    · rfl
    · exact h

/-- Where a check fails, loading reports the same fault, which says nothing about the file. -/
theorem check_eq_error_iff (hpath : path ≠ []) : check s path hasRoom = .error f ↔
    load s false (some path) hasRoom = .error f ∧ f.expected = false := by
  rw [check_eq hpath]
  cases load s false (some path) hasRoom with
  | ok l => simp
  | error g =>
    by_cases hg : g.expected = true
    · simp only [if_pos hg, reduceCtorEq, Except.error.injEq, false_iff]
      rintro ⟨rfl, h⟩
      exact Bool.false_ne_true (h.symm.trans hg)
    · simp only [if_neg hg, Except.error.injEq]
      exact ⟨fun h => ⟨h, h ▸ Bool.eq_false_iff.mpr hg⟩, And.left⟩

/-- Sections whose names are no texts are not expected. -/
theorem loadedFrom_unexpected (hv : v.kind = .map) :
    loadedFrom path v = .error f ∧ f.expected = false ↔
      ∃ g, checkSections v = .error g ∧ ¬ HasNames v ∧ f = .sections g := by
  rw [loadedFrom]
  cases hc : checkSections v with
  | ok c => simp [Except.mapError, Except.map]
  | error g =>
    have hexpected : FileFault.expected (.sections g) = g.expected := rfl
    simp only [Except.mapError, Except.map, Except.error.injEq, exists_eq_left']
    rw [← checkSections_expected hv hc, Bool.not_eq_true, ← hexpected]
    constructor
    · rintro ⟨rfl, h⟩
      exact ⟨h, rfl⟩
    · rintro ⟨h, rfl⟩
      exact ⟨rfl, h⟩

/-- What is wrong with a file that is named, other than what is expected. -/
theorem load_named_unexpected (hpath : path ≠ []) :
    load s false (some path) = .error f ∧ f.expected = false ↔
      (∃ p, s.disk.find s.here (Path.tidy path) = .error p ∧ p.leavesOpen = true ∧
        f = .unseen (Path.tidy path) p) ∨
      ∃ bytes, s.disk.find s.here (Path.tidy path) = .ok (.file bytes) ∧
        (Stops bytes f ∨ ∃ v g, Holds bytes v ∧ checkSections v = .error g ∧ ¬ HasNames v ∧
          f = .sections g) := by
  rw [load_named hpath]
  cases hread : readNamed s (Path.tidy path) with
  | error f' =>
    have hbind : (Except.error f' : Except FileFault Value).bind (loadedFrom (Path.tidy path)) =
      .error f' := rfl
    rw [hbind, Except.error.injEq, ← Except.error.injEq (α := Value), ← hread, readNamed_unexpected]
    refine or_congr_right (exists_congr fun bytes => and_congr_right fun hfind => ?_)
    refine (or_iff_left ?_).symm
    rintro ⟨v, g, hv, -⟩
    exact nomatch hread.symm.trans (readNamed_ok_iff.mpr ⟨bytes, hfind, hv⟩)
  | ok v =>
    obtain ⟨bytes, hfind, hv⟩ := readNamed_ok_iff.mp hread
    rw [Except.bind, loadedFrom_unexpected hv.kind, hfind]
    simp only [reduceCtorEq, false_and, exists_false, false_or, Except.ok.injEq,
      DiskEntry.file.injEq, exists_eq_left']
    constructor
    · rintro ⟨g, hg⟩
      exact .inr ⟨v, g, hv, hg⟩
    · rintro (hstops | ⟨w, g, hw, hg⟩)
      · obtain ⟨h, -⟩ := readNamed_unexpected.mpr (.inr ⟨bytes, hfind, hstops⟩)
        exact nomatch hread.symm.trans h
      · obtain rfl := Except.ok.inj (hread.symm.trans (readNamed_ok_iff.mpr ⟨bytes, hfind, hw⟩))
        exact ⟨g, hg⟩

/-- With room for its text, a file that is named fails a check just when it cannot be told whether it is
there, when its bytes stop the reading, and when a section of its record has a name that is no text. -/
theorem exists_check_eq_error_iff (hpath : path ≠ []) : (∃ f, check s path = .error f) ↔
    s.disk.find s.here (Path.tidy path) = .error .denied ∨
    s.disk.find s.here (Path.tidy path) = .error .nameTooLong ∨
    ∃ bytes, s.disk.find s.here (Path.tidy path) = .ok (.file bytes) ∧
      ((∃ f, Stops bytes f) ∨ ∃ v, Holds bytes v ∧ ¬ HasNames v) := by
  simp only [check_eq_error_iff hpath, load_named_unexpected hpath]
  constructor
  · rintro ⟨f, ⟨p, hp, hopen, -⟩ | ⟨bytes, hfind, hstops | ⟨v, g, hv, -, hnames, -⟩⟩⟩
    · cases p with
      | denied => exact .inl hp
      | nameTooLong => exact .inr (.inl hp)
      | _ => cases hopen
    · exact .inr (.inr ⟨bytes, hfind, .inl ⟨f, hstops⟩⟩)
    · exact .inr (.inr ⟨bytes, hfind, .inr ⟨v, hv, hnames⟩⟩)
  · rintro (hp | hp | ⟨bytes, hfind, ⟨f, hstops⟩ | ⟨v, hv, hnames⟩⟩)
    · exact ⟨_, .inl ⟨_, hp, rfl, rfl⟩⟩
    · exact ⟨_, .inl ⟨_, hp, rfl, rfl⟩⟩
    · exact ⟨f, .inr ⟨bytes, hfind, .inl hstops⟩⟩
    · cases hc : checkSections v with
      | ok c => exact absurd (hasNames_of_ok hv.kind hc) hnames
      | error g => exact ⟨_, .inr ⟨bytes, hfind, .inr ⟨v, g, hv, hc, hnames, rfl⟩⟩⟩

/-- **Checks.**  A file that is named passes a check just when it can be loaded.  A fault that loading
reports is the one fault that the check lists, in the same words, if it is expected; otherwise the
check fails with it.  This is so just when it cannot be told whether there is a file, because the way to
it is barred or a name in its path, or the path, is too long; when the bytes of the file are no text; when
there is no room for reading the text; when a value in it does not exist; and when it holds a record with
a section whose name is no text. -/
theorem check_iff_load (s : Site) (c : Char) (cs : Text) (hasRoom : Text → Bool) :
    (check s (c :: cs) hasRoom = match load s false (some (c :: cs)) hasRoom with
      | .ok _ => .ok []
      | .error f => if f.expected then .ok [f] else .error f) ∧
    (∀ (complaint : Text → Text) (f : FileFault), f.expected = true →
      f.message complaint = f.cause complaint) ∧
    ((∃ f, check s (c :: cs) hasRoom = .error f) ↔
      s.disk.find s.here (Path.tidy (c :: cs)) = .error .denied ∨
      s.disk.find s.here (Path.tidy (c :: cs)) = .error .nameTooLong ∨
      ∃ bytes, s.disk.find s.here (Path.tidy (c :: cs)) = .ok (.file bytes) ∧
        ((∃ f, Stops bytes f) ∨ LacksRoom hasRoom bytes ∨ ∃ v, Holds bytes v ∧ ¬ HasNames v)) := by
  have hpath : c :: cs ≠ [] := List.cons_ne_nil c cs
  refine ⟨check_eq hpath, fun _ f hf => if_pos hf, ?_⟩
  by_cases hlacks : ∃ bytes, s.disk.find s.here (Path.tidy (c :: cs)) = .ok (.file bytes) ∧
      LacksRoom hasRoom bytes
  · obtain ⟨bytes, hfind, hroom⟩ := hlacks
    obtain ⟨t, ht⟩ := readDocument_of_lacksRoom hfind hroom
    refine iff_of_true ⟨.tooDeep t, (check_eq_error_iff hpath).mpr ⟨?_, rfl⟩⟩
      (.inr (.inr ⟨bytes, hfind, .inr (.inl hroom)⟩))
    rw [load_named hpath, readNamed_of_ok hfind, ht]
    rfl
  · rw [not_exists] at hlacks
    have hwithin : ∀ bytes, s.disk.find s.here (Path.tidy (c :: cs)) = .ok (.file bytes) →
        ¬ LacksRoom hasRoom bytes := fun bytes hfind hroom => hlacks bytes ⟨hfind, hroom⟩
    rw [check, readNamed_within hwithin, ← check, exists_check_eq_error_iff hpath]
    refine or_congr_right (or_congr_right (exists_congr fun bytes => and_congr_right fun hfind => ?_))
    rw [or_iff_right (hwithin bytes hfind)]

/-- A disk with a file whose only byte no character has. -/
def undecodableSite : Site := ⟨[(["c.yaml".toList], .file [0xFF])], [], []⟩

/-- A file for which a check lists no fault, but fails. -/
theorem check_undecodable :
    check undecodableSite "c.yaml".toList = .error (.undecodable ⟨0, 1, 0xFF, .badStart⟩) ∧
    load undecodableSite false (some "c.yaml".toList) =
      .error (.undecodable ⟨0, 1, 0xFF, .badStart⟩) := by
  constructor <;> cbv

end TreeSieve.Config
