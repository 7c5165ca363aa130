import TreeSieve.Proofs.Config.Document
import TreeSieve.Proofs.Config.Loading
import TreeSieve.Proofs.Config.Reading
import TreeSieve.Proofs.Disk.Files

/-!
# Proofs — Config — Saving

What is saved is loaded again.

The document of a configuration is plain ASCII and reads as the record of the configuration
(`holds_toDocument`), the record reads as the configuration itself, and the file stands where it was written.

* `load_save`: **a configuration that was saved is loaded from the same path, as it was.**
-/

namespace TreeSieve.Config

variable {s : Site} {c : Config} {v : Value} {path : Text} {d : Disk}

/-- The document of a configuration holds its record. -/
theorem holds_toDocument (h : c.snapshot.HasShortLimits) :
    Holds (Text.Utf8.encode c.toDocument) c.toValue := by
  have hprinted : Yaml.IsPrinted c.toDocument := isPrinted_toDocument h
  have hascii : ∀ ch ∈ c.toDocument, ch.toNat < 128 := by
    intro ch hch
    rcases hprinted ch hch with hclear | rfl
    · rw [Yaml.Style.isClear_iff] at hclear
      omega
    · decide
  have hbreaks : Text.plainBreaks c.toDocument = c.toDocument :=
    Text.plainBreaks_eq_self fun ch hch => by
      rintro rfl
      rcases hprinted _ hch with hclear | hfeed
      · cases hclear
      · cases hfeed
  have hblank : (c.toDocument.all Text.isBlank) = false := by
    rw [toDocument, sectionLines, Text.join.eq_def]
    rfl
  refine ⟨c.toDocument, Text.Utf8.decode_encode hascii, ?_⟩
  rw [hbreaks, hblank]
  exact .inr ⟨read_toDocument h, rfl⟩

/-- A configuration is saved by writing its document, when the folders around have been made. -/
theorem exists_putFile (hd : s.disk.IsOrderly) (hhere : s.disk.isFolderAt s.here = true)
    (h : save s path c = .ok d) : ∃ mid : Disk, mid.IsOrderly ∧ mid.isFolderAt s.here = true ∧
      mid.putFile s.here (Path.tidy path) (Text.Utf8.encode c.toDocument) = .ok d := by
  rw [save, write] at h
  obtain ⟨mid, hmade, h⟩ := Except.bind_eq_ok.1 h
  rw [Except.mapError_eq_ok] at hmade h
  obtain ⟨hmid, hmidHere⟩ := hd.makeFolders hhere hmade
  exact ⟨mid, hmid, hmidHere, h⟩

/-- The folder to start from is no place for a file. -/
theorem putFile_here {bytes : List UInt8} (hhere : d.isFolderAt s.here = true) :
    d.putFile s.here (Path.tidy []) bytes = .error .isFolder := by
  have hwalk : d.walk true true Disk.linkLimit s.here [] = .ok s.here := by rw [Disk.walk]
  have hlead : d.lead true true s.here (Path.tidy []) = .ok s.here := by
    rw [Disk.lead_eq_walk (by decide) (by decide)]
    exact hwalk
  rw [Disk.putFile, hlead]
  obtain he | ⟨passes, he⟩ := Disk.isFolderAt_iff.mp hhere <;>
    simp only [bind, Except.bind, he, throw, throwThe, MonadExceptOf.throw]

/-- **What is saved is loaded again**, as it was, with its own warnings. -/
theorem load_of_save (hd : s.disk.IsOrderly) (hhere : s.disk.isFolderAt s.here = true)
    (hc : ofValue v = .ok c) (hlimits : c.snapshot.HasShortLimits) (h : save s path c = .ok d) :
    load { s with disk := d } false (some path) = .ok ⟨c, c.warnings, some (Path.tidy path)⟩ := by
  obtain ⟨mid, hmid, hmidHere, hput⟩ := exists_putFile hd hhere h
  -- nothing can be saved under the empty path, for which loading would search
  have hpath : path ≠ [] := by
    rintro rfl
    rw [putFile_here hmidHere] at hput
    cases hput
  have hread : readNamed { s with disk := d } (Path.tidy path) = .ok c.toValue :=
    readNamed_ok_iff.2 ⟨_, hmid.find_putFile hmidHere hput, holds_toDocument hlimits⟩
  rw [load_named hpath, hread]
  simp only [Except.bind, loadedFrom, checkSections_toValue (isClean_of_ofValue hc)]
  rfl

/-- **Saving and loading.**  A configuration that was read from a record, with limits of no more digits than
are read, is loaded from every path that it can be saved to: as the same record, not by default, and
with the same answers on paths and names.  The texts of its lists may be any that are accepted. -/
theorem load_save (hd : s.disk.IsOrderly) (hhere : s.disk.isFolderAt s.here = true)
    (hc : ofValue v = .ok c) (hlimits : c.snapshot.HasShortLimits) (h : save s path c = .ok d) :
    ∃ loaded, load { s with disk := d } false (some path) = .ok loaded ∧
      loaded.config.toValue = c.toValue ∧ loaded.isDefault = false ∧
      (∀ p, loaded.config.snapshot.ignores p = c.snapshot.ignores p) ∧
      ∀ name, loaded.config.snapshot.isTagged name = c.snapshot.isTagged name :=
  ⟨_, load_of_save hd hhere hc hlimits h, rfl, rfl, fun _ => rfl, fun _ => rfl⟩

/-- An ignore list of texts that would mean something else if they were written plain. -/
def hardLines : List Text := ["yes", "1:30", "~", "<<", "a: b", "!é 'x'"].map (·.toList)

/-- A record with that list and an extension in capitals. -/
def hardRecord : Value := .map [(.text snapshotName, .map
  [(.text Snapshot.Options.ignoreName, .list (hardLines.map .text)),
    (.text Snapshot.Options.extensionsName, .text "MD".toList)])]

/-- An empty disk. -/
def emptySite : Site := ⟨[], [], []⟩

theorem load_save_hardRecord : ∃ c d, ofValue hardRecord = .ok c ∧
    save emptySite "c.yaml".toList c = .ok d ∧
    ∃ loaded, load { emptySite with disk := d } false (some "c.yaml".toList) = .ok loaded ∧
      loaded.config.toValue = c.toValue ∧ loaded.isDefault = false ∧
      (∀ p, loaded.config.snapshot.ignores p = c.snapshot.ignores p) ∧
      ∀ name, loaded.config.snapshot.isTagged name = c.snapshot.isTagged name := by
  have hnoSet : ∀ line ∈ hardLines, '[' ∉ line := by decide
  obtain ⟨rules, hrules, -⟩ := IgnoreRule.exists_readAll hnoSet
  have hread : Snapshot.Options.IsRead [(.text Snapshot.Options.ignoreName, .list (hardLines.map .text)),
      (.text Snapshot.Options.extensionsName, .text "MD".toList)] { ignore := hardLines, rules } :=
    ⟨rfl, rfl, rfl, rfl, rfl, rfl, hrules⟩
  have hcheck := Snapshot.Options.check_of_ofValue (Snapshot.Options.ofValue_map_iff.2 hread)
  have hc : ofValue hardRecord = .ok ⟨{}, { ignore := hardLines, rules }⟩ :=
    ofValue_map_iff.2 ⟨rfl, congrArg (Except.map (Checked.named snapshotName)) hcheck⟩
  have hsave (c : Config) : save emptySite "c.yaml".toList c =
      .ok [(["c.yaml".toList], .file (Text.Utf8.encode c.toDocument))] := by
    rw [save, write]
    generalize Text.Utf8.encode c.toDocument = bytes
    cbv
  have hitems : (Text.ofNat 200000).length ≤ Number.digitLimit := by decide
  have hbytes : (Text.ofNat 1000000).length ≤ Number.digitLimit := by decide
  exact ⟨_, _, hc, hsave _, load_save (by decide) rfl hc ⟨hitems, hbytes⟩ (hsave _)⟩

end TreeSieve.Config
