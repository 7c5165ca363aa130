import TreeSieve.Proofs.Note
import TreeSieve.Proofs.Snapshot.Naming
import TreeSieve.Proofs.Yaml.Nodes

/-!
# Proofs — Snapshot — Notes

What the contents of files can do to a snapshot.  Of all bytes that a file may hold, only a note whose
front matter stops the reading of its tags (`Note.Stops`) makes the snapshot fail.

* `canRead_iff`: the files whose tags can be read.
* `ofDisk_notes`: which notes make a snapshot fail, and what there is when none does.
* `tags_impossibleDate`: a note that stops, with a tag in its body.
-/

namespace TreeSieve

namespace Snapshot

variable {o : Options} {d : Disk} {place names here : List Text} {name path : Text}

/-- The text of a note with the bytes. -/
def noteText (bytes : List UInt8) : Text := Text.plainBreaks (Text.Utf8.decodeLeniently bytes)

/-- A file is read for its tags. -/
structure IsNote (o : Options) (name : Text) (bytes : List UInt8) : Prop where
  tagged : o.isTagged name = true
  short : bytes.length ≤ o.maxBytes

theorem exists_readTags_iff {content : Except Nat (List UInt8)} :
    (∃ r, readTags o name content = .ok r) ↔
      ∀ bytes, content = .ok bytes → IsNote o name bytes → ∀ f, ¬ Note.Stops (noteText bytes) f := by
  by_cases htagged : o.isTagged name = true
  · cases content with
    | error size =>
      refine iff_of_true (by simp [readTags, htagged]) ?_
      rintro bytes ⟨⟩
    | ok bytes =>
      by_cases hlong : o.maxBytes < bytes.length
      · refine iff_of_true (by simp [readTags, htagged, hlong]) fun bytes' h hnote => ?_
        cases h
        exact absurd hnote.short (Nat.not_le.mpr hlong)
      · -- the tags can be read or not, and nothing else can go wrong
        have hread : (∃ r, readTags o name (.ok bytes) = .ok r) ↔
            ∃ ts, Note.tags (noteText bytes) = .ok ts := by
          simp only [readTags, htagged, Bool.not_true, Bool.false_eq_true, if_false, if_neg hlong,
            bind, Except.bind_eq_ok, Except.mapError_eq_ok, pure, Except.pure]
          constructor
          · rintro ⟨-, ts, hts, -⟩
            exact ⟨ts, hts⟩
          · rintro ⟨ts, hts⟩
            exact ⟨_, ts, hts, rfl⟩
        rw [hread, Note.exists_tags_iff]
        constructor
        · rintro h bytes' heq -
          cases heq
          exact h
        · exact fun h => h bytes rfl ⟨htagged, Nat.not_lt.mp hlong⟩
  · exact iff_of_true (by simp [readTags, htagged]) fun _ _ hnote => absurd hnote.tagged htagged

theorem content_eq_ok {bytes : List UInt8} :
    d.content place names = .ok bytes ↔ d.resolve place names = .ok (.file bytes) := by
  rw [Disk.content]
  split
  · next h => rw [h, Except.ok.injEq, Except.ok.injEq, DiskEntry.file.injEq]
  · next h => simp [h]
  · next h _ => exact iff_of_false (by simp) fun h' => h bytes h'

/-- The tags of an entry can be read unless it is a note that stops. -/
theorem canRead_iff : CanRead o d place names ↔
    ∀ bytes, d.resolve place names = .ok (.file bytes) → IsNote o (names.getLast?.getD []) bytes →
      ∀ f, ¬ Note.Stops (noteText bytes) f := by
  simp only [CanRead, exists_readTags_iff, content_eq_ok]
  refine ⟨fun h bytes hfile => h ?_ bytes hfile, fun h _ => h⟩
  rw [hfile]
  rintro ⟨⟩

/-- **Notes.**  Tags cannot be read from a text just when its front matter stops; front matter that is
malformed does not, and leaves the tags of the body alone.  Let normalisation change no path of an
entry listed for the folder at `place`.  Then a snapshot of the folder succeeds just when no note stops
among the files for which there is room, whatever else files hold, and it holds an item for each entry
for which there is room, in order. -/
theorem ofDisk_notes (hd : d.IsOrderly) (hplace : d.locate here path = .ok place)
    (hfolder : d.isFolderAt place = true)
    (hnormal : ∀ names ∈ listing o d place [],
      Path.normalize (Text.join Path.root names) = Text.join Path.root names) :
    (∀ text f, Note.tags text = .error f ↔ Note.Stops text f) ∧
    (∀ text front, (Note.split text).1 = some front → Yaml.read front = .error .malformed →
      Note.tags text = .ok (Text.sortedSet (Note.bodyTags (Note.split text).2))) ∧
    ((∃ r, ofDisk o d here path = .ok r) ↔
      ∀ names ∈ (listing o d place []).take (o.maxItems - 1), ∀ bytes,
        d.resolve place names = .ok (.file bytes) → IsNote o (names.getLast?.getD []) bytes →
          ∀ f, ¬ Note.Stops (noteText bytes) f) ∧
    ∀ items s, ofDisk o d here path = .ok (items, s) → ∃ rest, items = rootItem :: rest ∧
      List.Forall₂ (IsItemAt d place) ((listing o d place []).take (o.maxItems - 1)) rest := by
  have hself : ∀ names ∈ (listing o d place []).take (o.maxItems - 1),
      Path.normalize (Text.join Path.root names) = Text.join Path.root names :=
    fun names h => hnormal names (List.mem_of_mem_take h)
  refine ⟨fun _ _ => Note.tags_eq_error_iff, fun _ _ => Note.tags_of_malformed, ?_,
    fun items s h => ?_⟩
  · rw [exists_ofDisk_iff hd hplace hfolder]
    refine forall₂_congr fun names h => ?_
    obtain ⟨around, n, rfl, hn, -⟩ := exists_concat_of_mem_listing hd (List.mem_of_mem_take h)
    rw [exists_makes_iff hn (hself _ h), canRead_iff]
  · obtain ⟨rest, rfl, hrest⟩ := (ofDisk_ok_iff hd hplace hfolder).mp ⟨s, h⟩
    exact ⟨rest, rfl, forall₂_isItemAt hd hself hrest⟩

/-- Front matter with a list that does not end, a tag, and a byte that belongs to no text. -/
def noteBytes : List UInt8 := [45, 45, 45, 10, 91, 10, 45, 45, 45, 10, 35, 120, 10, 255]

/-- A folder with a note that is malformed in both ways. -/
def noteDisk : Disk :=
  [(["r".toList], .folder), (["r".toList, "n.md".toList], .file noteBytes)]

theorem ofDisk_notes_noteDisk : Note.tags (noteText noteBytes) = .ok ["x".toList] ∧
    ∃ items s, ofDisk lenient noteDisk [] "r".toList = .ok (items, s) ∧
      ∃ rest, items = rootItem :: rest ∧
        List.Forall₂ (IsItemAt noteDisk ["r".toList]) [["n.md".toList]] rest := by
  have hd : noteDisk.IsOrderly := by decide
  have hplace : noteDisk.locate [] "r".toList = .ok ["r".toList] :=
    Disk.locate_name rfl (by decide) (by decide) (by decide) (by decide)
  have hlisting : listing lenient noteDisk ["r".toList] [] = [["n.md".toList]] := by cbv
  have hnormal : ∀ names ∈ listing lenient noteDisk ["r".toList] [],
      Path.normalize (Text.join Path.root names) = Text.join Path.root names := by
    rw [hlisting]
    exact List.forall_mem_singleton.mpr (by decide)
  have hbytes : noteDisk.resolve ["r".toList] ["n.md".toList] = .ok (.file noteBytes) :=
    Disk.resolve_file (by decide) (by decide)
  have hfront : (Note.split (noteText noteBytes)).1 = some "[".toList := by cbv
  have hread : Yaml.read "[".toList = .error .malformed := by cbv
  have hbody : Text.sortedSet (Note.bodyTags (Note.split (noteText noteBytes)).2) =
      ["x".toList] := by cbv
  obtain ⟨-, htags, hok, hitems⟩ := @ofDisk_notes lenient _ _ _ _ hd hplace (by decide) hnormal
  have hbodyTags := htags (noteText noteBytes) _ hfront hread
  rw [hbody] at hbodyTags
  rw [hlisting] at hok hitems
  obtain ⟨⟨items, s⟩, h⟩ := hok.mpr (List.forall_mem_singleton.mpr fun bytes hfile _ f hstops => by
    obtain rfl := DiskEntry.file.inj (Except.ok.inj (hfile.symm.trans hbytes))
    -- the front matter is malformed, so no value in it is at fault
    cases Note.tags_eq_error_iff.mpr hstops |>.symm.trans hbodyTags)
  exact ⟨hbodyTags, items, s, h, hitems items s h⟩

end Snapshot

/-- A date that does not exist in the front matter, and a tag in the body. -/
def Note.impossibleDate : Text := "---\ndate: 2024-13-45\n---\n#x".toList

/-- Not even the tag of the body is found. -/
theorem Note.tags_impossibleDate : tags impossibleDate = .error .month ∧
    bodyTags (split impossibleDate).2 = ["x".toList] := by
  have hsplit : split impossibleDate = (some "date: 2024-13-45".toList, "#x".toList) := by decide
  have hread : Yaml.read "date: 2024-13-45".toList = .error (.value .month) := by
    have hname : Yaml.scalarTag true "date".toList = .str := by decide +kernel
    have hdate : Yaml.scalarTag true "2024-13-45".toList = .timestamp := by decide +kernel
    have hdocument := @Yaml.document_entry "date: 2024-13-45".toList "date".toList
      "2024-13-45".toList (by decide +kernel)
    rw [hname, hdate] at hdocument
    rw [Yaml.read, hdocument]
    cbv
  rw [hsplit]
  exact ⟨tags_eq_error_iff.mpr (.value (congrArg Prod.fst hsplit) hread), by cbv⟩

end TreeSieve
