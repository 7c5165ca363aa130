import TreeSieve.Proofs.Snapshot.Limit

/-!
# Proofs — Snapshot — Naming

What becomes of the names of entries in a snapshot, whatever characters they have.  The item of an entry
stands under the path of its names after normalisation, which is not always the path of the names.

* `normalize_join_eq_self_iff`: which paths of names are left as they are.
* `ofDisk_names`: when there is a snapshot, where its items stand, and which of them stand under the
  path of their names.
* `ofDisk_unfaithfulNames`: two entries under one path, an entry under the path of the root, and a
  name that makes the snapshot fail.
-/

namespace TreeSieve.Snapshot

open Text (isBlank)

variable {o : Options} {d : Disk} {place around names here : List Text} {n path : Text}

/-- A path of names is kept when none of them has a backslash and it neither begins nor ends with a
blank. -/
theorem normalize_join_eq_self_iff (hn : Disk.IsName n) :
    Path.normalize (Text.join Path.root (around ++ [n])) = Text.join Path.root (around ++ [n]) ↔
      '\\' ∉ Text.join Path.root (around ++ [n]) ∧
      (∀ c ∈ (Text.join Path.root (around ++ [n])).head?, isBlank c = false) ∧
      ∀ c ∈ (Text.join Path.root (around ++ [n])).getLast?, isBlank c = false := by
  refine Path.normalize_eq_self_iff fun c hc => ?_
  rw [join_concat, List.getLast?_append, List.getLast?_eq_some_getLast hn.ne_nil, Option.some_or] at hc
  obtain rfl := Option.some.inj hc
  exact ne_of_mem_of_not_mem (List.getLast_mem hn.ne_nil) hn.slash

/-- **Names.**  A snapshot of the folder at `place` succeeds just when, among the entries for which there
is room, no entry of the folder itself has a name of blanks alone and the tags of each file can be
read.  It holds one item for each of them, in order, under the path of its names after normalisation.
That is the path of the names when it has no backslash and neither begins nor ends with a blank; it is
the root when it has slashes and backslashes alone, besides blanks around them.  Where all paths are
those of the names, no two items have one path. -/
theorem ofDisk_names (hd : d.IsOrderly) (hplace : d.locate here path = .ok place)
    (hfolder : d.isFolderAt place = true) :
    ((∃ r, ofDisk o d here path = .ok r) ↔
      ∀ names ∈ (listing o d place []).take (o.maxItems - 1),
        ¬ IsBlankName names ∧ CanRead o d place names) ∧
    (∀ names ∈ listing o d place [],
      (Path.normalize (Text.join Path.root names) = Text.join Path.root names ↔
        '\\' ∉ Text.join Path.root names ∧
        (∀ c ∈ (Text.join Path.root names).head?, isBlank c = false) ∧
        ∀ c ∈ (Text.join Path.root names).getLast?, isBlank c = false) ∧
      (Path.normalize (Text.join Path.root names) = Path.root ↔
        Text.trim (Text.join Path.root names) ≠ [] ∧
        ∀ c ∈ Text.trim (Text.join Path.root names), c = '/' ∨ c = '\\')) ∧
    ∀ items s, ofDisk o d here path = .ok (items, s) → ∃ rest, items = rootItem :: rest ∧
      List.Forall₂ (IsNamedAt d place) ((listing o d place []).take (o.maxItems - 1)) rest ∧
      ((∀ names ∈ (listing o d place []).take (o.maxItems - 1),
        Path.normalize (Text.join Path.root names) = Text.join Path.root names) →
        (items.map Item.path).Nodup) := by
  refine ⟨?_, fun names h => ?_, fun items s h => ?_⟩
  · rw [exists_ofDisk_iff hd hplace hfolder]
    refine forall₂_congr fun names h => ?_
    obtain ⟨around, n, rfl, hn, -⟩ := exists_concat_of_mem_listing hd (List.mem_of_mem_take h)
    exact exists_makes_iff_of_isName hn
  · obtain ⟨around, n, rfl, hn, -⟩ := exists_concat_of_mem_listing hd h
    exact ⟨normalize_join_eq_self_iff hn, Path.normalize_eq_root_iff⟩
  · obtain ⟨rest, rfl, hrest⟩ := (ofDisk_ok_iff hd hplace hfolder).mp ⟨s, h⟩
    refine ⟨rest, rfl, ?_, fun hnormal => nodup_path (forall₂_isItemAt hd hnormal hrest) hd⟩
    have hlisted : ∀ names ∈ (listing o d place []).take (o.maxItems - 1),
        names ∈ listing o d place [] := fun names => List.mem_of_mem_take
    refine ((List.forall₂_and_left _ _).mpr ⟨hlisted, hrest⟩).imp ?_
    rintro names i ⟨hmem, hmakes⟩
    obtain ⟨around, n, rfl, hn, -⟩ := exists_concat_of_mem_listing hd hmem
    exact isNamedAt_of_makes hn hmakes

/-- A folder of files with the names. -/
def filesDisk (names : List String) : Disk :=
  (["r".toList], .folder) :: names.map fun n => (["r".toList, n.toList], .file [])

theorem ofDisk_names_filesDisk :
    ∃ items s, ofDisk lenient (filesDisk ["b\\c", " ."]) [] "r".toList = .ok (items, s) ∧
      ∃ rest, items = rootItem :: rest ∧
        List.Forall₂ (IsNamedAt (filesDisk ["b\\c", " ."]) ["r".toList])
          [[" .".toList], ["b\\c".toList]] rest := by
  have hd : (filesDisk ["b\\c", " ."]).IsOrderly := by decide
  have hplace : (filesDisk ["b\\c", " ."]).locate [] "r".toList = .ok ["r".toList] :=
    Disk.locate_name rfl (by decide) (by decide) (by decide) (by decide)
  have hlisting : (listing lenient (filesDisk ["b\\c", " ."]) ["r".toList] []).take
      (lenient.maxItems - 1) = [[" .".toList], ["b\\c".toList]] := by cbv
  have hread : ∀ names ∈ [[" .".toList], ["b\\c".toList]],
      ¬ IsBlankName names ∧ CanRead lenient (filesDisk ["b\\c", " ."]) ["r".toList] names := by
    have huntagged : ∀ names ∈ [[" .".toList], ["b\\c".toList]],
        lenient.isTagged (names.getLast?.getD []) = false := by decide
    have hclear : ∀ names ∈ [[" .".toList], ["b\\c".toList]],
        (names.all fun n => n.all isBlank) = false := by decide
    intro names h
    refine ⟨?_, fun _ => ⟨([], { files := 1 }), if_pos (by rw [huntagged names h]; rfl)⟩⟩
    rintro ⟨n, rfl, hn⟩
    exact Bool.false_ne_true ((hclear [n] h).symm.trans (by simpa using hn))
  obtain ⟨hok, -, hitems⟩ := @ofDisk_names lenient _ _ _ _ hd hplace (by decide)
  rw [hlisting] at hok hitems
  obtain ⟨⟨items, s⟩, h⟩ := hok.mpr hread
  obtain ⟨rest, hrest, hnamed, -⟩ := hitems items s h
  exact ⟨items, s, h, rest, hrest, hnamed⟩

/-- A file whose name is a blank makes a snapshot fail; and two files can have one path, and another
one that of the root. -/
theorem ofDisk_unfaithfulNames :
    ofDisk lenient (filesDisk [" "]) [] "r".toList =
        .error (.item (.faults Item.typeName
          [⟨["path".toList], .rule "Item path cannot be empty".toList⟩])) ∧
      (ofDisk lenient (filesDisk ["a ", "a", "\\"]) [] "r".toList).map
          (fun r => r.1.map Item.path) =
        .ok (["/", "/", "a", "a"].map (·.toList)) :=
  ⟨by cbv, by cbv⟩

end TreeSieve.Snapshot
