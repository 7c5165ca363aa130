import TreeSieve.Proofs.Item.Linking
import TreeSieve.Proofs.Marks

/-!
# Proofs — Item — Record

Items written as records and read again.  The second reading accepts whatever the first one has made, and
normalises it once more (`Item.again`), which is not always without effect: blanks are taken away before
the slashes at the end of a path and before the mark of a tag, so that others can come to stand at the end
or the start.  And the record of an item always gives its path as a text, so that a name follows from it
and a folder loses its tags, where the first record gave the path by bytes.

* `Path.normalize_normalize_iff`, `Tag.normalize_normalize_iff`: what one normalisation brings into its
  normal form.
* `Item.ofValue_toValue`: what the record of an item is read as.
* `Item.reread_eq_self_iff`: **an item is read again as itself** just when its path does not end with a
  blank, no tag begins with a mark or a blank, it has a name unless it is the root, and no tags if it is a
  folder; `Item.reread_ne_self` shows that these are needed.
-/

namespace TreeSieve

namespace Path

open Text (trim isBlank)

variable {p : Text} {c : Char}

/-- Without blanks around it, the path ends with slashes that have a blank in front. -/
def EndsBehindBlank (p : Text) : Prop :=
  ∃ before c slashes, trim p = before ++ c :: slashes ∧ isBlank c = true ∧
    ∀ d ∈ slashes, d = '/' ∨ d = '\\'

/-- A blank is no slash of either kind. -/
theorem ne_slash_of_isBlank (hc : isBlank c = true) : c ≠ '/' ∧ c ≠ '\\' :=
  ⟨Text.ne_of_test hc (by decide), Text.ne_of_test hc (by decide)⟩

/-- Turning backslashes round makes no blank. -/
theorem head?_slashed (h : ∀ c ∈ p.head?, isBlank c = false) :
    ∀ c ∈ (slashed p).head?, isBlank c = false := by
  intro c hc
  rw [slashed, List.head?_map] at hc
  obtain ⟨d, hd, rfl⟩ := Option.map_eq_some_iff.mp hc
  split
  · decide
  · exact h d hd

theorem head?_root : ∀ c ∈ root.head?, isBlank c = false := by
  rintro c ⟨⟩
  decide

theorem getLast?_root : ∀ c ∈ root.getLast?, isBlank c = false := by
  rintro c ⟨⟩
  decide

/-- A path in its normal form does not begin with a blank. -/
theorem head?_normalize (p : Text) : ∀ c ∈ (normalize p).head?, isBlank c = false := by
  obtain ⟨-, heq⟩ | ⟨-, -, heq⟩ | ⟨-, -, heq⟩ := normalize_cases p
  · rw [heq]
    exact nofun
  · rw [heq]
    exact head?_root
  · intro c hc
    obtain ⟨rest, hrest⟩ := List.rdropWhile_prefix (· == '/') (slashed (trim p))
    refine head?_slashed (Text.head?_trim p) c ?_
    rw [← hrest, ← heq, List.head?_append, Option.mem_def.mp hc, Option.some_or]
    rfl

/-- A path that is not emptied by one normalisation is not emptied by the next. -/
theorem normalize_normalize_ne_nil (h : normalize p ≠ []) : normalize (normalize p) ≠ [] := by
  rw [ne_eq, normalize_eq_nil_iff]
  intro hblank
  obtain ⟨c, rest, heq⟩ := List.exists_cons_of_ne_nil h
  have hhead : isBlank c = false := head?_normalize p c (by rw [heq]; rfl)
  rw [hblank c (by rw [heq]; exact List.mem_cons_self)] at hhead
  cases hhead

/-- Only the slashes behind the last blank are taken away. -/
theorem rdropWhile_slashed {before slashes : Text} (hc : isBlank c = true)
    (hslashes : ∀ d ∈ slashes, d = '/' ∨ d = '\\') :
    (slashed (before ++ c :: slashes)).rdropWhile (· == '/') = slashed before ++ [c] := by
  obtain ⟨hslash, hback⟩ := ne_slash_of_isBlank hc
  have hend : ∀ d ∈ (slashed slashes).reverse, (d == '/') = true := fun d hd =>
    beq_iff_eq.mpr (forall_mem_slashed.mpr hslashes d (List.mem_reverse.mp hd))
  have heq : slashed (before ++ c :: slashes) = (slashed before ++ [c]) ++ slashed slashes := by
    rw [slashed, List.map_append, List.map_cons, if_neg hback, List.append_assoc]
    rfl
  rw [heq, List.rdropWhile, List.reverse_append, List.dropWhile_append_of_pos hend, ← List.rdropWhile,
    List.rdropWhile_concat_neg _ _ _ (by simpa using hslash)]

/-- A blank comes to stand at the end just when slashes have hidden one. -/
theorem getLast?_normalize_iff :
    (∀ c ∈ (normalize p).getLast?, isBlank c = false) ↔ ¬ EndsBehindBlank p := by
  obtain ⟨htrim, heq⟩ | ⟨-, hall, heq⟩ | ⟨-, -, heq⟩ := normalize_cases p
  · rw [heq]
    refine iff_of_true nofun ?_
    rintro ⟨before, c, slashes, h, -⟩
    rw [htrim] at h
    exact List.append_ne_nil_of_right_ne_nil before (List.cons_ne_nil c slashes) h.symm
  · rw [heq]
    refine iff_of_true getLast?_root ?_
    rintro ⟨before, c, slashes, h, hc, -⟩
    have hmem : c ∈ trim p := by
      rw [h]
      exact List.mem_append_right before List.mem_cons_self
    obtain ⟨hslash, hback⟩ := ne_slash_of_isBlank hc
    rcases forall_mem_slashed.mp hall c hmem with h | h
    · exact hslash h
    · exact hback h
  · constructor
    · rintro h ⟨before, c, slashes, htrim, hc, hslashes⟩
      rw [heq, htrim, rdropWhile_slashed hc hslashes] at h
      have hlast := h c (by rw [List.getLast?_concat]; rfl)
      rw [hc] at hlast
      cases hlast
    · intro h d hd
      rw [Bool.eq_false_iff]
      intro hblank
      -- the characters that normalisation leaves, and the slashes that it takes away
      have hsplit := List.rdropWhile_append_rtakeWhile (p := (· == '/')) (l := slashed (trim p))
      obtain ⟨kept, hkept⟩ := List.getLast?_eq_some_iff.mp hd
      rw [← heq, hkept] at hsplit
      obtain ⟨front, slashes, htrim, hfront, hslashes⟩ := List.map_eq_append_iff.mp hsplit.symm
      obtain ⟨before, last, rfl, -, hlast⟩ := List.map_eq_append_iff.mp hfront
      obtain ⟨e, rfl, rfl⟩ := List.map_eq_singleton_iff.mp hlast
      have hback : e ≠ '\\' := by
        rintro rfl
        cases hblank
      rw [if_neg hback] at hblank
      refine h ⟨before, e, slashes, by rw [htrim, List.append_assoc]; rfl, hblank, ?_⟩
      refine forall_mem_slashed.mp fun c hc => ?_
      rw [slashed, hslashes] at hc
      have hslash := List.mem_rtakeWhile_imp hc
      exact beq_iff_eq.mp hslash

/-- **Normal form.**  One normalisation is enough unless slashes at the end hide a blank. -/
theorem normalize_normalize_iff : normalize (normalize p) = normalize p ↔ ¬ EndsBehindBlank p := by
  rw [← getLast?_normalize_iff]
  by_cases hroot : normalize p = root
  · rw [hroot]
    exact iff_of_true (by decide) getLast?_root
  · have hlast : ∀ c ∈ (normalize p).getLast?, c ≠ '/' := fun c hc hslash =>
      hroot (normalize_eq_root_of_getLast? (hslash ▸ hc))
    rw [normalize_eq_self_iff hlast]
    exact ⟨fun h => h.2.2, fun h => ⟨backslash_not_mem_normalize p, head?_normalize p, h⟩⟩

end Path

namespace Tag

variable {t : Text}

/-- The end of a tag is no blank. -/
theorem getLast?_normalize (t : Text) : ∀ c ∈ (normalize t).getLast?, Text.isBlank c = false := by
  intro c hc
  refine Text.getLast?_trim t c ?_
  rcases normalize_cases t with ⟨rest, htrim, heq⟩ | ⟨-, heq⟩
  · rw [htrim, List.getLast?_cons, ← heq, Option.mem_def.mp hc]
    rfl
  · rwa [heq] at hc

/-- A tag that was normalised before is in its normal form when it begins with neither a mark nor a
blank. -/
theorem normalize_eq_self_iff_head (h : ∀ c ∈ t.getLast?, Text.isBlank c = false) :
    normalize t = t ↔ ∀ c ∈ t.head?, c ≠ '#' ∧ Text.isBlank c = false := by
  rw [normalize_eq_self_iff]
  constructor
  · rintro ⟨htrim, hmark⟩ c hc
    exact ⟨fun heq => hmark (heq ▸ hc), Text.head?_trim t c (by rwa [htrim])⟩
  · intro hhead
    exact ⟨Text.trim_eq_self (fun c hc => (hhead c hc).2) h, fun hmark => (hhead _ hmark).1 rfl⟩

end Tag

namespace Item

open TreeSieve.Path (root normalize)
open Text (isBlank)

variable {entries : List (Value × Value)} {kind? : Option ItemKind} {i : Item} {ts : List Text}

/-- The set of tags is in order. -/
theorem sortedSet_tagSet (ts : List Text) : Text.sortedSet (tagSet ts) = tagSet ts :=
  Text.sortedSet_eq_self (Text.isChain_sortedSet _)

/-- A kind is read from its name. -/
theorem kindOfValue_name (k : ItemKind) : kindOfValue (.text k.name) = .ok k := by
  cases k <;> decide

/-- A parent is read from the value of its field. -/
theorem parentOfValue_parentValue (p : Option Text) : parentOfValue (parentValue p) = .ok p := by
  cases p <;> rfl

/-! ### The record of an item -/

/-- Whether an item has neither a name nor a path that needs none. -/
def lacksName (i : Item) : Bool := i.name.isEmpty && normalize i.path ≠ root

/-- An item with its path and its tags normalised once more, named by its path if it lacks a name, and
without the tags of a folder. -/
def again (i : Item) : Item where
  path := normalize i.path
  name := if i.lacksName then Path.lastName (normalize i.path) else i.name
  kind := i.kind
  parent? := i.parent?
  tags := if i.isFolder then [] else tagSet i.tags

/-- Only a name is taken from the path, and only when there is none. -/
theorem derive_toEntries (hpath : normalize i.path ≠ []) : derive i.toEntries = some
    { name? := if i.lacksName then some (Path.lastName (normalize i.path)) else none
      parent? := none } := by
  have hpathIn : Value.lookup i.toEntries "path".toList = some (.text i.path) := rfl
  have hnameIn : Value.lookup i.toEntries "name".toList = some (.text i.name) := rfl
  have hparentIn : Value.lookup i.toEntries "parent_path".toList = some (parentValue i.parent?) := rfl
  rw [derive, hpathIn, hnameIn, hparentIn]
  simp only [List.isEmpty_iff, hpath, if_false, Value.isVoid, Option.isNone_some, Bool.false_eq_true]
  rfl

/-- **The record of an item** is read as the item once more. -/
theorem isRead_toEntries (hpath : normalize i.path ≠ []) : IsRead i.toEntries none i.again := by
  have hderive := derive_toEntries hpath
  exact
    { path := (pathIn_eq_ok_iff rfl).mpr ⟨hpath, rfl⟩
      name := by
        rw [nameIn, hderive, again]
        cases i.lacksName <;> rfl
      kind := by
        rw [kindIn]
        exact (Value.field_eq_ok_iff rfl).mpr (kindOfValue_name i.kind)
      parent := by
        rw [parentIn, hderive]
        exact (Value.field_eq_ok_iff rfl).mpr (parentOfValue_parentValue i.parent?)
      tags := by
        have hfolder : isFolderIn i.toEntries none = namesFolder (some (.text i.kind.name)) := rfl
        have htagsIn : Value.lookup i.toEntries "tags".toList = some (.list (i.tags.map .text)) := rfl
        rw [tagsIn, hderive, hfolder, htagsIn, again, isFolder]
        cases i.kind with
        | file => exact tagsOfValue_list
        | folder => rfl }

/-- **What an item is read as again.** -/
theorem ofValue_toValue (h : ofEntries entries kind? = .ok i) : ofValue i.toValue = .ok i.again := by
  have hread : IsRead entries kind? i := ofEntries_ok_iff.mp h
  obtain ⟨-, t, -, -, hpath, hne⟩ := pathIn_eq_ok hread.path
  refine ofEntries_ok_iff.mpr (isRead_toEntries ?_)
  rw [← hpath] at hne ⊢
  exact Path.normalize_normalize_ne_nil hne

/-- The path of an item is normal unless it ends with a blank. -/
theorem IsRead.normalize_path_iff (h : IsRead entries kind? i) :
    normalize i.path = i.path ↔ ∀ c ∈ i.path.getLast?, isBlank c = false := by
  obtain ⟨-, t, -, -, hpath, -⟩ := pathIn_eq_ok h.path
  rw [← hpath, Path.normalize_normalize_iff, Path.getLast?_normalize_iff]

/-- The tags of an item are normal unless one begins with a mark or a blank. -/
theorem IsRead.tagSet_tags_iff (h : IsRead entries kind? i) :
    tagSet i.tags = i.tags ↔ ∀ t ∈ i.tags, ∀ c ∈ t.head?, c ≠ '#' ∧ isBlank c = false := by
  obtain ⟨us, htags⟩ := h.exists_tagSet
  have hne : ∀ t ∈ i.tags, t ≠ [] := fun t ht => (mem_tagSet.mp (htags ▸ ht)).1
  have hsorted : Text.sortedSet i.tags = i.tags := by rw [htags, sortedSet_tagSet]
  rw [tagSet_eq_self_iff hsorted hne]
  refine forall₂_congr fun t ht => Tag.normalize_eq_self_iff_head ?_
  obtain ⟨-, u, -, rfl⟩ := mem_tagSet.mp (htags ▸ ht)
  exact Tag.getLast?_normalize u

/-- The item is named and free of tags as one whose path was given as a text. -/
structure IsNamed (i : Item) : Prop where
  name : i.name = [] → i.path = root
  tags : i.kind = .folder → i.tags = []

/-- A path that is given as a text names the item, and takes the tags of a folder. -/
theorem IsRead.isNamed (h : IsRead entries kind? i) (ht : HasTextPath entries) : IsNamed i where
  name hname := by_contra fun hroot => h.name_ne_nil ht hroot hname
  tags hkind := h.tags_eq_nil ht (by rw [isFolder, hkind]; rfl)

/-- Reading an item once more changes its path, its tags or its name, if anything. -/
theorem IsRead.again_eq_self_iff (h : IsRead entries kind? i) : i.again = i ↔
    normalize i.path = i.path ∧ tagSet i.tags = i.tags ∧ IsNamed i := by
  obtain ⟨-, -, -, -, -, hne⟩ := pathIn_eq_ok h.path
  constructor
  · intro heq
    have hpath : normalize i.path = i.path := congrArg Item.path heq
    have hname : (if i.lacksName then Path.lastName (normalize i.path) else i.name) = i.name :=
      congrArg Item.name heq
    have htags : (if i.isFolder then [] else tagSet i.tags) = i.tags := congrArg Item.tags heq
    have hnil : i.isFolder = true → i.tags = [] := fun hfolder => by
      rw [if_pos hfolder] at htags
      exact htags.symm
    refine ⟨hpath, ?_, ⟨fun hempty => ?_, fun hkind => hnil (by rw [isFolder, hkind]; rfl)⟩⟩
    · cases hfolder : i.isFolder with
      | true =>
        rw [hnil hfolder]
        rfl
      | false => rwa [hfolder, if_neg Bool.false_ne_true] at htags
    · -- a path that is not the root has a last name
      by_contra hroot
      have hlacks : i.lacksName = true := by simp [lacksName, hempty, hpath, hroot]
      rw [if_pos hlacks, hpath, hempty] at hname
      exact Path.lastName_ne_nil hne (mt h.getLast?_path hroot) hname
  · rintro ⟨hpath, htags, hnamed⟩
    have hlacks : i.lacksName = false := by
      rw [lacksName, hpath, Bool.and_eq_false_iff]
      by_cases hempty : i.name = []
      · exact .inr (by simp [hnamed.name hempty])
      · exact .inl (List.isEmpty_eq_false_iff.mpr hempty)
    have hfolder : (if i.isFolder then [] else tagSet i.tags) = i.tags := by
      split
      · next hf => exact (hnamed.tags (by simpa [isFolder] using hf)).symm
      · exact htags
    rw [again, hlacks, if_neg Bool.false_ne_true, hfolder, hpath]

/-- **Items read again.**  The record of an item that was read is always accepted, and gives the item once
more: the item itself just when its path does not end with a blank, none of its tags begins with a mark or
a blank, it has a name unless it is the root, and no tags if it is a folder.  The last two hold whenever
the path was given as a text.  What one normalisation does not bring into its normal form are the paths
that end behind a blank, and the tags that are marked twice. -/
theorem reread_eq_self_iff (h : ofEntries entries kind? = .ok i) :
    ofValue i.toValue = .ok i.again ∧
    (ofValue i.toValue = .ok i ↔ (∀ c ∈ i.path.getLast?, isBlank c = false) ∧
      (∀ t ∈ i.tags, ∀ c ∈ t.head?, c ≠ '#' ∧ isBlank c = false) ∧ IsNamed i) ∧
    (HasTextPath entries → IsNamed i) ∧
    (∀ p, normalize (normalize p) = normalize p ↔ ¬ Path.EndsBehindBlank p) ∧
    ∀ w, Tag.normalize (Tag.normalize w) = Tag.normalize w ↔ ¬ Tag.IsMarkedTwice w := by
  have hread : IsRead entries kind? i := ofEntries_ok_iff.mp h
  have hagain := ofValue_toValue h
  refine ⟨hagain, ?_, hread.isNamed, fun p => Path.normalize_normalize_iff,
    fun w => Tag.normalize_normalize_iff⟩
  rw [hagain, Except.ok.injEq, ← hread.normalize_path_iff, ← hread.tagSet_tags_iff]
  exact hread.again_eq_self_iff

/-- The record of a file with a path and tags. -/
def fileEntries (path : String) (tags : List String) : List (Value × Value) :=
  [(.text "path".toList, .text path.toList),
    (.text "tags".toList, .list (tags.map fun t => .text t.toList))]

theorem reread_eq_self_iff_oneBlank :
    ofEntries (fileEntries "a b/" ["#x "]) none =
        .ok ⟨"a b".toList, "a b".toList, .file, some root, ["x".toList]⟩ ∧
      ofValue (toValue ⟨"a b".toList, "a b".toList, .file, some root, ["x".toList]⟩) =
        .ok ⟨"a b".toList, "a b".toList, .file, some root, ["x".toList]⟩ := by
  have hread : ofEntries (fileEntries "a b/" ["#x "]) none =
      .ok ⟨"a b".toList, "a b".toList, .file, some root, ["x".toList]⟩ := by decide
  obtain ⟨-, hself, hnamed, -⟩ := reread_eq_self_iff hread
  refine ⟨hread, hself.mpr ⟨?_, ?_, hnamed ⟨_, rfl⟩⟩⟩
  · rintro c ⟨⟩
    decide
  · rintro t ht c hc
    obtain rfl := List.mem_singleton.mp ht
    cases hc
    decide

/-- Items that are not read again as themselves: the slash hides a blank, a mark hides another one, or the
path was given by bytes. -/
theorem reread_ne_self :
    (∃ i again, ofEntries (fileEntries "a /" []) none = .ok i ∧ ofValue i.toValue = .ok again ∧
      i.path = "a ".toList ∧ again.path = "a".toList) ∧
    (∃ i again, ofEntries (fileEntries "a" ["##x"]) none = .ok i ∧ ofValue i.toValue = .ok again ∧
      i.tags = ["#x".toList] ∧ again.tags = ["x".toList]) ∧
    ∃ i again, ofEntries bytesEntries none = .ok i ∧ ofValue i.toValue = .ok again ∧
      i.name = [] ∧ again.name = "d".toList ∧ i.tags = ["x".toList] ∧ again.tags = [] :=
  ⟨⟨⟨"a ".toList, "a ".toList, .file, some root, []⟩,
      ⟨"a".toList, "a ".toList, .file, some root, []⟩, by decide, by decide, rfl, rfl⟩,
    ⟨⟨"a".toList, "a".toList, .file, some root, ["#x".toList]⟩,
      ⟨"a".toList, "a".toList, .file, some root, ["x".toList]⟩, by decide, by decide, rfl, rfl⟩,
    ⟨"d".toList, [], .folder, none, ["x".toList]⟩, ⟨"d".toList, "d".toList, .folder, none, []⟩,
      ofEntries_bytesEntries, by decide, rfl, rfl, rfl, rfl⟩

end Item

end TreeSieve
