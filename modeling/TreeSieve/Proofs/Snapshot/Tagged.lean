import TreeSieve.Proofs.Marks
import TreeSieve.Proofs.Snapshot.Counts
import TreeSieve.Proofs.Snapshot.Notes

/-!
# Proofs — Snapshot — Tagged

The tags of a note on their way into a snapshot.  The item of a file takes the tags of the note once more
into their normal form, while the file counts as tagged by the tags as they were read.

* `tags_of_makes`, `tagged_ofDisk`: the tags of an item, and how many files count as tagged.
* `ofDisk_tags`: **the two agree where no front matter is marked twice.**
* `ofDisk_markedTwice`: a note that counts as tagged, with an item that has no tags.
-/

namespace TreeSieve.Snapshot

variable {o : Options} {d : Disk} {here place names : List Text} {path : Text}
  {items : List Item} {s : Stats}

instance (o : Options) (name : Text) (bytes : List UInt8) : Decidable (IsNote o name bytes) :=
  decidable_of_iff (o.isTagged name = true ∧ bytes.length ≤ o.maxBytes)
    ⟨fun h => ⟨h.1, h.2⟩, fun h => ⟨h.tagged, h.short⟩⟩

/-- The tags of a file: those of its text, if it is a note. -/
def tagsIn (o : Options) (name : Text) : Except Nat (List UInt8) → List Text
  | .error _ => []
  | .ok bytes =>
    if IsNote o name bytes then
      match Note.tags (noteText bytes) with
      | .ok ts => ts
      | .error _ => []
    else []

/-- The tags of the file that names lead to. -/
def noteTags (o : Options) (d : Disk) (place names : List Text) : List Text :=
  tagsIn o (names.getLast?.getD []) (d.content place names)

section Reading

variable {name : Text} {bytes : List UInt8} {r : List Text × Stats}

/-- The tags of a note that can be read are those of its text. -/
theorem tags_of_readTags (hnote : IsNote o name bytes) (h : readTags o name (.ok bytes) = .ok r) :
    Note.tags (noteText bytes) = .ok r.1 := by
  have hlong : ¬ o.maxBytes < bytes.length := Nat.not_lt.mpr hnote.short
  simp only [readTags, hnote.tagged, Bool.not_true, Bool.false_eq_true, if_false, if_neg hlong] at h
  obtain ⟨ts, hts, heq⟩ := Except.bind_eq_ok.mp h
  cases heq
  exact Except.mapError_eq_ok.mp hts

theorem fst_readTags {content : Except Nat (List UInt8)} (h : readTags o name content = .ok r) :
    r.1 = tagsIn o name content := by
  cases content with
  | error size =>
    rw [readTags.eq_def] at h
    split at h <;> cases h <;> rfl
  | ok bytes =>
    rw [tagsIn]
    by_cases hnote : IsNote o name bytes
    · rw [if_pos hnote, tags_of_readTags hnote h]
    · rw [if_neg hnote]
      by_cases htagged : o.isTagged name = true
      · have hlong : o.maxBytes < bytes.length := Nat.not_le.mp fun hle => hnote ⟨htagged, hle⟩
        simp only [readTags, htagged, Bool.not_true, Bool.false_eq_true, if_false, if_pos hlong] at h
        cases h
        rfl
      · simp only [readTags, htagged, Bool.not_false, if_true] at h
        cases h
        rfl

end Reading

/-! ### Items -/

/-- The item of a listed entry has the tags of its note, once more in their normal form. -/
theorem tags_of_makes (hd : d.IsOrderly) (hnames : names ∈ listing o d place []) {i : Item}
    (h : Makes o (stepAt d place names) i) : i.tags = Item.tagSet (noteTags o d place names) := by
  obtain ⟨around, n, rfl, hn, -⟩ := exists_concat_of_mem_listing hd hnames
  rw [noteTags, List.getLast?_concat, Option.getD_some]
  rw [stepAt, List.getLast?_concat, Option.getD_some] at h
  by_cases hfolder : d.resolve place (around ++ [n]) = .ok .folder
  · rw [if_pos (Disk.leadsToFolder_iff.mpr hfolder)] at h
    obtain ⟨-, rfl⟩ := (itemOf_eq_ok_iff hn.ne_nil).mp h
    rw [Disk.content, hfolder]
    rfl
  · rw [if_neg (by rwa [Disk.leadsToFolder_iff])] at h
    obtain ⟨tags, c, htags, h⟩ := h
    obtain ⟨-, rfl⟩ := (itemOf_eq_ok_iff hn.ne_nil).mp h
    rw [← fst_readTags htags]
    rfl

/-! ### Counts -/

/-- The tags of the file that a step lists. -/
def Step.tags (o : Options) : Step → List Text
  | file _ name content => tagsIn o name content
  | _ => []

theorem Step.tagged_outcome {step : Step} {part : List Item × Stats}
    (h : step.outcome o = .ok part) : part.2.tagged = if (step.tags o).isEmpty then 0 else 1 := by
  cases step with
  | enter | skip | fail =>
    cases h
    rfl
  | folder path name =>
    obtain ⟨i, -, rfl⟩ := Except.map_eq_ok.mp h
    rfl
  | file path name content =>
    obtain ⟨r, i, hr, -, rfl⟩ := outcome_file h
    obtain ⟨errors, hcounts⟩ := snd_readTags hr
    rw [hcounts, Step.tags, fst_readTags hr]

theorem tagged_outcomes {todo : List Step} {parts : List (List Item × Stats)}
    (h : List.Forall₂ (fun step part => step.outcome o = .ok part) todo parts) :
    (parts.map Prod.snd).sum.tagged =
      (todo.filter Step.isEntry).countP fun step => !(step.tags o).isEmpty := by
  induction h with
  | nil => rfl
  | @cons step part todo parts hpart _ ih =>
    have hadd (a b : Stats) : (a + b).tagged = a.tagged + b.tagged := rfl
    rw [List.map_cons, List.sum_cons, hadd, ih, Step.tagged_outcome hpart]
    cases hentry : step.isEntry with
    | false =>
      have hnone : step.tags o = [] := by
        cases step with
        | enter | skip | fail => rfl
        | folder | file => cases hentry
      rw [List.filter_cons_of_neg (by simp [hentry]), hnone]
      exact Nat.zero_add _
    | true =>
      rw [List.filter_cons_of_pos hentry, List.countP_cons, Nat.add_comm]
      cases (step.tags o).isEmpty <;> rfl

theorem tags_stepAt (o : Options) (d : Disk) (place names : List Text) :
    (stepAt d place names).tags o = noteTags o d place names := by
  rw [stepAt, noteTags]
  by_cases hfolder : d.leadsToFolder place names = true
  · rw [if_pos hfolder, Disk.content, Disk.leadsToFolder_iff.mp hfolder]
    rfl
  · rw [if_neg hfolder]
    rfl

/-- The entries of a folder for which there is room. -/
def taken (o : Options) (d : Disk) (place : List Text) : List (List Text) :=
  (listing o d place []).take (o.maxItems - 1)

/-- As many files count as tagged as have tags, among those for which there is room. -/
theorem tagged_ofDisk (hd : d.IsOrderly) (hplace : d.locate here path = .ok place)
    (hfolder : d.isFolderAt place = true) (h : ofDisk o d here path = .ok (items, s)) :
    s.tagged = (taken o d place).countP fun names => !(noteTags o d place names).isEmpty := by
  obtain ⟨parts, hparts, -, rfl⟩ := exists_outcomes hplace hfolder h
  rw [tagged_outcomes hparts, filter_reached, entries_visit hd, ← List.map_take, List.countP_map]
  refine List.countP_congr fun names _ => ?_
  rw [Function.comp_apply, tags_stepAt]

/-! ### One note -/

/-- A folder with one note. -/
def oneNote (bytes : List UInt8) : Disk :=
  [(["r".toList], .folder), (["r".toList, "n.md".toList], .file bytes)]

/-- The snapshot of that folder. -/
theorem ofDisk_oneNote {bytes : List UInt8} {ts : List Text}
    (hshort : bytes.length ≤ lenient.maxBytes) (h : Note.tags (noteText bytes) = .ok ts) :
    ofDisk lenient (oneNote bytes) [] "r".toList = .ok
      ([rootItem, ⟨"n.md".toList, "n.md".toList, .file, some Path.root, Item.tagSet ts⟩],
        { folders := 1, files := 1, tagged := if ts.isEmpty then 0 else 1 }) := by
  have hplace : (oneNote bytes).locate [] "r".toList = .ok ["r".toList] :=
    Disk.locate_name rfl (by decide) (by decide) (by decide) rfl
  have hfolder : Disk.isFolderAt (oneNote bytes) ["r".toList] = true := rfl
  have hvisit : visit lenient (oneNote bytes) ["r".toList] =
      [.enter, .file "n.md".toList "n.md".toList (.ok bytes)] := by
    cbv
  have hread : readTags lenient "n.md".toList (.ok bytes) =
      .ok (ts, { files := 1, tagged := if ts.isEmpty then 0 else 1 }) := by
    have htagged : lenient.isTagged "n.md".toList = true := by decide
    simp only [readTags, htagged, Bool.not_true, Bool.false_eq_true, if_false,
      if_neg (Nat.not_lt.mpr hshort)]
    exact Except.bind_eq_ok.mpr ⟨ts, Except.mapError_eq_ok.mpr h, rfl⟩
  have hitem : itemOf .file "n.md".toList "n.md".toList ts =
      .ok ⟨"n.md".toList, "n.md".toList, .file, some Path.root, Item.tagSet ts⟩ :=
    (itemOf_eq_ok_iff (by decide)).mpr ⟨by decide, rfl⟩
  have hroom : lenient.maxItems - 1 = 199998 + 1 := rfl
  refine (ofDisk_eq_ok_iff hplace hfolder).mpr ⟨_, ?_, rfl⟩
  rw [hvisit, hroom]
  simp only [collect, hread, hitem, bind, Except.bind, pure, Except.pure, Stats.add, Nat.zero_add,
    Nat.add_zero]

/-! ### Agreement -/

section Notes

variable {i : Item} (h : Makes o (stepAt d place names) i)

include h

/-- The tags of a listed note of which an item is made are those of its text. -/
theorem tags_noteTags {bytes : List UInt8} (hfile : d.resolve place names = .ok (.file bytes))
    (hnote : IsNote o (names.getLast?.getD []) bytes) :
    Note.tags (noteText bytes) = .ok (noteTags o d place names) := by
  have hbytes : d.content place names = .ok bytes := content_eq_ok.mpr hfile
  have hleads : ¬ d.leadsToFolder place names = true := by
    rw [Disk.leadsToFolder_iff, hfile]
    exact nofun
  rw [stepAt, if_neg hleads, hbytes] at h
  obtain ⟨tags, c, htags, -⟩ := h
  rw [noteTags, hbytes, ← fst_readTags htags]
  exact tags_of_readTags hnote htags

/-- Tags that were read are not changed by an item, if no word of the front matter is marked twice. -/
theorem tagSet_noteTags (hmarks : ∀ bytes, d.resolve place names = .ok (.file bytes) →
      IsNote o (names.getLast?.getD []) bytes → Note.IsMarkedOnce (noteText bytes)) :
    Item.tagSet (noteTags o d place names) = noteTags o d place names := by
  cases hbytes : d.content place names with
  | error size =>
    rw [noteTags, hbytes]
    rfl
  | ok bytes =>
    by_cases hnote : IsNote o (names.getLast?.getD []) bytes
    · have hfile := content_eq_ok.mp hbytes
      rw [Note.tagSet_eq_iff (tags_noteTags h hfile hnote)]
      exact hmarks bytes hfile hnote
    · rw [noteTags, hbytes, tagsIn, if_neg hnote]
      rfl

end Notes

/-- **Tags.**  No tag of a note is empty.  All of them are in their normal form, and then without a mark
in front, just when no word of its front matter is marked twice, and just then an item keeps the set as it
is.  In a snapshot, a file counts as tagged when its note has tags, and its item has these once more in
their normal form; if no front matter is marked twice, these are the tags of the note, and the files that
count as tagged are those whose items have tags. -/
theorem ofDisk_tags (o : Options) (d : Disk) (here : List Text) (path : Text) :
    (∀ text ts, Note.tags text = .ok ts → (∀ t ∈ ts, t ≠ []) ∧
      ((∀ t ∈ ts, t.head? ≠ some '#' ∧ Tag.normalize t = t) ↔ Note.IsMarkedOnce text) ∧
      (Item.tagSet ts = ts ↔ Note.IsMarkedOnce text)) ∧
    ∀ (place : List Text) (items : List Item) (s : Stats), d.IsOrderly → d.locate here path = .ok place →
      d.isFolderAt place = true → ofDisk o d here path = .ok (items, s) →
      (∀ names ∈ taken o d place, ∀ bytes, d.resolve place names = .ok (.file bytes) →
        IsNote o (names.getLast?.getD []) bytes →
          Note.tags (noteText bytes) = .ok (noteTags o d place names)) ∧
      s.tagged = (taken o d place).countP (fun names => !(noteTags o d place names).isEmpty) ∧
      ∃ rest, items = rootItem :: rest ∧
        List.Forall₂ (fun names i => i.tags = Item.tagSet (noteTags o d place names))
          (taken o d place) rest ∧
        ((∀ names ∈ taken o d place, ∀ bytes, d.resolve place names = .ok (.file bytes) →
          IsNote o (names.getLast?.getD []) bytes → Note.IsMarkedOnce (noteText bytes)) →
          List.Forall₂ (fun names i => i.tags = noteTags o d place names) (taken o d place) rest ∧
          s.tagged = items.countP fun i => !i.tags.isEmpty) := by
  refine ⟨fun text ts h => ⟨(Note.isSet_tags h).2, ?_, Note.tagSet_eq_iff h⟩,
    fun place items s hd hplace hfolder h => ?_⟩
  · rw [← Note.tags_normal_iff h]
    refine forall₂_congr fun t _ => ⟨And.right, fun ht => ⟨?_, ht⟩⟩
    exact (Tag.normalize_eq_self_iff.mp ht).2
  · obtain ⟨rest, rfl, hrest⟩ := (ofDisk_ok_iff hd hplace hfolder).mp ⟨s, h⟩
    have htagged := tagged_ofDisk hd hplace hfolder h
    have hlisted : ∀ names ∈ taken o d place, names ∈ listing o d place [] :=
      fun names hnames => List.mem_of_mem_take hnames
    have hmakes : List.Forall₂ (fun names i => names ∈ taken o d place ∧
        Makes o (stepAt d place names) i) (taken o d place) rest :=
      (List.forall₂_and_left _ _).mpr ⟨fun names hnames => hnames, hrest⟩
    refine ⟨fun names hnames bytes hfile hnote => ?_, htagged, rest, rfl, ?_, fun hmarks => ?_⟩
    · obtain ⟨i, -, hi⟩ := List.exists_right_of_mem hrest hnames
      exact tags_noteTags hi hfile hnote
    · exact hmakes.imp fun names i ⟨hnames, hi⟩ => tags_of_makes hd (hlisted names hnames) hi
    · have hsame : List.Forall₂ (fun names i => i.tags = noteTags o d place names)
          (taken o d place) rest := hmakes.imp fun names i ⟨hnames, hi⟩ => by
        rw [tags_of_makes hd (hlisted names hnames) hi, tagSet_noteTags hi (hmarks names hnames)]
      have hmap : rest.map Item.tags = (taken o d place).map (noteTags o d place) := by
        rw [← List.forall₂_eq_eq_eq, List.forall₂_map_left_iff, List.forall₂_map_right_iff]
        exact hsame.flip.imp fun _ _ => id
      refine ⟨hsame, ?_⟩
      calc
        s.tagged = ((taken o d place).map (noteTags o d place)).countP (!·.isEmpty) := by
          rw [htagged, List.countP_map]
          rfl
        _ = (rest.map Item.tags).countP (!·.isEmpty) := by rw [hmap]
        _ = (rootItem :: rest).countP fun i => !i.tags.isEmpty := by
          rw [List.countP_map, List.countP_cons_of_neg (by decide)]
          rfl

/-- A note with a word in its front matter that is marked once, and a tag in its body. -/
def markedOnce : Text := "---\ntags: '#b'\n---\n#a".toList

theorem tags_markedOnce : Note.tags markedOnce = .ok ["a".toList, "b".toList] ∧
    Note.IsMarkedOnce markedOnce := by
  have hsplit : Note.split markedOnce = (some "tags: '#b'".toList, "#a".toList) := by decide
  have hread : Yaml.read "tags: '#b'".toList =
      .ok (.map [(.text "tags".toList, .text "#b".toList)]) :=
    Yaml.read_pair false (by decide +kernel) (by decide +kernel) (by decide +kernel)
  obtain ⟨hwords, htags⟩ := Note.tags_oneField hsplit hread
  have hset : Text.sortedSet (((Note.words "#b".toList).map Tag.normalize ++
      Note.bodyTags "#a".toList).filter (!·.isEmpty)) = ["a".toList, "b".toList] := by cbv
  have hword : Note.words "#b".toList = ["#b".toList] := by cbv
  refine ⟨htags.trans (congrArg _ hset), ?_⟩
  rw [Note.IsMarkedOnce, hwords, hword, List.forall_mem_singleton, ← Tag.normalize_normalize_iff]
  cbv

theorem ofDisk_tags_markedOnce : Note.tags markedOnce = .ok ["a".toList, "b".toList] ∧
    Item.tagSet ["a".toList, "b".toList] = ["a".toList, "b".toList] ∧
    ∃ items s, ofDisk lenient (oneNote (Text.Utf8.encode markedOnce)) [] "r".toList =
        .ok (items, s) ∧
      (∃ i, items = [rootItem, i] ∧ i.tags = ["a".toList, "b".toList]) ∧
      s.tagged = items.countP fun i => !i.tags.isEmpty := by
  obtain ⟨htags, hmarks⟩ := tags_markedOnce
  have htext : noteText (Text.Utf8.encode markedOnce) = markedOnce := by decide +kernel
  have hshort : (Text.Utf8.encode markedOnce).length ≤ lenient.maxBytes := by decide +kernel
  have hplace : (oneNote (Text.Utf8.encode markedOnce)).locate [] "r".toList = .ok ["r".toList] :=
    Disk.locate_name rfl (by decide) (by decide) (by decide) rfl
  have htaken : taken lenient (oneNote (Text.Utf8.encode markedOnce)) ["r".toList] =
      [["n.md".toList]] := by
    cbv
  have hfile : (oneNote (Text.Utf8.encode markedOnce)).resolve ["r".toList] ["n.md".toList] =
      .ok (.file (Text.Utf8.encode markedOnce)) := by
    cbv
  have hok := ofDisk_oneNote hshort (htext.symm ▸ htags)
  obtain ⟨hread, hbuild⟩ :=
    ofDisk_tags lenient (oneNote (Text.Utf8.encode markedOnce)) [] "r".toList
  obtain ⟨hnotes, -, rest, hitems, -, hagree⟩ := hbuild _ _ _ (by decide +kernel) hplace rfl hok
  rw [htaken] at hnotes hagree
  have hnote := hnotes _ (List.mem_singleton_self _) _ hfile ⟨by decide, hshort⟩
  rw [htext, htags] at hnote
  obtain ⟨hsame, hcount⟩ := hagree fun names hnames bytes hbytes _ => by
    obtain rfl := List.mem_singleton.mp hnames
    cases hfile.symm.trans hbytes
    rwa [htext]
  obtain ⟨i, rest, hi, hrest, rfl⟩ := List.forall₂_cons_left_iff.mp hsame
  obtain rfl := List.forall₂_nil_left_iff.mp hrest
  exact ⟨htags, (hread _ _ htags).2.2.mpr hmarks, _, _, hok,
    ⟨i, hitems, hi.trans (Except.ok.inj hnote).symm⟩, hcount⟩

/-- A note with a word in its front matter that is marked twice. -/
def markedTwice : Text := "---\ntags: '##'\n---\n".toList

theorem tags_markedTwice : Note.tags markedTwice = .ok ["#".toList] := by
  have hsplit : Note.split markedTwice = (some "tags: '##'".toList, []) := by decide
  have hread : Yaml.read "tags: '##'".toList =
      .ok (.map [(.text "tags".toList, .text "##".toList)]) :=
    Yaml.read_pair false (by decide +kernel) (by decide +kernel) (by decide +kernel)
  have hset : Text.sortedSet (((Note.words "##".toList).map Tag.normalize ++
      Note.bodyTags []).filter (!·.isEmpty)) = ["#".toList] := by cbv
  exact (Note.tags_oneField hsplit hread).2.trans (congrArg _ hset)

/-- Its tag has a mark in front; the item does without it, and the file counts as tagged all the same. -/
theorem ofDisk_markedTwice : Note.tags markedTwice = .ok ["#".toList] ∧
    Tag.normalize "#".toList ≠ "#".toList ∧
    ofDisk lenient (oneNote (Text.Utf8.encode markedTwice)) [] "r".toList = .ok
      ([rootItem, ⟨"n.md".toList, "n.md".toList, .file, some Path.root, []⟩],
        { folders := 1, files := 1, tagged := 1 }) := by
  have htext : noteText (Text.Utf8.encode markedTwice) = markedTwice := by decide +kernel
  exact ⟨tags_markedTwice, by decide,
    ofDisk_oneNote (by decide +kernel) (htext.symm ▸ tags_markedTwice)⟩

end TreeSieve.Snapshot
