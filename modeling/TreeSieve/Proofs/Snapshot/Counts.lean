import TreeSieve.Proofs.Snapshot.Limit

/-!
# Proofs — Snapshot — Counts

What a snapshot counts.  Each step counts for itself (`Step.outcome`), so the counts of a snapshot are
those of the steps that are reached, and what has been counted before is only added to
(`ofDiskAfter_eq`).

* `files_ofDisk`: as many files are counted as there are items of files, also when there is no room for
  all entries.
* `folders_ofDisk`: when there is room for all entries, as many folders are counted as there are items of
  folders, the root among them, that are no links and can be listed.
-/

namespace TreeSieve

/-- Whether a link stands at a place. -/
def Disk.isLink (d : Disk) (place : List Text) : Bool :=
  match d.entry? place with
  | some (.link _) => true
  | _ => false

/-- Whether a folder stands at a place that cannot be listed. -/
def Disk.isUnlistable (d : Disk) (place : List Text) : Bool :=
  match d.entry? place with
  | some (.unlistable _) => true
  | _ => false

/-- On a way through folders alone, the last name is resolved in the folder around. -/
theorem Disk.IsWay.resolve_concat {d : Disk} {place around : List Text} {n : Text}
    (hway : d.IsWay place (around ++ [n])) (hup : ∀ m ∈ around, m ≠ "..".toList) :
    d.resolve place (around ++ [n]) = d.resolve (place ++ around) [n] := by
  induction around generalizing place with
  | nil => rw [List.append_nil, List.nil_append]
  | cons m around ih =>
    have hway := (Disk.isWay_cons.mp hway).2
    have hm := hway.folders [] List.nil_prefix (by simp)
    rw [List.append_nil] at hm
    rw [List.cons_append, Disk.resolve_cons (hup m List.mem_cons_self) hm,
      ih hway fun k hk => hup k (List.mem_cons_of_mem m hk), List.append_assoc,
      List.singleton_append]

namespace Snapshot

variable {o : Options} {d : Disk} {here place around names : List Text} {path : Text}
  {items : List Item} {s : Stats}

/-! ### Counts of steps -/

namespace Stats

@[simp] theorem folders_zero : (0 : Stats).folders = 0 := rfl
@[simp] theorem files_zero : (0 : Stats).files = 0 := rfl
@[simp] theorem folders_add (a b : Stats) : (a + b).folders = a.folders + b.folders := rfl
@[simp] theorem files_add (a b : Stats) : (a + b).files = a.files + b.files := rfl

end Stats

/-- A file counts as one, and as tagged when it has tags. -/
theorem snd_readTags {name : Text} {content : Except Nat (List UInt8)} {r : List Text × Stats}
    (h : readTags o name content = .ok r) : ∃ errors,
      r.2 = { files := 1, tagged := if r.1.isEmpty then 0 else 1, errors } := by
  rw [readTags.eq_def] at h
  split at h
  · cases h
    exact ⟨0, rfl⟩
  · split at h
    · cases h
      exact ⟨_, rfl⟩
    · split at h
      · cases h
        exact ⟨0, rfl⟩
      · obtain ⟨tags, -, htags⟩ := Except.bind_eq_ok.mp h
        cases htags
        exact ⟨0, rfl⟩

theorem kind_itemOf {kind : ItemKind} {path name : Text} {tags : List Text} {i : Item}
    (h : itemOf kind path name tags = .ok i) : i.kind = kind := by
  have hread := Item.ofEntries_ok_iff.mp (Except.mapError_eq_ok.mp h)
  exact (Except.ok.inj hread.kind).symm

namespace Step

/-- Whether a step enters a folder. -/
def isEnter : Step → Bool
  | enter => true
  | _ => false

variable {step : Step} {part : List Item × Stats}

theorem files_outcome (h : step.outcome o = .ok part) :
    part.2.files = part.1.countP (!·.isFolder) := by
  cases step with
  | enter | skip | fail =>
    cases h
    rfl
  | folder path name =>
    obtain ⟨i, hi, rfl⟩ := Except.map_eq_ok.mp h
    simp [Item.isFolder, kind_itemOf hi]
  | file path name content =>
    obtain ⟨r, i, hr, hi, rfl⟩ := outcome_file h
    obtain ⟨errors, hcounts⟩ := snd_readTags hr
    simp [Item.isFolder, kind_itemOf hi, hcounts]

theorem folders_outcome (h : step.outcome o = .ok part) :
    part.2.folders = if step.isEnter then 1 else 0 := by
  cases step with
  | enter | skip | fail =>
    cases h
    rfl
  | folder path name =>
    obtain ⟨i, -, rfl⟩ := Except.map_eq_ok.mp h
    rfl
  | file path name content =>
    obtain ⟨r, i, hr, -, rfl⟩ := outcome_file h
    obtain ⟨errors, hcounts⟩ := snd_readTags hr
    rw [hcounts]
    rfl

end Step

section Outcomes

variable {todo : List Step} {parts : List (List Item × Stats)}
  (h : List.Forall₂ (fun step part => step.outcome o = .ok part) todo parts)

include h

theorem files_outcomes :
    (parts.map Prod.snd).sum.files = (parts.flatMap Prod.fst).countP (!·.isFolder) := by
  induction h with
  | nil => rfl
  | cons hpart _ ih =>
    rw [List.map_cons, List.sum_cons, Stats.files_add, ih, Step.files_outcome hpart,
      List.flatMap_cons, List.countP_append]

theorem folders_outcomes : (parts.map Prod.snd).sum.folders = todo.countP Step.isEnter := by
  induction h with
  | nil => rfl
  | cons hpart _ ih =>
    rw [List.map_cons, List.sum_cons, Stats.folders_add, ih, Step.folders_outcome hpart,
      List.countP_cons, Nat.add_comm]

end Outcomes

/-! ### Snapshots of a disk -/

theorem ofTree_eq (o : Options) (counted : Stats) (t : Tree) :
    ofTree o counted t = (ofTree o {} t).map fun r => (r.1, counted + r.2) := by
  rw [ofTree, ofTree, collect_eq o _ counted, collect_eq o _ {}]
  cases (reached (o.maxItems - 1) (steps o [] t.inOrder)).mapM (Step.outcome o) with
  | error f => rfl
  | ok parts =>
    have hzero : ({} : Stats) + (parts.map Prod.snd).sum = (parts.map Prod.snd).sum := zero_add _
    simp only [Except.map, bind, Except.bind, pure, Except.pure, hzero]

/-- **Counts.**  What has been counted before has no part in a snapshot, and what counts for the
snapshot alone is added to it. -/
theorem ofDiskAfter_eq (o : Options) (d : Disk) (here : List Text) (counted : Stats) (path : Text) :
    ofDiskAfter o d here counted path =
      (ofDisk o d here path).map fun r => (r.1, counted + r.2) := by
  have hnothing : Except.ok ([], counted) = (Except.ok ([], {}) : Except Failure (List Item × Stats)).map
      fun r => (r.1, counted + r.2) := congrArg (fun c => Except.ok ([], c)) (add_zero counted).symm
  rw [ofDisk, ofDiskAfter, ofDiskAfter]
  cases d.locate here path with
  | error p =>
    cases p with
    | tooManyLinks | denied | nameTooLong => rfl
    | notFound | taken | notFolder | isFolder => exact hnothing
  | ok place =>
    simp only
    split
    · exact ofTree_eq o counted _
    · exact hnothing

/-- A snapshot of a folder is made of what the steps add that are reached. -/
theorem exists_outcomes (hplace : d.locate here path = .ok place)
    (hfolder : d.isFolderAt place = true) (h : ofDisk o d here path = .ok (items, s)) :
    ∃ parts, List.Forall₂ (fun step part => step.outcome o = .ok part)
        (reached (o.maxItems - 1) (visit o d place)) parts ∧
      items = rootItem :: parts.flatMap Prod.fst ∧ s = (parts.map Prod.snd).sum := by
  obtain ⟨rest, hrest, rfl⟩ := (ofDisk_eq_ok_iff hplace hfolder).mp h
  obtain ⟨parts, hparts, rfl, rfl⟩ := collect_eq_ok_iff.mp hrest
  exact ⟨parts, hparts, rfl, zero_add _⟩

/-- What is no folder counts for nothing. -/
theorem eq_nothing (hno : ¬ ∃ place, d.locate here path = .ok place ∧ d.isFolderAt place = true)
    (h : ofDisk o d here path = .ok (items, s)) : items = [] ∧ s = 0 := by
  obtain ⟨rfl, hnone⟩ := ofDisk_of_not_folder h hno o
  cases h.symm.trans hnone
  exact ⟨rfl, rfl⟩

/-- **Files.**  As many files are counted as there are items of files. -/
theorem files_ofDisk (h : ofDisk o d here path = .ok (items, s)) :
    s.files = items.countP (!·.isFolder) := by
  by_cases hfolder : ∃ place, d.locate here path = .ok place ∧ d.isFolderAt place = true
  · obtain ⟨place, hplace, hfolder⟩ := hfolder
    obtain ⟨parts, hparts, rfl, rfl⟩ := exists_outcomes hplace hfolder h
    rw [List.countP_cons_of_neg (by decide)]
    exact files_outcomes hparts
  · obtain ⟨rfl, rfl⟩ := eq_nothing hfolder h
    rfl

/-! ### Folders of a visit -/

theorem reached_eq_self {room : Nat} {todo : List Step}
    (h : (todo.filter Step.isEntry).length ≤ room) : reached room todo = todo := by
  fun_induction reached room todo with
  | case1 => rfl
  | case2 _ _ ih | case3 _ _ ih | case4 _ _ ih => rw [ih (by simpa using h)]
  | case5 | case6 => simp at h
  | case7 _ _ _ _ ih | case8 _ _ _ _ _ ih =>
    rw [List.filter_cons_of_pos rfl, List.length_cons] at h
    rw [ih (Nat.le_of_succ_le_succ h)]

/-- A folder that can be listed is entered, and then the subfolders that are kept. -/
theorem entered_steps (o : Options) (base : Text) (children : List (Text × Tree)) :
    (steps o base (Tree.folder children).inOrder).countP Step.isEnter =
      1 + ((kept o base true children).map fun c =>
        (steps o (base ++ c.1 ++ Path.root) c.2.inOrder).countP Step.isEnter).sum := by
  have hfolders (children : List (Text × Tree)) :
      (folderSteps o base children).countP Step.isEnter = 0 := by
    rw [folderSteps, List.countP_eq_zero]
    intro step hstep
    rcases List.mem_append.mp hstep with hstep | hstep <;>
      · obtain ⟨_, -, rfl⟩ := List.mem_map.mp hstep
        exact Bool.false_ne_true
  have hfiles (children : List (Text × Tree)) :
      (fileSteps o base children).countP Step.isEnter = 0 := by
    rw [fileSteps, List.countP_eq_zero]
    intro step hstep
    obtain ⟨⟨n, t⟩, -, ht⟩ := List.mem_filterMap.mp hstep
    cases t with
    | file content =>
      obtain rfl := Option.some.inj ht
      split <;> exact Bool.false_ne_true
    | link | unlisted | folder => cases ht
  have hkept : (isKept o base true ∘ fun c : Text × Tree => (c.1, c.2.inOrder)) = isKept o base true :=
    funext fun c => by simp [isKept]
  rw [Tree.inOrder_folder, steps, List.countP_append, List.countP_append,
    List.countP_cons_of_pos rfl, hfolders, hfiles, stepsBelow_eq_flatMap, List.countP_flatMap,
    List.filter_map, hkept, Tree.filter_sortByName, List.map_map, Nat.zero_add, Nat.add_zero]
  rfl

/-- Whether the entry that the names lead to is a folder itself and can be listed. -/
def isOpen (d : Disk) (place names : List Text) : Bool := d.entry? (place ++ names) = some .folder

/-- What cannot be listed has no folders in it, and is none that could. -/
theorem countP_isOpen_eq_zero (hd : d.IsOrderly) (h : d.entry? (place ++ around) ≠ some .folder) :
    (around :: listing o d place around).countP (isOpen d place) = 0 := by
  rw [listing_eq_nil hd h, List.countP_singleton, isOpen, if_neg (by simpa using h)]

/-- The folders in a listing are the subfolders, and those listed below them. -/
theorem countP_listing (hd : d.IsOrderly) (o : Options) (place around : List Text) :
    (listing o d place around).countP (isOpen d place) =
      ((keptNames o d place around true).map fun n =>
        ((around ++ [n]) :: listing o d place (around ++ [n])).countP (isOpen d place)).sum := by
  have hassoc (n : Text) : place ++ around ++ [n] = place ++ (around ++ [n]) := List.append_assoc _ _ _
  -- what leads to no folder is none
  have hothers : ((keptNames o d place around false).map (around ++ [·])).countP (isOpen d place) =
      0 := by
    rw [List.countP_eq_zero]
    intro names hnames hopen
    obtain ⟨n, hn, rfl⟩ := List.mem_map.mp hnames
    have he : d.entry? (place ++ around ++ [n]) = some .folder := by
      rw [hassoc]
      exact of_decide_eq_true hopen
    have hfolder := Disk.resolve_folder (hd.isName_of_entry?_eq_some he).ne_up
      (Disk.isFolderAt_of_folder he)
    exact Bool.false_ne_true
      (((mem_keptNames hd).mp hn).2.1.symm.trans (Disk.leadsToFolder_iff.mpr hfolder))
  rw [listing, List.countP_append, List.countP_append, hothers, Nat.add_zero,
    List.countP_map_add_countP_flatMap]
  refine congrArg List.sum (List.map_congr_left fun n _ => ?_)
  by_cases he : d.entry? (place ++ around ++ [n]) = some .folder
  · rw [if_pos he, List.countP_cons, Nat.add_comm]
  · rw [if_neg he, countP_isOpen_eq_zero hd (hassoc n ▸ he), isOpen, ← hassoc,
      if_neg (by simpa using he)]
    rfl

theorem entered_ofDisk (hd : d.IsOrderly) {depth : Nat} (halong : IsAlong d place around)
    (hdepth : d.below (place ++ around) < depth) :
    (steps o (base around) (Tree.ofDisk d depth (place ++ around)).inOrder).countP Step.isEnter =
      (around :: listing o d place around).countP (isOpen d place) := by
  induction depth generalizing around with
  | zero => omega
  | succ depth ih =>
    by_cases hplace : d.entry? (place ++ around) = some .folder
    · have hopen : isOpen d place around = true := decide_eq_true hplace
      rw [ofDisk_succ depth hplace, entered_steps, List.countP_cons_of_pos hopen, countP_listing hd,
        ← map_fst_kept hd hplace depth, List.map_map, Nat.add_comm]
      refine congrArg (List.sum · + 1) (List.map_congr_left fun c hc => ?_)
      obtain ⟨e, he, hseen⟩ := mem_kept hd hc
      rw [hseen, ← base_concat, Function.comp_apply]
      by_cases hfolder : e = .folder
      · -- less lies below the subfolder, so the depth that is left is enough for it
        subst hfolder
        have hbelow := Disk.below_lt he
        have halong' := halong.concat (hd.isName_of_entry?_eq_some he).ne_up he
        rw [List.append_assoc] at hbelow
        rw [seen, List.append_assoc]
        exact ih halong' (by omega)
      · have hclosed : d.entry? (place ++ (around ++ [c.1])) ≠ some .folder := by
          rwa [← List.append_assoc, he, ne_eq, Option.some.injEq]
        rw [countP_isOpen_eq_zero hd hclosed, List.countP_eq_zero]
        intro step hstep
        rw [steps_seen he hfolder depth _ step hstep]
        exact Bool.false_ne_true
    · rw [ofDisk_unlisted _ hplace, countP_isOpen_eq_zero hd hplace]
      rfl

theorem entered_visit (hd : d.IsOrderly) (o : Options) (place : List Text) :
    (visit o d place).countP Step.isEnter =
      ([] :: listing o d place []).countP (isOpen d place) := by
  have h := @entered_ofDisk o d place [] hd (d.length + 1)
  rw [List.append_nil] at h
  exact h (fun names => by rw [List.nil_append, List.append_nil])
    (Nat.lt_succ_of_le (d.below_le place))

/-! ### Folders of a snapshot -/

/-- There is no room for all entries of a folder. -/
def IsCut (o : Options) (d : Disk) (here : List Text) (path : Text) : Prop :=
  ∃ place, d.locate here path = .ok place ∧ d.isFolderAt place = true ∧
    o.maxItems - 1 < (listing o d place []).length

/-- Whether the item of an entry, given with the names that lead to it, is a folder and no link. -/
def isRealItem (d : Disk) (place : List Text) (x : List Text × Item) : Bool :=
  x.2.isFolder && !d.isLink (place ++ x.1)

/-- Whether it is one that can be listed. -/
def isOpenItem (d : Disk) (place : List Text) (x : List Text × Item) : Bool :=
  isRealItem d place x && !d.isUnlistable (place ++ x.1)

/-- How many items of a snapshot are of a kind: the root, which no names lead to, and those listed. -/
def countItems (kind : Disk → List Text → List Text × Item → Bool) (o : Options) (d : Disk)
    (here : List Text) (path : Text) (items : List Item) : Nat :=
  match d.locate here path with
  | .ok place => (([] :: listing o d place []).zip items).countP (kind d place)
  | .error _ => 0

/-- The item of a listed entry is a folder that can be listed when the entry is one itself. -/
theorem isOpenItem_eq (hd : d.IsOrderly) (hnames : names ∈ listing o d place []) {i : Item}
    (h : Makes o (stepAt d place names) i) : isOpenItem d place (names, i) = isOpen d place names := by
  obtain ⟨around, n, rfl, hn, -⟩ := exists_concat_of_mem_listing hd hnames
  obtain ⟨-, e, he⟩ := exists_mem_of_mem_listing hd hnames
  have hup : ∀ m ∈ around, m ≠ "..".toList := fun m hm => (hd.isName _ he m (by simp [hm])).ne_up
  have hway : d.IsWay place (around ++ [n]) := by
    obtain ⟨rest, heq, -, hway, -⟩ := (mem_listing_iff hd).mp hnames
    rwa [List.append_nil, ← List.nil_append rest, ← heq] at hway
  have hkind := (isNamedAt_of_makes hn h).kind
  rw [hway.resolve_concat hup] at hkind
  have he' := hd.entry?_eq_some he
  rw [isOpenItem, isRealItem, isOpen, Disk.isLink, Disk.isUnlistable, he', Item.isFolder]
  rw [← List.append_assoc] at he'
  cases e with
  | file bytes =>
    rw [Disk.resolve_file hn.ne_up he'] at hkind
    simpa using hkind
  | unreadable size =>
    rw [Disk.resolve_unreadable hn.ne_up he'] at hkind
    simpa using hkind
  | folder =>
    rw [Disk.resolve_folder hn.ne_up (Disk.isFolderAt_of_folder he')] at hkind
    simpa using hkind
  | unlistable passes => simp
  | link target => simp

/-- So it is with the item of the root. -/
theorem isOpenItem_root (hfolder : d.isFolderAt place = true) :
    isOpenItem d place ([], rootItem) = isOpen d place [] := by
  rw [isOpenItem, isRealItem, isOpen, List.append_nil, Disk.isLink, Disk.isUnlistable]
  obtain he | ⟨passes, he⟩ := Disk.isFolderAt_iff.mp hfolder <;> simp [he, rootItem, Item.isFolder]

/-- **Folders.**  When there is room for all entries, as many folders are counted as there are items of
folders that are no links and can be listed. -/
theorem folders_ofDisk (hd : d.IsOrderly) (hcut : ¬ IsCut o d here path)
    (h : ofDisk o d here path = .ok (items, s)) :
    s.folders = countItems isOpenItem o d here path items := by
  by_cases hfolder : ∃ place, d.locate here path = .ok place ∧ d.isFolderAt place = true
  · obtain ⟨place, hplace, hfolder⟩ := hfolder
    have hroom : (listing o d place []).length ≤ o.maxItems - 1 :=
      Nat.not_lt.mp fun hlt => hcut ⟨place, hplace, hfolder, hlt⟩
    have hentries : ((visit o d place).filter Step.isEntry).length ≤ o.maxItems - 1 := by
      rwa [entries_visit hd, List.length_map]
    obtain ⟨rest, rfl, hrest⟩ := (ofDisk_ok_iff hd hplace hfolder).mp ⟨s, h⟩
    obtain ⟨parts, hparts, -, rfl⟩ := exists_outcomes hplace hfolder h
    rw [List.take_of_length_le hroom] at hrest
    rw [folders_outcomes hparts, reached_eq_self hentries, entered_visit hd, countItems, hplace]
    simp only [List.zip_cons_cons]
    rw [List.countP_cons, List.countP_cons, isOpenItem_root hfolder,
      List.countP_zip_eq hrest fun names hnames i hi => isOpenItem_eq hd hnames hi]
  · obtain ⟨rfl, rfl⟩ := eq_nothing hfolder h
    rw [countItems]
    split
    · rw [List.zip_nil_right]
      rfl
    · rfl

end Snapshot

end TreeSieve
