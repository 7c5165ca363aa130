import Mathlib
import TreeSieve.Proofs.Parts
import TreeSieve.Proofs.Path
import TreeSieve.Proofs.Snapshot.Listing

/-!
# Proofs — Snapshot — Contents

A snapshot of a folder holds the root and one item for each entry of the listing, in its order.

* `entries_ofDisk`: the entries that a visit lists are those of the listing.
* `ofDisk_ok_iff`: the items are made of the listing, as far as there is room.
* `isNamedAt_of_makes`, `exists_makes_iff_of_isName`: the item of an entry, whatever its name is, and
  when there is one.
* `ofDisk_lists`: when there is room for all, there is one item for each entry that folders alone
  lead to and nothing leaves out, under its path and its name.
-/

namespace TreeSieve

/-- The bytes of the file that names lead to, or its size if it cannot be read. What is no file is
read as one of no size. -/
def Disk.content (d : Disk) (place names : List Text) : Except Nat (List UInt8) :=
  match d.resolve place names with
  | .ok (.file bytes) => .ok bytes
  | .ok (.unreadable size) => .error size
  | _ => .error 0

namespace Snapshot

variable {o : Options} {d : Disk} {place around names : List Text} {n : Text}

/-! ### Paths -/

/-- The path of a folder with a slash behind it, for the root the empty text. -/
def base (around : List Text) : Text := around.flatMap (· ++ Path.root)

theorem base_concat (around : List Text) (n : Text) :
    base (around ++ [n]) = base around ++ n ++ Path.root := by
  simp [base]

theorem join_concat (around : List Text) (n : Text) :
    Text.join Path.root (around ++ [n]) = base around ++ n := by
  induction around with
  | nil => rfl
  | cons m around ih =>
    obtain ⟨k, rest, hrest⟩ : ∃ k rest, around ++ [n] = k :: rest := by
      cases around <;> exact ⟨_, _, rfl⟩
    rw [List.cons_append, hrest, Text.join, ← hrest, ih]
    simp [base]

/-- The parent of a path of names is the path of all names but the last. -/
theorem parent_join (hn : '/' ∉ n) (haround : ∀ m ∈ around, m ≠ []) :
    Path.parent (Text.join Path.root (around ++ [n])) =
      if around = [] then Path.root else Text.join Path.root around := by
  rw [join_concat, Path.parent]
  rcases List.eq_nil_or_concat around with rfl | ⟨q, m, rfl⟩
  · rw [if_pos rfl, base, List.flatMap_nil, List.nil_append, Text.cutLast?_of_not_mem hn]
  · have hm : m ≠ [] := haround m (by simp)
    rw [List.concat_eq_append, base_concat, join_concat, Path.root, List.append_assoc,
      List.singleton_append, Text.cutLast?_append _ hn, if_neg (by simp)]
    exact if_neg (by simpa using fun _ => hm)

/-- A path that ends with a name is neither empty nor the root. -/
theorem join_ne (hn : Disk.IsName n) (around : List Text) :
    Text.join Path.root (around ++ [n]) ≠ [] ∧ Text.join Path.root (around ++ [n]) ≠ Path.root := by
  rw [join_concat]
  refine ⟨fun h => hn.ne_nil (List.append_eq_nil_iff.mp h).2, fun h => ?_⟩
  rcases List.append_eq_singleton_iff.mp h with ⟨-, hslash⟩ | ⟨-, hnil⟩
  · exact hn.slash (hslash ▸ List.mem_singleton_self '/')
  · exact hn.ne_nil hnil

/-- The name is that of an entry of the folder itself, and has nothing but blanks. -/
def IsBlankName (names : List Text) : Prop := ∃ n, names = [n] ∧ ∀ c ∈ n, Text.isBlank c = true

theorem slash_mem_base (hne : around ≠ []) : '/' ∈ base around := by
  obtain ⟨q, m, rfl⟩ := (List.eq_nil_or_concat' around).resolve_left hne
  rw [base_concat]
  exact List.mem_append_right _ (List.mem_singleton_self '/')

/-- Nothing is left of the path of such a name, and of no other one: a slash is no blank. -/
theorem normalize_join_eq_nil_iff :
    Path.normalize (Text.join Path.root (around ++ [n])) = [] ↔ IsBlankName (around ++ [n]) := by
  rw [Path.normalize_eq_nil_iff, join_concat]
  constructor
  · intro hblank
    by_cases hne : around = []
    · subst hne
      exact ⟨n, rfl, hblank⟩
    · exact absurd (hblank '/' (List.mem_append_left n (slash_mem_base hne))) (by decide)
  · rintro ⟨m, hm, hblank⟩
    obtain ⟨rfl, hm⟩ := List.append_eq_singleton_iff.mp hm |>.resolve_right (by simp)
    obtain rfl := List.singleton_inj.mp hm
    exact hblank

theorem keeps_base (o : Options) (around : List Text) (n : Text) :
    o.keeps (base around) n = !o.leavesOut (around ++ [n]) := by
  rw [Options.keeps, Options.leavesOut, join_concat]
  cases o.showHidden <;> simp

/-! ### Entries of a disk -/

/-- What a snapshot sees of an entry of a folder. -/
def seen (d : Disk) (depth : Nat) (place : List Text) : Text × DiskEntry → Tree
  | (_, .file bytes) => .file (.ok bytes)
  | (_, .unreadable size) => .file (.error size)
  | (n, .folder) | (n, .unlistable _) => .ofDisk d depth (place ++ [n])
  | (n, .link _) =>
    match d.resolve place [n] with
    | .ok (.file bytes) => .file (.ok bytes)
    | .ok (.unreadable size) => .file (.error size)
    | .ok _ => .link
    | .error _ => .file (.error 0)

/-- The entries of a folder as a snapshot sees them. -/
def seenIn (d : Disk) (depth : Nat) (place : List Text) : List (Text × Tree) :=
  (d.children place).map fun x => (x.1, seen d depth place x)

theorem ofDisk_succ (depth : Nat) (hplace : d.entry? place = some .folder) :
    Tree.ofDisk d (depth + 1) place = .folder (seenIn d depth place) := by
  rw [Tree.ofDisk, Disk.list?, hplace, seenIn]
  refine congrArg Tree.folder (List.map_congr_left ?_)
  rintro ⟨n, _ | _ | _ | _ | _⟩ - <;> rfl

/-- Nothing is seen in what is no folder that can be listed. -/
theorem ofDisk_unlisted (depth : Nat) (hplace : d.entry? place ≠ some .folder) :
    Tree.ofDisk d depth place = .unlisted := by
  cases depth with
  | zero => rfl
  | succ depth =>
    have hlist : d.list? place = none := by
      rw [Disk.list?]
      split
      · next h => exact absurd h hplace
      · rfl
    rw [Tree.ofDisk, hlist]

theorem isFolder_ofDisk (d : Disk) (depth : Nat) (place : List Text) :
    (Tree.ofDisk d depth place).isFolder = true := by
  by_cases hplace : d.entry? place = some .folder
  · cases depth with
    | zero => rfl
    | succ depth => rw [ofDisk_succ depth hplace, Tree.isFolder_folder]
  · rw [ofDisk_unlisted depth hplace, Tree.isFolder_unlisted]

/-- The step that lists an entry. -/
def stepAt (d : Disk) (place names : List Text) : Step :=
  let path := Text.join Path.root names
  let name := names.getLast?.getD []
  if d.leadsToFolder place names then .folder path name
  else .file path name (d.content place names)

/-- An entry is seen as what it leads to. -/
theorem seen_cases (hd : d.IsOrderly) (hplace : d.isFolderAt place = true) (depth : Nat)
    {e : DiskEntry} (he : d.entry? (place ++ [n]) = some e) :
    (d.leadsToFolder place [n] = true ∧ (seen d depth place (n, e)).isFolder = true) ∨
      (d.leadsToFolder place [n] = false ∧
        seen d depth place (n, e) = .file (d.content place [n])) := by
  have hn := hd.isName_of_entry?_eq_some he
  rw [Disk.leadsToFolder, Disk.content]
  cases e with
  | file bytes =>
    rw [Disk.resolve_file hn.ne_up he]
    exact .inr ⟨rfl, rfl⟩
  | unreadable size =>
    rw [Disk.resolve_unreadable hn.ne_up he]
    exact .inr ⟨rfl, rfl⟩
  | folder =>
    rw [Disk.resolve_folder hn.ne_up (Disk.isFolderAt_of_folder he)]
    exact .inl ⟨rfl, isFolder_ofDisk d depth _⟩
  | unlistable passes =>
    rw [Disk.resolve_folder hn.ne_up (Disk.isFolderAt_iff.mpr (.inr ⟨passes, he⟩))]
    exact .inl ⟨rfl, isFolder_ofDisk d depth _⟩
  | link target =>
    rw [seen]
    cases hr : d.resolve place [n] with
    | error => exact .inr ⟨rfl, rfl⟩
    | ok e =>
      -- a resolved path ends at a folder or a file
      have hsteps : Disk.AreSteps [n] := List.forall_mem_singleton.mpr (.inr hn)
      obtain rfl | ⟨bytes, rfl⟩ | ⟨size, rfl⟩ := hd.resolve_cases hplace hsteps hr
      · exact .inl ⟨rfl, rfl⟩
      · exact .inr ⟨rfl, rfl⟩
      · exact .inr ⟨rfl, rfl⟩

theorem isFolder_seen (hd : d.IsOrderly) (hplace : d.isFolderAt place = true) (depth : Nat)
    {e : DiskEntry} (he : d.entry? (place ++ [n]) = some e) :
    (seen d depth place (n, e)).isFolder = d.leadsToFolder place [n] := by
  rcases seen_cases hd hplace depth he with ⟨hfolder, hseen⟩ | ⟨hfile, hseen⟩
  · rw [hfolder, hseen]
  · rw [hfile, hseen, Tree.isFolder_file]

/-- How the way to a folder was taken does not matter for what lies in it. -/
def IsAlong (d : Disk) (place around : List Text) : Prop :=
  ∀ names, d.resolve place (around ++ names) = d.resolve (place ++ around) names

theorem IsAlong.concat (h : IsAlong d place around) (hn : n ≠ "..".toList)
    (he : d.entry? (place ++ around ++ [n]) = some .folder) : IsAlong d place (around ++ [n]) := by
  intro names
  rw [List.append_assoc, h, List.singleton_append, Disk.resolve_cons hn he, List.append_assoc]

/-- An entry of a folder is listed under its path. -/
theorem ofEntry_seen (hd : d.IsOrderly) (hplace : d.isFolderAt (place ++ around) = true)
    (halong : IsAlong d place around) (depth : Nat) {e : DiskEntry}
    (he : d.entry? (place ++ around ++ [n]) = some e) :
    Step.ofEntry (base around) (n, seen d depth (place ++ around) (n, e)) =
      stepAt d place (around ++ [n]) := by
  rw [stepAt, List.getLast?_concat, Option.getD_some, join_concat, Disk.leadsToFolder, Disk.content,
    halong, ← Disk.leadsToFolder, ← Disk.content]
  rcases seen_cases hd hplace depth he with ⟨hfolder, hseen⟩ | ⟨hfile, hseen⟩
  · rw [if_pos hfolder]
    cases hs : seen d depth (place ++ around) (n, e) with
    | file => simp [hs] at hseen
    | link | unlisted | folder => rfl
  · rw [if_neg (by simp [hfile]), hseen, Step.ofEntry]

theorem mem_seenIn (hd : d.IsOrderly) {depth : Nat} {c : Text × Tree}
    (hc : c ∈ seenIn d depth place) :
    ∃ e, d.entry? (place ++ [c.1]) = some e ∧ c.2 = seen d depth place (c.1, e) := by
  obtain ⟨⟨n, e⟩, hx, rfl⟩ := List.mem_map.mp hc
  exact ⟨e, hd.mem_children.mp hx, rfl⟩

/-- The entries of a folder that are kept have the names that the listing says. -/
theorem map_fst_kept (hd : d.IsOrderly) (hplace : d.entry? (place ++ around) = some .folder)
    (depth : Nat) (folders : Bool) :
    (kept o (base around) folders (seenIn d depth (place ++ around))).map Prod.fst =
      keptNames o d place around folders := by
  have hfst : (seenIn d depth (place ++ around)).map Prod.fst =
      (d.children (place ++ around)).map Prod.fst := by
    rw [seenIn, List.map_map]
    rfl
  have hlist : d.list? (place ++ around) = some (d.children (place ++ around)) := by
    rw [Disk.list?, hplace]
  have hkept : ∀ c ∈ seenIn d depth (place ++ around), isKept o (base around) folders c =
      ((fun n => d.leadsToFolder (place ++ around) [n] == folders && !o.leavesOut (around ++ [n])) ∘
        Prod.fst) c := by
    rintro ⟨n, t⟩ hc
    obtain ⟨e, he, hseen⟩ := mem_seenIn hd hc
    rw [isKept, keeps_base, hseen,
      isFolder_seen hd (Disk.isFolderAt_of_folder hplace) depth he]
    rfl
  have hsort (children : List (Text × Tree)) :
      (Tree.sortByName children).map Prod.fst = sortNames (children.map Prod.fst) :=
    List.map_mergeSort fun _ _ _ _ => rfl
  rw [kept, hsort, List.filter_congr hkept, ← List.filter_map, hfst, keptNames, hlist,
    Option.getD_some]

/-- A visit to an entry that is no folder itself, or none that can be listed, has no entries. -/
theorem steps_seen {e : DiskEntry} (he : d.entry? (place ++ [n]) = some e) (hfolder : e ≠ .folder)
    (depth : Nat) (path : Text) : ∀ step ∈ steps o path (seen d depth place (n, e)).inOrder,
      step = .fail := by
  cases e with
  | file | unreadable => exact fun _ h => absurd h List.not_mem_nil
  | folder => exact absurd rfl hfolder
  | unlistable passes =>
    rw [seen, ofDisk_unlisted depth (by simp [he])]
    exact fun step h => List.mem_singleton.mp h
  | link =>
    rw [seen]
    split <;> exact fun _ h => absurd h List.not_mem_nil

theorem mem_kept (hd : d.IsOrderly) {folders : Bool} {depth : Nat} {c : Text × Tree}
    (hc : c ∈ kept o (base around) folders (seenIn d depth place)) :
    ∃ e, d.entry? (place ++ [c.1]) = some e ∧ c.2 = seen d depth place (c.1, e) := by
  rw [kept, Tree.sortByName, List.mem_mergeSort] at hc
  exact mem_seenIn hd (List.mem_of_mem_filter hc)

/-- The entries of a folder that are kept are listed as the listing says. -/
theorem map_ofEntry_kept (hd : d.IsOrderly) (hplace : d.entry? (place ++ around) = some .folder)
    (halong : IsAlong d place around) (depth : Nat) (folders : Bool) :
    (kept o (base around) folders (seenIn d depth (place ++ around))).map
        (Step.ofEntry (base around)) =
      ((keptNames o d place around folders).map (around ++ [·])).map (stepAt d place) := by
  rw [← map_fst_kept hd hplace depth, List.map_map, List.map_map]
  refine List.map_congr_left fun c hc => ?_
  obtain ⟨e, he, hseen⟩ := mem_kept hd hc
  change Step.ofEntry (base around) c = stepAt d place (around ++ [c.1])
  rw [← ofEntry_seen hd (Disk.isFolderAt_of_folder hplace) halong depth he, ← hseen]

/-- **Entries.**  A visit to a folder, deep enough for what lies below it, lists the entries of the
listing, in order. -/
theorem entries_ofDisk (hd : d.IsOrderly) {depth : Nat} (halong : IsAlong d place around)
    (hdepth : d.below (place ++ around) < depth) :
    (steps o (base around) (Tree.ofDisk d depth (place ++ around)).inOrder).filter Step.isEntry =
      (listing o d place around).map (stepAt d place) := by
  induction depth generalizing around with
  | zero => omega
  | succ depth ih =>
    by_cases hplace : d.entry? (place ++ around) = some .folder
    · rw [ofDisk_succ depth hplace, entries_steps, listing, List.map_append, List.map_append,
        map_ofEntry_kept hd hplace halong, map_ofEntry_kept hd hplace halong,
        ← map_fst_kept hd hplace depth true, List.flatMap_map, List.map_flatMap]
      congr 1
      refine List.flatMap_congr fun c hc => ?_
      obtain ⟨e, he, hseen⟩ := mem_kept hd hc
      rw [hseen, ← base_concat]
      by_cases hfolder : e = .folder
      · -- less lies below the subfolder, so the depth that is left is enough for it
        subst hfolder
        have hbelow := Disk.below_lt he
        have halong' := halong.concat (hd.isName_of_entry?_eq_some he).ne_up he
        rw [if_pos he, seen, List.append_assoc]
        rw [List.append_assoc] at hbelow
        exact ih halong' (by omega)
      · rw [he, if_neg (by simpa using hfolder), List.filter_eq_nil_iff.mpr fun step hstep => ?_]
        · rfl
        · rw [steps_seen he hfolder depth _ step hstep]
          exact Bool.false_ne_true
    · rw [ofDisk_unlisted _ hplace, listing_eq_nil hd hplace]
      rfl

/-! ### Items of a disk -/

/-- The item is that of the entry that the names lead to, under their normalised path. -/
structure IsNamedAt (d : Disk) (place names : List Text) (i : Item) : Prop where
  path : i.path = Path.normalize (Text.join Path.root names)
  name : some i.name = names.getLast?
  kind : i.kind = .folder ↔ d.resolve place names = .ok .folder
  parent : i.parent? = if i.path = Path.root then none else some (Path.parent i.path)

/-- The item is that of the entry that the names lead to. -/
structure IsItemAt (d : Disk) (place names : List Text) (i : Item) : Prop where
  path : i.path = Text.join Path.root names
  name : some i.name = names.getLast?
  kind : i.kind = .folder ↔ d.resolve place names = .ok .folder
  parent : i.parent? =
    some (if names.dropLast = [] then Path.root else Text.join Path.root names.dropLast)

/-- The tags of an entry can be read, if it is a file. -/
def CanRead (o : Options) (d : Disk) (place names : List Text) : Prop :=
  d.resolve place names ≠ .ok .folder →
    ∃ r, readTags o (names.getLast?.getD []) (d.content place names) = .ok r

/-- The steps of the visit to a folder. -/
def visit (o : Options) (d : Disk) (place : List Text) : List Step :=
  steps o [] (Tree.ofDisk d (d.length + 1) place).inOrder

/-- No more lies below a folder than the disk has entries, so the visit is deep enough. -/
theorem entries_visit (hd : d.IsOrderly) (o : Options) (place : List Text) :
    (visit o d place).filter Step.isEntry = (listing o d place []).map (stepAt d place) := by
  have h := @entries_ofDisk o d place [] hd (d.length + 1)
  rw [List.append_nil] at h
  exact h (fun names => by rw [List.nil_append, List.append_nil])
    (Nat.lt_succ_of_le (d.below_le place))

/-- A snapshot of a folder is made of the steps that are reached. -/
theorem ofDisk_eq_ok_iff {here : List Text} {path : Text} {items : List Item} {s : Stats}
    (hplace : d.locate here path = .ok place) (hfolder : d.isFolderAt place = true) :
    ofDisk o d here path = .ok (items, s) ↔
      ∃ rest, collect o (o.maxItems - 1) {} (visit o d place) = .ok (rest, s) ∧
        items = rootItem :: rest := by
  simp only [ofDisk, ofDiskAfter, hplace, if_pos hfolder, ofTree, bind, Except.bind_eq_ok, pure,
    Except.pure, Except.ok.injEq, Prod.mk.injEq, Prod.exists]
  constructor
  · rintro ⟨rest, _, hrest, rfl, rfl⟩
    exact ⟨rest, hrest, rfl⟩
  · rintro ⟨rest, hrest, rfl⟩
    exact ⟨rest, s, hrest, rfl, rfl⟩

/-- The items of a snapshot are those of the listing, as far as there is room. -/
theorem ofDisk_ok_iff (hd : d.IsOrderly) {here : List Text} {path : Text} {items : List Item}
    (hplace : d.locate here path = .ok place) (hfolder : d.isFolderAt place = true) :
    (∃ s, ofDisk o d here path = .ok (items, s)) ↔
      ∃ rest, items = rootItem :: rest ∧ List.Forall₂ (fun names => Makes o (stepAt d place names))
        ((listing o d place []).take (o.maxItems - 1)) rest := by
  have hcollect (rest : List Item) :=
    @collect_ok_iff o rest (o.maxItems - 1) {} (visit o d place)
  simp only [entries_visit hd, ← List.map_take, List.forall₂_map_left_iff] at hcollect
  simp only [ofDisk_eq_ok_iff hplace hfolder, ← hcollect]
  constructor
  · rintro ⟨s, rest, hrest, rfl⟩
    exact ⟨rest, rfl, s, hrest⟩
  · rintro ⟨rest, rfl, s, hrest⟩
    exact ⟨s, rest, hrest, rfl⟩

section Entries

variable {i : Item} (hn : Disk.IsName n)

include hn

theorem isNamedAt_of_makes (h : Makes o (stepAt d place (around ++ [n])) i) :
    IsNamedAt d place (around ++ [n]) i := by
  have hitem {kind : ItemKind} {tags : List Text}
      (hkind : kind = .folder ↔ d.resolve place (around ++ [n]) = .ok .folder)
      (h : itemOf kind (Text.join Path.root (around ++ [n])) n tags = .ok i) :
      IsNamedAt d place (around ++ [n]) i := by
    obtain ⟨-, rfl⟩ := (itemOf_eq_ok_iff hn.ne_nil).mp h
    exact ⟨rfl, by simp, hkind, rfl⟩
  rw [stepAt, List.getLast?_concat, Option.getD_some] at h
  by_cases hfolder : d.resolve place (around ++ [n]) = .ok .folder
  · rw [if_pos (Disk.leadsToFolder_iff.mpr hfolder)] at h
    exact hitem (iff_of_true rfl hfolder) h
  · rw [if_neg (by rwa [Disk.leadsToFolder_iff])] at h
    obtain ⟨tags, s, -, h⟩ := h
    exact hitem (iff_of_false (by simp) hfolder) h

/-- An item can be made of an entry when something is left of its path and its tags can be read. -/
theorem exists_makes_iff_of_isName : (∃ i, Makes o (stepAt d place (around ++ [n])) i) ↔
    ¬ IsBlankName (around ++ [n]) ∧ CanRead o d place (around ++ [n]) := by
  have hitem (kind : ItemKind) (tags : List Text) :
      (∃ i, itemOf kind (Text.join Path.root (around ++ [n])) n tags = .ok i) ↔
        ¬ IsBlankName (around ++ [n]) := by
    simp only [itemOf_eq_ok_iff hn.ne_nil, ne_eq, normalize_join_eq_nil_iff]
    exact ⟨fun ⟨_, h, _⟩ => h, fun h => ⟨_, h, rfl⟩⟩
  rw [stepAt, CanRead, List.getLast?_concat, Option.getD_some]
  by_cases hfolder : d.resolve place (around ++ [n]) = .ok .folder
  · rw [if_pos (Disk.leadsToFolder_iff.mpr hfolder)]
    exact (hitem .folder []).trans (and_iff_left fun h => absurd hfolder h).symm
  · rw [if_neg (by rwa [Disk.leadsToFolder_iff])]
    constructor
    · rintro ⟨i, tags, s, htags, h⟩
      exact ⟨(hitem .file tags).mp ⟨i, h⟩, fun _ => ⟨_, htags⟩⟩
    · rintro ⟨hblank, h⟩
      obtain ⟨⟨tags, s⟩, htags⟩ := h hfolder
      obtain ⟨i, hi⟩ := (hitem .file tags).mpr hblank
      exact ⟨i, tags, s, htags, hi⟩

variable (hnormal : Path.normalize (Text.join Path.root (around ++ [n])) =
  Text.join Path.root (around ++ [n]))

include hnormal

/-- An item can be made of an entry when its tags can be read, if normalisation changes nothing. -/
theorem exists_makes_iff :
    (∃ i, Makes o (stepAt d place (around ++ [n])) i) ↔ CanRead o d place (around ++ [n]) := by
  rw [exists_makes_iff_of_isName hn, ← normalize_join_eq_nil_iff, hnormal]
  exact and_iff_right (join_ne hn around).1

theorem isItemAt_of_makes (haround : ∀ m ∈ around, m ≠ [])
    (h : Makes o (stepAt d place (around ++ [n])) i) : IsItemAt d place (around ++ [n]) i := by
  obtain ⟨hpath, hname, hkind, hparent⟩ := isNamedAt_of_makes hn h
  rw [hnormal] at hpath
  refine ⟨hpath, hname, hkind, ?_⟩
  rw [hparent, hpath, if_neg (join_ne hn around).2, parent_join hn.slash haround,
    List.dropLast_concat]

end Entries

/-- What is listed is led to by names. -/
theorem exists_concat_of_mem_listing (hd : d.IsOrderly) (h : names ∈ listing o d place []) :
    ∃ around n, names = around ++ [n] ∧ Disk.IsName n ∧ ∀ m ∈ around, m ≠ [] := by
  obtain ⟨hne, e, he⟩ := exists_mem_of_mem_listing hd h
  obtain ⟨around, n, rfl⟩ := (List.eq_nil_or_concat' names).resolve_left hne
  have hname := hd.isName _ he
  exact ⟨around, n, rfl, hname n (by simp), fun m hm => (hname m (by simp [hm])).ne_nil⟩

/-- A snapshot of a folder succeeds when an item can be made of each entry for which there is room. -/
theorem exists_ofDisk_iff (hd : d.IsOrderly) {here : List Text} {path : Text}
    (hplace : d.locate here path = .ok place) (hfolder : d.isFolderAt place = true) :
    (∃ r, ofDisk o d here path = .ok r) ↔
      ∀ names ∈ (listing o d place []).take (o.maxItems - 1),
        ∃ i, Makes o (stepAt d place names) i := by
  rw [← List.exists_forall₂_iff, Prod.exists]
  simp only [ofDisk_ok_iff hd hplace hfolder]
  exact ⟨fun ⟨_, rest, _, hrest⟩ => ⟨rest, hrest⟩, fun ⟨rest, hrest⟩ => ⟨_, rest, rfl, hrest⟩⟩

/-- The items made of listed entries stand under the paths of their names, if normalisation changes
none of these. -/
theorem forall₂_isItemAt (hd : d.IsOrderly) {k : Nat} {rest : List Item}
    (hnormal : ∀ names ∈ (listing o d place []).take k,
      Path.normalize (Text.join Path.root names) = Text.join Path.root names)
    (hrest : List.Forall₂ (fun names => Makes o (stepAt d place names))
      ((listing o d place []).take k) rest) :
    List.Forall₂ (IsItemAt d place) ((listing o d place []).take k) rest := by
  have hlisted : ∀ names ∈ (listing o d place []).take k, names ∈ listing o d place [] ∧
      Path.normalize (Text.join Path.root names) = Text.join Path.root names :=
    fun names h => ⟨List.mem_of_mem_take h, hnormal names h⟩
  refine ((List.forall₂_and_left _ _).mpr ⟨hlisted, hrest⟩).imp ?_
  rintro names i ⟨⟨hmem, hself⟩, hmakes⟩
  obtain ⟨around, n, rfl, hn, haround⟩ := exists_concat_of_mem_listing hd hmem
  exact isItemAt_of_makes hn hself haround hmakes

/-- **Snapshots.**  Let normalisation change no path of an entry listed for the folder at `place`,
and let there be room for all of them.  Then a snapshot of the folder succeeds just when the tags of
each listed file can be read, and it holds the root and one item for each listed entry, in order.
Listed is, once, what the names lead to from the folder, when no entry on the way is hidden or
ignored, the last one included, and all before the last, the folder itself among them, are neither
links nor folders that cannot be listed. -/
theorem ofDisk_lists (hd : d.IsOrderly) {here : List Text} {path : Text}
    (hplace : d.locate here path = .ok place) (hfolder : d.isFolderAt place = true)
    (hnormal : ∀ names ∈ listing o d place [],
      Path.normalize (Text.join Path.root names) = Text.join Path.root names)
    (hroom : (listing o d place []).length < o.maxItems) :
    ((∃ r, ofDisk o d here path = .ok r) ↔
      ∀ names ∈ listing o d place [], CanRead o d place names) ∧
    (∀ items s, ofDisk o d here path = .ok (items, s) → ∃ rest, items = rootItem :: rest ∧
      List.Forall₂ (IsItemAt d place) (listing o d place []) rest) ∧
    (listing o d place []).Nodup ∧
    ∀ names, names ∈ listing o d place [] ↔ d.Leads place names ∧
      (∀ p, p <+: names → p ≠ [] → o.leavesOut p = false) ∧
      ∀ p, p <+: names → p ≠ names →
        (∀ target, d.entry? (place ++ p) ≠ some (.link target)) ∧
          ∀ passes, d.entry? (place ++ p) ≠ some (.unlistable passes) := by
  have hok (items : List Item) := @ofDisk_ok_iff o d place hd here path items hplace hfolder
  rw [List.take_of_length_le (by omega)] at hok
  refine ⟨?_, fun items s h => ?_, nodup_listing hd o place [],
    fun names => mem_listing_root_iff hd hfolder⟩
  · -- one item is made of each listed entry just when its tags can be read
    have hmakes : (∀ names ∈ listing o d place [], ∃ i, Makes o (stepAt d place names) i) ↔
        ∀ names ∈ listing o d place [], CanRead o d place names := by
      refine forall₂_congr fun names h => ?_
      obtain ⟨around, n, rfl, hn, -⟩ := exists_concat_of_mem_listing hd h
      exact exists_makes_iff hn (hnormal _ h)
    rw [← hmakes, ← List.exists_forall₂_iff]
    constructor
    · rintro ⟨⟨items, s⟩, h⟩
      obtain ⟨rest, -, hrest⟩ := (hok items).mp ⟨s, h⟩
      exact ⟨rest, hrest⟩
    · rintro ⟨rest, hrest⟩
      obtain ⟨s, h⟩ := (hok (rootItem :: rest)).mpr ⟨rest, rfl, hrest⟩
      exact ⟨_, h⟩
  · obtain ⟨rest, rfl, hrest⟩ := (hok items).mp ⟨s, h⟩
    obtain ⟨hlength, hzip⟩ := List.forall₂_iff_zip.mp hrest
    refine ⟨rest, rfl, List.forall₂_iff_zip.mpr ⟨hlength, fun hmem => ?_⟩⟩
    have hlisted := (List.of_mem_zip hmem).1
    obtain ⟨around, n, rfl, hn, haround⟩ := exists_concat_of_mem_listing hd hlisted
    exact isItemAt_of_makes hn (hnormal _ hlisted) haround (hzip hmem)

theorem ofDisk_lists_guardedDisk :
    (∃ items s, ofDisk .default guardedDisk [] "r".toList = .ok (items, s) ∧
      ∃ rest, items = rootItem :: rest ∧ List.Forall₂ (IsItemAt guardedDisk ["r".toList])
        (listing .default guardedDisk ["r".toList] []) rest) ∧
    ["vault".toList] ∈ listing .default guardedDisk ["r".toList] [] ∧
    [".old".toList, "x".toList] ∉ listing .default guardedDisk ["r".toList] [] ∧
    ["node_modules".toList, "y".toList] ∉ listing .default guardedDisk ["r".toList] [] ∧
    ["alias".toList, "n.txt".toList] ∉ listing .default guardedDisk ["r".toList] [] ∧
    ["vault".toList, "k".toList] ∉ listing .default guardedDisk ["r".toList] [] := by
  have hd : guardedDisk.IsOrderly := by decide
  have hplace : guardedDisk.locate [] "r".toList = .ok ["r".toList] :=
    Disk.locate_name rfl (by decide) (by decide) (by decide) (by decide)
  have hnormal : ∀ names ∈ listing .default guardedDisk ["r".toList] [],
      Path.normalize (Text.join Path.root names) = Text.join Path.root names := by
    have hall : ∀ x ∈ guardedDisk, Path.normalize (Text.join Path.root x.1.tail) =
        Text.join Path.root x.1.tail := by decide
    intro names h
    obtain ⟨-, e, he⟩ := exists_mem_of_mem_listing hd h
    exact hall _ he
  have hread : ∀ names ∈ listing .default guardedDisk ["r".toList] [],
      CanRead .default guardedDisk ["r".toList] names := by
    have hall : ∀ x ∈ guardedDisk,
        Options.default.isTagged (x.1.tail.getLast?.getD []) = false := by decide
    intro names h _
    obtain ⟨-, e, he⟩ := exists_mem_of_mem_listing hd h
    have huntagged : Options.default.isTagged (names.getLast?.getD []) = false := hall _ he
    exact ⟨([], { files := 1 }), if_pos (by rw [huntagged]; rfl)⟩
  have hroom : (listing .default guardedDisk ["r".toList] []).length < Options.default.maxItems :=
    (length_listing_le hd _ _).trans_lt (by decide)
  obtain ⟨hok, hitems, -, hmem⟩ := ofDisk_lists hd hplace (by decide) hnormal hroom
  obtain ⟨⟨items, s⟩, h⟩ := hok.mpr hread
  have hvault : guardedDisk.entry? (["r".toList] ++ ["vault".toList]) = some (.unlistable true) := by
    decide
  refine ⟨⟨items, s, h, hitems items s h⟩, ?_, fun h => ?_, fun h => ?_, fun h => ?_, fun h => ?_⟩
  · refine (mem_listing hd).mpr ⟨by decide, "vault".toList, _, hvault, by decide +kernel, .inl rfl⟩
  · have hhidden : Options.default.leavesOut [".old".toList] = true := by decide
    have hkept := ((hmem _).mp h).2.1 [".old".toList] (by decide) (by decide)
    exact Bool.false_ne_true (hkept.symm.trans hhidden)
  · have hignored : Options.default.leavesOut ["node_modules".toList, "y".toList] = true := by
      decide +kernel
    have hkept := ((hmem _).mp h).2.1 _ (List.prefix_refl _) (by decide)
    exact Bool.false_ne_true (hkept.symm.trans hignored)
  · exact (((hmem _).mp h).2.2 ["alias".toList] (by decide) (by decide)).1 "Zoo".toList (by decide)
  · exact (((hmem _).mp h).2.2 ["vault".toList] (by decide) (by decide)).2 true hvault

/-- A file to which a path leads, with nothing hidden or ignored and no link on the way, has no item:
the folder around it cannot be listed. -/
theorem ofDisk_unlistable :
    guardedDisk.Leads ["r".toList] ["vault".toList, "k".toList] ∧
    (∀ p, p <+: ["vault".toList, "k".toList] → p ≠ [] → lenient.leavesOut p = false ∧
      ∀ target, guardedDisk.entry? (["r".toList] ++ p) ≠ some (.link target)) ∧
    (ofDisk lenient guardedDisk [] "r".toList).map (fun r => r.1.map Item.path) =
      .ok (["/", "alias", "node_modules", "vault", "Zoo", "b.txt", "node_modules/y",
        "Zoo/n.txt"].map (·.toList)) := by
  have hvault : guardedDisk.entry? (["r".toList] ++ ["vault".toList]) = some (.unlistable true) := by
    decide
  have hfile : guardedDisk.entry? (["r".toList] ++ ["vault".toList, "k".toList]) =
      some (.file []) := by decide
  have hkept : lenient.leavesOut ["vault".toList] = false ∧
      lenient.leavesOut ["vault".toList, "k".toList] = false := by decide
  refine ⟨⟨by decide, by decide, ["r".toList, "vault".toList, "k".toList], by cbv⟩, ?_, by cbv⟩
  refine Disk.forall_prefix_cons.mpr ⟨⟨hkept.1, fun target h => ?_⟩,
    Disk.forall_prefix_cons.mpr ⟨⟨hkept.2, fun target h => ?_⟩,
      fun p hp hne => absurd (List.prefix_nil.mp hp) hne⟩⟩
  · rw [hvault] at h
    cases h
  · rw [hfile] at h
    cases h

end Snapshot

end TreeSieve
