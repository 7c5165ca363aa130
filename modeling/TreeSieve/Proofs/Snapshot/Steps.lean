import Mathlib.Algebra.BigOperators.Group.List.Basic
import Mathlib.Data.List.Basic
import Mathlib.Data.List.Forall2
import TreeSieve.Proofs.Item
import TreeSieve.Snapshot.Build

/-!
# Proofs — Snapshot — Steps

What the steps of a visit list, and what items are made of them.

* `entries_steps`: the entries that a visit to a folder lists, by the entries of the folder: those
  that are kept, in order, folders first, and then what the visits to the subfolders list.
* `collect_ok_iff`: the items are made of the entries, one of each, as long as there is room.
* `itemOf_eq_ok_iff`: the item of an entry, under its normalised path; there is none when nothing is
  left of the path.
-/

namespace TreeSieve

/-! ### Sorting -/

section Sorting

variable {α : Type} {le : α → α → Bool} (trans : ∀ a b c, le a b → le b c → le a c)
  (total : ∀ a b, le a b || le b a)

include trans total

/-- The first of a list is put behind what has to come before it. -/
theorem mergeSort_cons_eq (a : α) (l : List α) :
    (a :: l).mergeSort le =
      (l.mergeSort le).filter (fun b => !le a b) ++ a :: (l.mergeSort le).filter (le a ·) := by
  obtain ⟨l₁, l₂, hcons, hl, hbefore⟩ := List.mergeSort_cons trans total a l
  have hsorted := List.pairwise_mergeSort trans total (a :: l)
  rw [hcons] at hsorted
  have hbehind : ∀ b ∈ l₂, le a b = true :=
    (List.pairwise_cons.mp (List.pairwise_append.mp hsorted).2.1).1
  rw [hcons, hl, List.filter_append, List.filter_append, List.filter_eq_self.mpr hbefore,
    List.filter_eq_nil_iff.mpr (fun b hb => by simpa using hbehind b hb), List.append_nil,
    List.filter_eq_nil_iff.mpr (fun b hb => by simpa using hbefore b hb), List.nil_append,
    List.filter_eq_self.mpr hbehind]

/-- Sorting comes to the same before and after a choice: entries that agree keep their order. -/
theorem filter_mergeSort (p : α → Bool) (l : List α) :
    (l.mergeSort le).filter p = (l.filter p).mergeSort le := by
  induction l with
  | nil => simp
  | cons a l ih =>
    by_cases hp : p a = true
    · -- both sides put the first entry behind what has to come before it
      have hcomm (q : α → Bool) : ((l.mergeSort le).filter q).filter p =
          ((l.filter p).mergeSort le).filter q := by rw [List.filter_comm, ih]
      rw [List.filter_cons_of_pos hp, mergeSort_cons_eq trans total, mergeSort_cons_eq trans total,
        List.filter_append, List.filter_cons_of_pos hp, hcomm, hcomm]
    · obtain ⟨l₁, l₂, hcons, hl, -⟩ := List.mergeSort_cons trans total a l
      rw [List.filter_cons_of_neg hp, ← ih, hcons, hl, List.filter_append, List.filter_append,
        List.filter_cons_of_neg hp]

end Sorting

/-- Of two texts one comes first. -/
theorem Text.le_total (a b : Text) : (Text.le a b || Text.le b a) = true := by
  induction a generalizing b with
  | nil => rfl
  | cons c a ih =>
    cases b with
    | nil => rfl
    | cons c' b =>
      have h := ih b
      simp only [Text.le, Bool.or_eq_true, Bool.and_eq_true, decide_eq_true_eq, beq_iff_eq] at h ⊢
      by_cases hc : c = c'
      · subst hc
        exact h.imp (fun h => .inr ⟨rfl, h⟩) fun h => .inr ⟨rfl, h⟩
      · exact (UInt32.lt_or_lt_of_ne fun h => hc (Char.ext h)).imp .inl .inl

/-- The order of texts is transitive. -/
theorem Text.le_trans {a b c : Text} (hab : Text.le a b = true) (hbc : Text.le b c = true) :
    Text.le a c = true := by
  induction a generalizing b c with
  | nil => rfl
  | cons x a ih =>
    cases b with
    | nil => cases hab
    | cons y b =>
      cases c with
      | nil => cases hbc
      | cons z c =>
        simp only [Text.le, Bool.or_eq_true, Bool.and_eq_true, decide_eq_true_eq, beq_iff_eq]
          at hab hbc ⊢
        rcases hab with hxy | ⟨rfl, hab⟩
        · rcases hbc with hyz | ⟨rfl, -⟩
          · exact .inl (UInt32.lt_trans hxy hyz)
          · exact .inl hxy
        · rcases hbc with hyz | ⟨rfl, hbc⟩
          · exact .inl hyz
          · exact .inr ⟨rfl, ih hab hbc⟩

namespace Snapshot

/-! ### Folders in order -/

namespace Tree

/-- Children are left out before or after sorting alike. -/
theorem filter_sortByName (p : Text × Tree → Bool) (children : List (Text × Tree)) :
    (sortByName children).filter p = sortByName (children.filter p) := by
  rw [sortByName, sortByName]
  refine filter_mergeSort ?_ ?_ p children
  · exact fun _ _ _ => Text.le_trans
  · exact fun _ _ => Text.le_total _ _

@[simp] theorem isFolder_file (content : Except Nat (List UInt8)) : (file content).isFolder = false := rfl
@[simp] theorem isFolder_link : link.isFolder = true := rfl
@[simp] theorem isFolder_unlisted : unlisted.isFolder = true := rfl
@[simp] theorem isFolder_folder (children : List (Text × Tree)) :
    (folder children).isFolder = true := rfl

/-- Putting a tree in order makes no file a folder. -/
@[simp] theorem isFolder_inOrder (t : Tree) : t.inOrder.isFolder = t.isFolder := by
  cases t <;> rfl

/-- Each child is put in order by itself. -/
theorem inOrderAll_eq_map (children : List (Text × Tree)) :
    inOrderAll children = children.map fun c => (c.1, c.2.inOrder) := by
  induction children with
  | nil => rfl
  | cons c children ih => rw [inOrderAll, ih, List.map_cons]

/-- Entries are put in order before or after what they hold. -/
theorem inOrder_folder (children : List (Text × Tree)) :
    (folder children).inOrder = folder ((sortByName children).map fun c => (c.1, c.2.inOrder)) := by
  rw [inOrder, inOrderAll_eq_map, sortByName, sortByName, List.map_mergeSort]
  exact fun _ _ _ _ => rfl

end Tree

/-! ### Entries among steps -/

variable {o : Options} {base : Text} {children : List (Text × Tree)} {items : List Item}

namespace Step

/-- Whether a step lists an entry. -/
def isEntry : Step → Bool
  | folder .. | file .. => true
  | enter | skip | fail => false

@[simp] theorem isEntry_enter : enter.isEntry = false := rfl
@[simp] theorem isEntry_skip : skip.isEntry = false := rfl
@[simp] theorem isEntry_fail : fail.isEntry = false := rfl
@[simp] theorem isEntry_folder (path name : Text) : (folder path name).isEntry = true := rfl
@[simp] theorem isEntry_file (path name : Text) (content : Except Nat (List UInt8)) :
    (file path name content).isEntry = true := rfl

/-- The step that lists an entry of a folder. -/
def ofEntry (base : Text) : Text × Tree → Step
  | (name, .file content) => file (base ++ name) name content
  | (name, _) => folder (base ++ name) name

end Step

/-- Whether an entry of a folder is kept, as a subfolder or as one of the others. -/
def isKept (o : Options) (base : Text) (folders : Bool) (c : Text × Tree) : Bool :=
  c.2.isFolder == folders && o.keeps base c.1

/-- The entries among the folders of a folder are those that are kept. -/
theorem filter_isEntry_folderSteps : (folderSteps o base children).filter Step.isEntry =
    (children.filter (isKept o base true)).map (Step.ofEntry base) := by
  have hfilter : children.filter (isKept o base true) =
      (children.filter (·.2.isFolder)).filter (o.keeps base ∘ Prod.fst) := by
    rw [List.filter_filter]
    exact List.filter_congr fun c _ => by rw [isKept, Bool.and_comm, beq_true]; rfl
  have hstep : ∀ c ∈ children.filter (isKept o base true),
      Step.folder (base ++ c.1) c.1 = Step.ofEntry base c := by
    rintro ⟨name, t⟩ hc
    cases t with
    | file => simp [isKept] at hc
    | link | unlisted | folder => rfl
  have hskip (names : List Text) : (names.map fun _ => Step.skip).filter Step.isEntry = [] :=
    List.filter_eq_nil_iff.mpr fun s hs => by
      obtain ⟨_, -, rfl⟩ := List.mem_map.mp hs
      exact Bool.false_ne_true
  have hentry (names : List Text) :
      (names.map fun name => Step.folder (base ++ name) name).filter Step.isEntry =
        names.map fun name => Step.folder (base ++ name) name :=
    List.filter_eq_self.mpr fun s hs => by
      obtain ⟨_, -, rfl⟩ := List.mem_map.mp hs
      rfl
  rw [folderSteps, List.filter_append, hskip, List.nil_append, hentry, List.filter_map]
  change
    (((children.filter (·.2.isFolder)).filter (o.keeps base ∘ Prod.fst)).map Prod.fst).map _ = _
  rw [← hfilter, List.map_map]
  exact List.map_congr_left hstep

/-- The entries among the files of a folder are those that are kept. -/
theorem filter_isEntry_fileSteps : (fileSteps o base children).filter Step.isEntry =
    (children.filter (isKept o base false)).map (Step.ofEntry base) := by
  induction children with
  | nil => rfl
  | cons c children ih =>
    obtain ⟨name, t⟩ := c
    rw [fileSteps] at ih ⊢
    cases t with
    | file content =>
      by_cases h : o.keeps base name = true
      · have hkept : isKept o base false (name, .file content) = true := by simp [isKept, h]
        rw [List.filterMap_cons]
        simp only [if_pos h]
        rw [List.filter_cons_of_pos rfl, ih, List.filter_cons_of_pos hkept, List.map_cons,
          Step.ofEntry]
      · simp [isKept, h, ih]
    | link | unlisted | folder => simp [isKept, ih]

/-- The steps below a folder are those of its kept folders, one after the other. -/
theorem stepsBelow_eq_flatMap : stepsBelow o base children =
    (children.filter (isKept o base true)).flatMap fun c =>
      steps o (base ++ c.1 ++ Path.root) c.2 := by
  induction children with
  | nil => rfl
  | cons c children ih =>
    obtain ⟨name, t⟩ := c
    rw [stepsBelow, ih]
    cases t with
    | file => simp [steps, isKept]
    | link => by_cases h : o.keeps base name = true <;> simp [steps, isKept, h]
    | unlisted | folder => by_cases h : o.keeps base name = true <;> simp [isKept, h]

/-- The entries of a folder that are kept, the subfolders or the others, in order. -/
def kept (o : Options) (base : Text) (folders : Bool) (children : List (Text × Tree)) :
    List (Text × Tree) :=
  Tree.sortByName (children.filter (isKept o base folders))

/-- **The entries of a folder.** -/
theorem entries_steps : (steps o base (Tree.folder children).inOrder).filter Step.isEntry =
    (kept o base true children).map (Step.ofEntry base)
      ++ (kept o base false children).map (Step.ofEntry base)
      ++ (kept o base true children).flatMap fun c =>
        (steps o (base ++ c.1 ++ Path.root) c.2.inOrder).filter Step.isEntry := by
  -- neither choosing nor listing looks at what an entry holds
  have hkept (folders : Bool) :
      (isKept o base folders ∘ fun c : Text × Tree => (c.1, c.2.inOrder)) =
        isKept o base folders :=
    funext fun c => by simp [isKept]
  have hstep :
      (Step.ofEntry base ∘ fun c : Text × Tree => (c.1, c.2.inOrder)) = Step.ofEntry base := by
    funext c
    obtain ⟨name, t⟩ := c
    cases t <;> rfl
  rw [Tree.inOrder_folder, steps, List.filter_append, List.filter_append,
    List.filter_cons_of_neg (by simp), filter_isEntry_folderSteps, filter_isEntry_fileSteps,
    stepsBelow_eq_flatMap, List.filter_map, List.filter_map, hkept, hkept, List.map_map,
    List.map_map, hstep, Tree.filter_sortByName, Tree.filter_sortByName, List.filter_flatMap,
    List.flatMap_map]
  rfl

/-! ### Counts -/

namespace Stats

instance : Add Stats := ⟨Stats.add⟩
instance : Zero Stats := ⟨{}⟩

theorem add_def (a b : Stats) : a + b = a.add b := rfl

instance : AddCommMonoid Stats where
  add_assoc a b c := by ext <;> exact Nat.add_assoc _ _ _
  zero_add a := by ext <;> exact Nat.zero_add _
  add_zero a := by ext <;> exact Nat.add_zero _
  add_comm a b := by ext <;> exact Nat.add_comm _ _
  nsmul := nsmulRec

end Stats

/-! ### Items of entries -/

/-- Whether a step makes an item. -/
def Makes (o : Options) : Step → Item → Prop
  | .folder path name, i => itemOf .folder path name [] = .ok i
  | .file path name content, i =>
    ∃ tags s, readTags o name content = .ok (tags, s) ∧ itemOf .file path name tags = .ok i
  | _, _ => False

/-- What a step adds to a snapshot: its items, and what counts for it. -/
def Step.outcome (o : Options) : Step → Except Failure (List Item × Stats)
  | enter => .ok ([], { folders := 1 })
  | skip => .ok ([], { ignored := 1 })
  | fail => .ok ([], { errors := 1 })
  | folder path name => (itemOf .folder path name []).map fun i => ([i], 0)
  | file path name content =>
    (readTags o name content).bind fun r =>
      (itemOf .file path name r.1).map fun i => ([i], r.2)

/-- The steps up to the first entry for which there is no room. -/
def reached : (room : Nat) → List Step → List Step
  | _, [] => []
  | room, .enter :: rest => .enter :: reached room rest
  | room, .skip :: rest => .skip :: reached room rest
  | room, .fail :: rest => .fail :: reached room rest
  | 0, .folder .. :: _ | 0, .file .. :: _ => []
  | room + 1, .folder path name :: rest => .folder path name :: reached room rest
  | room + 1, .file path name content :: rest => .file path name content :: reached room rest

/-- Entries are reached as long as there is room. -/
theorem filter_reached (room : Nat) (todo : List Step) :
    (reached room todo).filter Step.isEntry = (todo.filter Step.isEntry).take room := by
  fun_induction reached room todo with
  | case1 | case5 | case6 => simp
  | case2 _ _ ih | case3 _ _ ih | case4 _ _ ih => simp [ih]
  | case7 _ _ _ _ ih | case8 _ _ _ _ _ ih =>
    rw [List.filter_cons_of_pos rfl, List.filter_cons_of_pos rfl, List.take_succ_cons, ih]

/-- **Items and counts.**  The steps that are reached are taken one by one.  What has been counted before
has no part in them, and what counts for them is added to it. -/
theorem collect_eq (o : Options) (room : Nat) (counted : Stats) (todo : List Step) :
    collect o room counted todo = ((reached room todo).mapM (Step.outcome o)).map fun parts =>
      (parts.flatMap Prod.fst, counted + (parts.map Prod.snd).sum) := by
  fun_induction collect o room counted todo with
  | case1 | case5 | case7 => simp [reached, Except.map, pure, Except.pure]
  | case2 room counted rest ih | case3 room counted rest ih | case4 room counted rest ih =>
    rw [ih, reached, List.mapM_cons, ← Stats.add_def]
    cases (reached room rest).mapM (Step.outcome o) with
    | error f => rfl
    | ok parts => exact congrArg (fun s => Except.ok (parts.flatMap Prod.fst, s)) (add_assoc _ _ _)
  | case6 room counted path name rest ih =>
    rw [ih, reached, List.mapM_cons, Step.outcome]
    cases itemOf .folder path name [] with
    | error f => rfl
    | ok i =>
      cases (reached room rest).mapM (Step.outcome o) with
      | error f => rfl
      | ok parts =>
        refine congrArg (fun s => Except.ok (i :: parts.flatMap Prod.fst, s)) ?_
        exact congrArg (counted + ·) (zero_add _).symm
  | case8 room counted path name content rest ih =>
    rw [reached, List.mapM_cons, Step.outcome]
    cases readTags o name content with
    | error f => rfl
    | ok r =>
      simp only [bind, Except.bind] at ih ⊢
      cases itemOf .file path name r.1 with
      | error f => rfl
      | ok i =>
        simp only [ih, Except.map]
        cases (reached room rest).mapM (Step.outcome o) with
        | error f => rfl
        | ok parts =>
          exact congrArg (fun s => Except.ok (i :: parts.flatMap Prod.fst, s)) (add_assoc _ _ _)

/-- Steps have outcomes when each of them has one. -/
theorem mapM_outcome_eq_ok {todo : List Step} {parts : List (List Item × Stats)} :
    todo.mapM (Step.outcome o) = .ok parts ↔
      List.Forall₂ (fun s part => s.outcome o = .ok part) todo parts := by
  induction todo generalizing parts with
  | nil => simp [pure, Except.pure, eq_comm]
  | cons s todo ih =>
    simp only [List.mapM_cons, bind, Except.bind_eq_ok, pure, Except.pure, Except.ok.injEq, ih,
      List.forall₂_cons_left_iff]
    constructor
    · rintro ⟨part, hpart, parts, hparts, rfl⟩
      exact ⟨part, parts, hpart, hparts, rfl⟩
    · rintro ⟨part, parts, hpart, hparts, rfl⟩
      exact ⟨part, hpart, parts, hparts, rfl⟩

/-- **A walk succeeds** when each step that it reaches does, with their items and the sum of their
counts. -/
theorem collect_eq_ok_iff {room : Nat} {counted s : Stats} {todo : List Step} :
    collect o room counted todo = .ok (items, s) ↔ ∃ parts,
      List.Forall₂ (fun s part => s.outcome o = .ok part) (reached room todo) parts ∧
        parts.flatMap Prod.fst = items ∧ counted + (parts.map Prod.snd).sum = s := by
  rw [collect_eq, Except.map_eq_ok]
  simp only [mapM_outcome_eq_ok, Prod.mk.injEq]

/-- A step that lists an entry makes one item. -/
theorem makes_iff {s : Step} (hs : s.isEntry = true) {i : Item} :
    Makes o s i ↔ ∃ c, s.outcome o = .ok ([i], c) := by
  cases s with
  | enter | skip | fail => cases hs
  | folder path name => simp [Makes, Step.outcome, Except.map_eq_ok]
  | file path name content =>
    simp only [Makes, Step.outcome, Except.bind_eq_ok, Except.map_eq_ok, Prod.exists, Prod.mk.injEq,
      List.cons.injEq, and_true]
    constructor
    · rintro ⟨tags, c, htags, hi⟩
      exact ⟨c, tags, c, htags, i, hi, rfl, rfl⟩
    · rintro ⟨-, tags, c, htags, _, hi, rfl, -⟩
      exact ⟨tags, c, htags, hi⟩

/-- A file adds its item, and what counts for its tags. -/
theorem outcome_file {path name : Text} {content : Except Nat (List UInt8)} {part : List Item × Stats}
    (h : (Step.file path name content).outcome o = .ok part) : ∃ r i, readTags o name content = .ok r ∧
      itemOf .file path name r.1 = .ok i ∧ part = ([i], r.2) := by
  obtain ⟨r, hr, h⟩ := Except.bind_eq_ok.mp h
  obtain ⟨i, hi, rfl⟩ := Except.map_eq_ok.mp h
  exact ⟨r, i, hr, hi, rfl⟩

/-- A step makes one item if it is an entry, and none otherwise. -/
theorem fst_outcome {s : Step} {part : List Item × Stats} (h : s.outcome o = .ok part) :
    if s.isEntry then ∃ i, part.1 = [i] else part.1 = [] := by
  cases s with
  | enter | skip | fail =>
    cases h
    rfl
  | folder path name =>
    obtain ⟨i, -, rfl⟩ := Except.map_eq_ok.mp h
    exact ⟨i, rfl⟩
  | file path name content =>
    obtain ⟨r, i, -, -, rfl⟩ := outcome_file h
    exact ⟨i, rfl⟩

/-- Steps have outcomes when an item is made of each entry among them. -/
theorem exists_outcomes_iff {todo : List Step} : (∃ parts,
    List.Forall₂ (fun s part => s.outcome o = .ok part) todo parts ∧
      parts.flatMap Prod.fst = items) ↔
    List.Forall₂ (Makes o) (todo.filter Step.isEntry) items := by
  induction todo generalizing items with
  | nil => simp [eq_comm]
  | cons s todo ih =>
    cases hs : s.isEntry with
    | false =>
      obtain ⟨c, hc⟩ : ∃ c, s.outcome o = .ok ([], c) := by
        cases s with
        | enter | skip | fail => exact ⟨_, rfl⟩
        | folder | file => cases hs
      rw [List.filter_cons_of_neg (by simp [hs]), ← ih]
      constructor
      · rintro ⟨_, h, rfl⟩
        obtain ⟨part, parts, hpart, hparts, rfl⟩ := List.forall₂_cons_left_iff.mp h
        cases hc.symm.trans hpart
        exact ⟨parts, hparts, rfl⟩
      · rintro ⟨parts, hparts, rfl⟩
        exact ⟨([], c) :: parts, .cons hc hparts, rfl⟩
    | true =>
      rw [List.filter_cons_of_pos hs, List.forall₂_cons_left_iff]
      constructor
      · rintro ⟨_, h, rfl⟩
        obtain ⟨⟨made, c⟩, parts, hpart, hparts, rfl⟩ := List.forall₂_cons_left_iff.mp h
        have hmade := fst_outcome hpart
        rw [if_pos hs] at hmade
        obtain ⟨i, rfl⟩ := hmade
        exact ⟨i, _, (makes_iff hs).mpr ⟨c, hpart⟩, ih.mp ⟨parts, hparts, rfl⟩, rfl⟩
      · rintro ⟨i, is, hi, his, rfl⟩
        obtain ⟨c, hc⟩ := (makes_iff hs).mp hi
        obtain ⟨parts, hparts, rfl⟩ := ih.mpr his
        exact ⟨([i], c) :: parts, .cons hc hparts, rfl⟩

/-- **Items of entries.**  As long as there is room, one item is made of each entry, and the visit
fails when there is an entry of which none can be made. -/
theorem collect_ok_iff {room : Nat} {counted : Stats} {todo : List Step} :
    (∃ s, collect o room counted todo = .ok (items, s)) ↔
      List.Forall₂ (Makes o) ((todo.filter Step.isEntry).take room) items := by
  rw [← filter_reached, ← exists_outcomes_iff]
  simp only [collect_eq_ok_iff]
  constructor
  · rintro ⟨s, parts, hparts, hitems, -⟩
    exact ⟨parts, hparts, hitems⟩
  · rintro ⟨parts, hparts, hitems⟩
    exact ⟨_, parts, hparts, hitems, rfl⟩

/-- The record that the item of an entry is read from. -/
def entryRecord (path name : Text) (tags : List Text) : List (Value × Value) :=
  [(.text "path".toList, .text path), (.text "name".toList, .text name),
    (.text "tags".toList, .set (tags.map .text))]

section Records

variable {kind : ItemKind} {path name : Text} {tags : List Text} {i : Item}

theorem lookup_path :
    Value.lookup (entryRecord path name tags) "path".toList = some (.text path) := rfl

theorem lookup_name :
    Value.lookup (entryRecord path name tags) "name".toList = some (.text name) := rfl

theorem lookup_tags :
    Value.lookup (entryRecord path name tags) "tags".toList = some (.set (tags.map .text)) := rfl

theorem lookup_parent :
    Value.lookup (entryRecord path name tags) "parent_path".toList = none := rfl

/-- The parent follows from the path, and the name is the one given. -/
theorem derive_entryRecord (hpath : Path.normalize path ≠ []) (hname : name ≠ []) :
    Item.derive (entryRecord path name tags) = some
      { name? := none, parent? := some (if Path.normalize path = Path.root then none
          else some (Path.parent (Path.normalize path))) } := by
  rw [Item.derive, lookup_path, lookup_name, lookup_parent]
  simp [hpath, hname, Value.isVoid]

/-- The path of an entry is normalised like any other. -/
theorem pathIn_entryRecord {p : Text} : Item.pathIn (entryRecord path name tags) = .ok p ↔
    Path.normalize path ≠ [] ∧ p = Path.normalize path :=
  Item.pathIn_eq_ok_iff lookup_path

/-- **The item of an entry** stands under the normalised path, if anything is left of it. -/
theorem itemOf_eq_ok_iff (hname : name ≠ []) : itemOf kind path name tags = .ok i ↔
    Path.normalize path ≠ [] ∧ i = ⟨Path.normalize path, name, kind,
      if Path.normalize path = Path.root then none else some (Path.parent (Path.normalize path)),
      if kind = .folder then [] else Item.tagSet tags⟩ := by
  rw [itemOf, Except.mapError_eq_ok, ← entryRecord, Item.ofEntries_ok_iff]
  by_cases hpath : Path.normalize path = []
  · exact iff_of_false (fun h => (pathIn_entryRecord.mp h.path).1 hpath) fun h => h.1 hpath
  · -- the other fields have no faults
    have hderive := @derive_entryRecord path name tags hpath hname
    have hn : Item.nameIn (entryRecord path name tags) = .ok name := by
      rw [Item.nameIn, hderive]
      rfl
    have hpp : Item.parentIn (entryRecord path name tags) =
        .ok (if Path.normalize path = Path.root then none
          else some (Path.parent (Path.normalize path))) := by
      rw [Item.parentIn, hderive]
      rfl
    have ht : Item.tagsIn (entryRecord path name tags) (some kind) =
        .ok (if kind = .folder then [] else Item.tagSet tags) := by
      rw [Item.tagsIn, hderive, lookup_tags]
      cases kind with
      | file => exact Item.tagsOfValue_set
      | folder => rfl
    constructor
    · rintro ⟨hp, hn', hk, hpp', ht'⟩
      rw [hn, Except.ok.injEq] at hn'
      rw [hpp, Except.ok.injEq] at hpp'
      rw [ht, Except.ok.injEq] at ht'
      refine ⟨hpath, ?_⟩
      rw [hpp', ht', hn', ← (pathIn_entryRecord.mp hp).2, Except.ok.inj hk]
    · rintro ⟨-, rfl⟩
      exact ⟨pathIn_entryRecord.mpr ⟨hpath, rfl⟩, hn, rfl, hpp, ht⟩

end Records

end Snapshot

end TreeSieve
