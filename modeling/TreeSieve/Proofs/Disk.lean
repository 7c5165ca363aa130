import Mathlib.Data.List.Basic
import Mathlib.Data.List.Infix
import TreeSieve.Disk
import TreeSieve.Proofs.Parts
import TreeSieve.Proofs.Prelude

/-!
# Proofs — Disk

What names lead to from a folder of a disk.

A disk is *orderly* (`IsOrderly`) when it is what a file system can hold: one entry at a path, in a
folder that is there, listable or not, under a name that is one.

* `IsOrderly.mem_children`: then `children` lists the entries that stand in a folder.
* `IsOrderly.isEnd_walk`: a walk ends at an entry, or in a folder where a name is missing, and only
  a walk that does not follow its last name ends at a link.
* `IsOrderly.isWay_iff`: names are a way through folders that can be listed just when they lead
  somewhere and neither a link nor another folder lies on the way.
* `below_lt`: fewer entries lie below a subfolder than below the folder.
-/

namespace TreeSieve.Disk

/-- A text that an entry can be named by. -/
structure IsName (n : Text) : Prop where
  ne_nil : n ≠ []
  slash : '/' ∉ n
  ne_here : n ≠ ['.']
  ne_up : n ≠ "..".toList

/-- A disk that a file system can hold. -/
structure IsOrderly (d : Disk) : Prop where
  nodup : (d.map Prod.fst).Nodup
  isName : ∀ x ∈ d, ∀ n ∈ x.1, IsName n
  ne_root : ∀ x ∈ d, x.1 ≠ []
  around : ∀ x ∈ d, d.isFolderAt x.1.dropLast = true

instance (n : Text) : Decidable (IsName n) :=
  decidable_of_iff (n ≠ [] ∧ '/' ∉ n ∧ n ≠ ['.'] ∧ n ≠ "..".toList)
    ⟨fun ⟨h₁, h₂, h₃, h₄⟩ => ⟨h₁, h₂, h₃, h₄⟩, fun ⟨h₁, h₂, h₃, h₄⟩ => ⟨h₁, h₂, h₃, h₄⟩⟩

instance (d : Disk) : Decidable d.IsOrderly :=
  decidable_of_iff ((d.map Prod.fst).Nodup ∧ (∀ x ∈ d, ∀ n ∈ x.1, IsName n) ∧ (∀ x ∈ d, x.1 ≠ []) ∧
      ∀ x ∈ d, d.isFolderAt x.1.dropLast = true)
    ⟨fun ⟨h₁, h₂, h₃, h₄⟩ => ⟨h₁, h₂, h₃, h₄⟩, fun ⟨h₁, h₂, h₃, h₄⟩ => ⟨h₁, h₂, h₃, h₄⟩⟩

variable {d : Disk} {place names : List Text} {n : Text} {e : DiskEntry} {follow mayMiss : Bool}
  {links : Nat}

/-! ### Entries -/

/-- The folders of a disk are those that can be listed and those that cannot. -/
theorem isFolderAt_iff {p : List Text} : d.isFolderAt p = true ↔
    d.entry? p = some .folder ∨ ∃ passes, d.entry? p = some (.unlistable passes) := by
  rw [isFolderAt]
  rcases d.entry? p with _ | _ | _ | _ | _ | _ <;> simp [DiskEntry.isFolder]

theorem isFolderAt_of_folder {p : List Text} (h : d.entry? p = some .folder) :
    d.isFolderAt p = true :=
  isFolderAt_iff.mpr (.inl h)

/-- But for the root, the entries of a disk are what it is made of. -/
theorem entry?_eq_lookup (d : Disk) {p : List Text} (hp : p ≠ []) : d.entry? p = d.lookup p :=
  if_neg (by simpa using hp)

theorem mem_of_entry?_eq_some {p : List Text} (hp : p ≠ []) (h : d.entry? p = some e) :
    (p, e) ∈ d := by
  rw [entry?_eq_lookup d hp] at h
  obtain ⟨l₁, l₂, rfl, -⟩ := List.lookup_eq_some_iff.mp h
  exact List.mem_append_right _ List.mem_cons_self

theorem entry?_eq_some_of_mem (hnodup : (d.map Prod.fst).Nodup) {p : List Text} (hp : p ≠ [])
    (h : (p, e) ∈ d) : d.entry? p = some e := by
  rw [entry?_eq_lookup d hp, List.lookup_eq_some_iff]
  obtain ⟨l₁, l₂, rfl⟩ := List.append_of_mem h
  refine ⟨l₁, l₂, rfl, fun x hx => ?_⟩
  rw [List.map_append, List.map_cons, List.nodup_append] at hnodup
  simpa using (hnodup.2.2 x.1 (List.mem_map_of_mem hx) p List.mem_cons_self).symm

/-- An orderly disk has one entry at a path. -/
theorem IsOrderly.entry?_eq_some (hd : d.IsOrderly) {p : List Text} (h : (p, e) ∈ d) :
    d.entry? p = some e :=
  entry?_eq_some_of_mem hd.nodup (hd.ne_root _ h) h

/-- The folder around a folder is there. -/
theorem IsOrderly.isFolderAt_dropLast (hd : d.IsOrderly) (h : d.isFolderAt place = true) :
    d.isFolderAt place.dropLast = true := by
  obtain rfl | hne := eq_or_ne place []
  · rfl
  · obtain he | ⟨passes, he⟩ := isFolderAt_iff.mp h <;>
      exact hd.around _ (mem_of_entry?_eq_some hne he)

theorem IsOrderly.isName_of_entry?_eq_some (hd : d.IsOrderly)
    (h : d.entry? (place ++ [n]) = some e) : IsName n :=
  hd.isName _ (mem_of_entry?_eq_some (by simp) h) n (by simp)

/-- An entry as one of a folder, if it is there. -/
def child? (place : List Text) : List Text × DiskEntry → Option (Text × DiskEntry)
  | (p, e) => match p.getLast? with
    | some name => if p.dropLast = place then some (name, e) else none
    | none => none

theorem child?_eq_some {x : List Text × DiskEntry} :
    child? place x = some (n, e) ↔ x = (place ++ [n], e) := by
  obtain ⟨p, f⟩ := x
  rcases List.eq_nil_or_concat p with rfl | ⟨q, m, rfl⟩
  · simp [child?]
  · simp only [child?, List.concat_eq_append, List.getLast?_concat, List.dropLast_concat]
    rw [Option.ite_none_right_eq_some, Option.some_inj, Prod.mk.injEq, Prod.mk.injEq,
      ← List.concat_eq_append, ← List.concat_eq_append, List.concat_inj, and_assoc]

theorem mem_children : (n, e) ∈ d.children place ↔ (place ++ [n], e) ∈ d := by
  change (n, e) ∈ d.filterMap (child? place) ↔ _
  simp only [List.mem_filterMap, child?_eq_some, exists_eq_right]

theorem IsOrderly.mem_children (hd : d.IsOrderly) :
    (n, e) ∈ d.children place ↔ d.entry? (place ++ [n]) = some e :=
  Disk.mem_children.trans ⟨hd.entry?_eq_some, mem_of_entry?_eq_some (by simp)⟩

theorem IsOrderly.mem_list? (hd : d.IsOrderly) : (n, e) ∈ (d.list? place).getD [] ↔
    d.entry? place = some .folder ∧ d.entry? (place ++ [n]) = some e := by
  rw [list?, ← hd.mem_children]
  split
  · next hplace => simp [hplace]
  · next hplace => exact iff_of_false List.not_mem_nil fun h => hplace h.1

/-- No two entries of a folder have one name. -/
theorem IsOrderly.nodup_children (hd : d.IsOrderly) (place : List Text) :
    ((d.children place).map Prod.fst).Nodup := by
  refine List.pairwise_map.mpr (List.Pairwise.filterMap _ ?_ (List.pairwise_map.mp hd.nodup))
  rintro ⟨p, e⟩ ⟨q, f⟩ hpq ⟨n, e'⟩ hn ⟨m, f'⟩ hm rfl
  exact hpq (by rw [(Prod.mk.inj (child?_eq_some.mp hn)).1, (Prod.mk.inj (child?_eq_some.mp hm)).1])

theorem IsOrderly.nodup_list? (hd : d.IsOrderly) (place : List Text) :
    (((d.list? place).getD []).map Prod.fst).Nodup := by
  rw [list?]
  split
  · exact hd.nodup_children place
  · exact List.nodup_nil

/-! ### Ways -/

/-- The names lead from a folder to something, links on the way being followed. -/
def Leads (d : Disk) (place names : List Text) : Prop :=
  names ≠ [] ∧ (∀ n ∈ names, n ≠ "..".toList) ∧
    ∃ q, d.walk false false linkLimit place names = .ok q

/-- The names lead from a folder to an entry, through folders alone that can be listed. -/
structure IsWay (d : Disk) (place names : List Text) : Prop where
  found : ∃ e, d.entry? (place ++ names) = some e
  folders : ∀ p, p <+: names → p ≠ names → d.entry? (place ++ p) = some .folder

/-- A folder on the way is entered. -/
theorem walk_cons (hn : n ≠ "..".toList) (h : d.entry? (place ++ [n]) = some .folder) :
    d.walk follow mayMiss links place (n :: names) =
      d.walk follow mayMiss links (place ++ [n]) names := by
  rw [walk, if_neg hn]
  simp only [h]

/-- A path that is one is led along by its names. -/
theorem lead_eq_walk {here : List Text} {p : Text} (hnul : '\x00' ∉ p)
    (hlong : (Text.Utf8.encode p).length ≤ pathLimit) : d.lead follow mayMiss here p =
      d.walk follow mayMiss linkLimit (if (steps p).1 then [] else here) (steps p).2 := by
  rw [lead, if_neg (by simpa using hnul), if_neg (Nat.not_lt.mpr hlong)]

/-- A path that leads somewhere has no mark of the end of texts in it, and is not too long. -/
theorem isPath_of_lead {here q : List Text} {p : Text} (h : d.lead follow mayMiss here p = .ok q) :
    '\x00' ∉ p ∧ (Text.Utf8.encode p).length ≤ pathLimit := by
  rw [lead] at h
  split at h
  · cases h
  · next hnul =>
    split at h
    · cases h
    · next hlong => exact ⟨by simpa using hnul, Nat.not_lt.mp hlong⟩

/-- A path that leads somewhere is led along by its names. -/
theorem lead_eq_ok {here q : List Text} {p : Text} (h : d.lead follow mayMiss here p = .ok q) :
    d.walk follow mayMiss linkLimit (if (steps p).1 then [] else here) (steps p).2 = .ok q := by
  obtain ⟨hnul, hlong⟩ := isPath_of_lead h
  rwa [lead_eq_walk hnul hlong] at h

/-- A path of one name leads to the folder of this name. -/
theorem locate_name {p : Text} (hp : steps p = (false, [n])) (hnul : '\x00' ∉ p)
    (hlong : (Text.Utf8.encode p).length ≤ pathLimit) (hn : n ≠ "..".toList)
    (h : d.entry? [n] = some .folder) : d.locate [] p = .ok [n] := by
  have hwalk : d.walk true false linkLimit [] [n] = .ok [n] := by
    rw [walk_cons hn h, walk]
    rfl
  rw [locate, lead_eq_walk hnul hlong, hp]
  exact hwalk

theorem resolve_cons (hn : n ≠ "..".toList) (h : d.entry? (place ++ [n]) = some .folder) :
    d.resolve place (n :: names) = d.resolve (place ++ [n]) names := by
  rw [resolve, walk_cons hn h, ← resolve]

/-- An entry of a folder that is no link is resolved to what is seen of it. -/
theorem resolve_name (hn : n ≠ "..".toList) (h : d.entry? (place ++ [n]) = some e)
    (hlink : ∀ target, e ≠ .link target) : d.resolve place [n] = d.look (place ++ [n]) := by
  have hwalk : d.walk true false linkLimit place [n] = .ok (place ++ [n]) := by
    rw [walk, if_neg hn]
    cases e with
    | link target => exact absurd rfl (hlink target)
    | _ => simp [h, walk]
  rw [resolve, hwalk]
  rfl

theorem resolve_folder (hn : n ≠ "..".toList) (h : d.isFolderAt (place ++ [n]) = true) :
    d.resolve place [n] = .ok .folder := by
  obtain he | ⟨passes, he⟩ := isFolderAt_iff.mp h <;>
    rw [resolve_name hn he (by simp), look, he]

theorem resolve_file {bytes : List UInt8} (hn : n ≠ "..".toList)
    (h : d.entry? (place ++ [n]) = some (.file bytes)) :
    d.resolve place [n] = .ok (.file bytes) := by
  rw [resolve_name hn h (by simp), look, h]

theorem resolve_unreadable {size : Nat} (hn : n ≠ "..".toList)
    (h : d.entry? (place ++ [n]) = some (.unreadable size)) :
    d.resolve place [n] = .ok (.unreadable size) := by
  rw [resolve_name hn h (by simp), look, h]

/-- Names of which a path can consist. -/
def AreSteps (names : List Text) : Prop := ∀ n ∈ names, n = "..".toList ∨ IsName n

theorem areSteps_components (p : Text) : AreSteps (Path.components p) := by
  intro n hn
  obtain ⟨hparts, hne⟩ := List.mem_filter.mp hn
  simp only [Bool.and_eq_true, Bool.not_eq_true', List.isEmpty_eq_false_iff, ne_eq,
    decide_eq_true_eq] at hne
  by_cases hup : n = "..".toList
  · exact .inl hup
  · exact .inr ⟨hne.1, Text.not_mem_of_mem_parts hparts, hne.2, hup⟩

/-- What can stand where a walk ends. -/
inductive IsEnd (d : Disk) (follow mayMiss : Bool) (q : List Text) : Prop where
  | folder : d.isFolderAt q = true → IsEnd d follow mayMiss q
  | file {bytes : List UInt8} : d.entry? q = some (.file bytes) → IsEnd d follow mayMiss q
  | unreadable {size : Nat} : d.entry? q = some (.unreadable size) → IsEnd d follow mayMiss q
  | link {target : Text} : follow = false → d.entry? q = some (.link target) →
    IsEnd d follow mayMiss q
  | missing {place : List Text} {n : Text} : mayMiss = true → q = place ++ [n] →
    d.isFolderAt place = true → IsName n → d.entry? q = none → IsEnd d follow mayMiss q

/-- Where a walk from a folder ends. -/
theorem IsOrderly.isEnd_walk (hd : d.IsOrderly) (hplace : d.isFolderAt place = true)
    (hnames : AreSteps names) {q : List Text}
    (h : d.walk follow mayMiss links place names = .ok q) : d.IsEnd follow mayMiss q := by
  -- along the walk: wherever it stands is a folder, and what is left are steps
  fun_induction walk d follow mayMiss links place names with
  | case1 =>
    rw [← Except.ok.inj h]
    exact .folder hplace
  | case2 _ place _ ih =>
    -- a step up leads to the folder around, which is there
    exact ih (hd.isFolderAt_dropLast hplace)
      (fun n hn => hnames n (List.mem_cons_of_mem _ hn)) h
  | case4 _ place n _ hup _ hnone _ hmiss =>
    rw [← Except.ok.inj h]
    exact .missing (Bool.and_eq_true_iff.mp hmiss).2 rfl hplace
      ((hnames n List.mem_cons_self).resolve_left hup) hnone
  | case6 _ _ _ _ _ _ hfolder ih =>
    exact ih (isFolderAt_of_folder hfolder) (fun n hn => hnames n (List.mem_cons_of_mem _ hn)) h
  | case7 _ _ _ _ _ _ passes hfolder _ ih =>
    exact ih (isFolderAt_iff.mpr (.inr ⟨passes, hfolder⟩))
      (fun n hn => hnames n (List.mem_cons_of_mem _ hn)) h
  | case9 _ _ _ _ _ _ bytes hfile =>
    rw [← Except.ok.inj h]
    exact .file hfile
  | case11 _ _ _ _ _ _ size hfile =>
    rw [← Except.ok.inj h]
    exact .unreadable hfile
  | case13 _ _ _ _ _ _ target hlink hlast =>
    rw [← Except.ok.inj h]
    exact .link (by simpa using (Bool.and_eq_true_iff.mp hlast).2) hlink
  | case15 _ _ _ _ _ target _ _ _ _ _ hsteps ih =>
    -- a link is followed from the root or from the folder it stands in
    refine ih ?_ (fun n hn => ?_) h
    · split
      · rfl
      · exact hplace
    · rcases List.mem_append.mp hn with hn | hn
      · rw [← (Prod.mk.inj hsteps).2] at hn
        exact areSteps_components target n hn
      · exact hnames n (List.mem_cons_of_mem _ hn)
  | case3 | case5 | case8 | case10 | case12 | case14 => cases h

/-- What a path leads to is no link, and of a folder it does not show whether it can be listed. -/
theorem IsOrderly.resolve_cases (hd : d.IsOrderly) (hplace : d.isFolderAt place = true)
    (hnames : AreSteps names) (h : d.resolve place names = .ok e) :
    e = .folder ∨ (∃ bytes, e = .file bytes) ∨ ∃ size, e = .unreadable size := by
  obtain ⟨q, hq, hlook⟩ := Except.bind_eq_ok.mp h
  rw [look] at hlook
  cases hd.isEnd_walk hplace hnames hq with
  | folder he =>
    left
    obtain he | ⟨passes, he⟩ := isFolderAt_iff.mp he <;>
      rw [he] at hlook <;> exact (Except.ok.inj hlook).symm
  | file he =>
    rw [he] at hlook
    exact .inr (.inl ⟨_, (Except.ok.inj hlook).symm⟩)
  | unreadable he =>
    rw [he] at hlook
    exact .inr (.inr ⟨_, (Except.ok.inj hlook).symm⟩)
  | link hfollow => cases hfollow
  | missing hmiss => cases hmiss

/-- The prefixes of a list but the empty one. -/
theorem forall_prefix_cons {P : List Text → Prop} :
    (∀ p, p <+: n :: names → p ≠ [] → P p) ↔ P [n] ∧ ∀ p, p <+: names → p ≠ [] → P (n :: p) := by
  constructor
  · exact fun h => ⟨h [n] ((List.prefix_cons_inj n).mpr List.nil_prefix) (List.cons_ne_nil n []),
      fun p hp _ => h (n :: p) ((List.prefix_cons_inj n).mpr hp) (List.cons_ne_nil n p)⟩
  · rintro ⟨hn, h⟩ p hp hne
    obtain ⟨q, rfl, hq⟩ := (List.prefix_cons_iff.mp hp).resolve_left hne
    by_cases hq' : q = []
    · rwa [hq']
    · exact h q hq hq'

theorem isWay_nil : d.IsWay place [] ↔ ∃ e, d.entry? place = some e := by
  constructor
  · intro h
    simpa using h.found
  · exact fun h => ⟨by simpa using h, fun p hp hne => absurd (List.prefix_nil.mp hp) hne⟩

theorem isWay_cons : d.IsWay place (n :: names) ↔
    d.entry? place = some .folder ∧ d.IsWay (place ++ [n]) names := by
  have hassoc (p : List Text) : place ++ [n] ++ p = place ++ n :: p := by simp
  constructor
  · rintro ⟨hfound, hfolders⟩
    have hplace := hfolders [] List.nil_prefix (List.cons_ne_nil n names).symm
    rw [List.append_nil] at hplace
    refine ⟨hplace, ⟨by rwa [hassoc], fun p hp hp' => ?_⟩⟩
    rw [hassoc]
    exact hfolders _ ((List.prefix_cons_inj n).mpr hp) (by simpa using hp')
  · rintro ⟨hplace, hfound, hfolders⟩
    refine ⟨by rwa [hassoc] at hfound, fun p hp hne => ?_⟩
    obtain rfl | ⟨q, rfl, hq⟩ := List.prefix_cons_iff.mp hp
    · rwa [List.append_nil]
    · rw [← hassoc]
      exact hfolders q hq (by simpa using hne)

theorem isWay_singleton : d.IsWay place [n] ↔
    d.entry? place = some .folder ∧ ∃ e, d.entry? (place ++ [n]) = some e := by
  rw [isWay_cons, isWay_nil]

/-- No link stands at a path, and no folder that cannot be listed. -/
def IsClear (d : Disk) (p : List Text) : Prop :=
  (∀ target, d.entry? p ≠ some (.link target)) ∧ ∀ passes, d.entry? p ≠ some (.unlistable passes)

/-- Where the way is clear, a walk is a way through folders alone. -/
theorem walk_ok_iff (hplace : d.entry? place = some .folder) (hup : ∀ n ∈ names, n ≠ "..".toList)
    (hne : names ≠ [])
    (hclear : ∀ p, p <+: names → p ≠ [] → p ≠ names → d.IsClear (place ++ p)) :
    (∃ q, d.walk false false links place names = .ok q) ↔ d.IsWay place names := by
  induction names generalizing place with
  | nil => exact absurd rfl hne
  | cons n names ih =>
    have hn := hup n List.mem_cons_self
    by_cases hnames : names = []
    · rw [hnames, isWay_singleton, and_iff_right hplace, walk, if_neg hn]
      cases he : d.entry? (place ++ [n]) with
      | none => by_cases hlong : nameLimit < (Text.Utf8.encode n).length <;> simp [he, hlong]
      | some e => cases e <;> simp [he, walk]
    · obtain ⟨hn', hclear⟩ := forall_prefix_cons.mp hclear
      obtain ⟨hlink, hunlistable⟩ := hn' (by simpa using Ne.symm hnames)
      rw [isWay_cons, and_iff_right hplace]
      by_cases hfolder : d.entry? (place ++ [n]) = some .folder
      · rw [walk_cons hn hfolder]
        refine ih hfolder (fun m hm => hup m (List.mem_cons_of_mem n hm)) hnames
          fun p hp hp' hp'' => ?_
        simpa using hclear p hp hp' (by simpa using hp'')
      · -- neither side goes past what is no folder
        refine iff_of_false ?_ fun hway => hfolder ?_
        · rintro ⟨q, hq⟩
          rw [walk, if_neg hn] at hq
          cases he : d.entry? (place ++ [n]) with
          | none =>
            by_cases hlong : nameLimit < (Text.Utf8.encode n).length <;>
              simp [he, hlong] at hq
          | some e =>
            cases e with
            | file | unreadable => simp [he, hnames] at hq
            | folder => exact hfolder he
            | unlistable passes => exact hunlistable passes he
            | link target => exact hlink target he
        · have h := hway.folders [] List.nil_prefix (Ne.symm hnames)
          rwa [List.append_nil] at h

/-- **Ways.**  The ways through folders that can be listed are the names that lead somewhere from one,
with no link and no other folder on the way. -/
theorem IsOrderly.isWay_iff (hd : d.IsOrderly) (hplace : d.isFolderAt place = true) (hne : names ≠ []) :
    d.IsWay place names ↔ d.Leads place names ∧
      ∀ p, p <+: names → p ≠ names → d.IsClear (place ++ p) := by
  constructor
  · intro h
    obtain ⟨e, he⟩ := h.found
    have hup : ∀ n ∈ names, n ≠ "..".toList := fun n hn =>
      (hd.isName _ (mem_of_entry?_eq_some (by simp [hne]) he) n (List.mem_append_right _ hn)).ne_up
    have hclear : ∀ p, p <+: names → p ≠ names → d.IsClear (place ++ p) := fun p hp hp' => by
      simp [IsClear, h.folders p hp hp']
    have hfolder := h.folders [] List.nil_prefix hne.symm
    rw [List.append_nil] at hfolder
    exact ⟨⟨hne, hup, (walk_ok_iff hfolder hup hne fun p hp _ => hclear p hp).mpr h⟩, hclear⟩
  · rintro ⟨⟨-, hup, h⟩, hclear⟩
    have hclear' := hclear [] List.nil_prefix hne.symm
    rw [List.append_nil] at hclear'
    have hfolder : d.entry? place = some .folder :=
      (isFolderAt_iff.mp hplace).resolve_right fun ⟨passes, he⟩ => hclear'.2 passes he
    exact (walk_ok_iff hfolder hup hne fun p hp _ => hclear p hp).mp h

/-! ### What lies below -/

/-- How many entries lie below a folder. -/
def below (d : Disk) (place : List Text) : Nat :=
  d.countP fun x => place.isPrefixOf x.1 && x.1 ≠ place

theorem below_le (d : Disk) (place : List Text) : d.below place ≤ d.length :=
  List.countP_le_length

theorem below_append (a b : Disk) (place : List Text) :
    below (a ++ b) place = a.below place + b.below place :=
  List.countP_append

/-- Below a folder there is more than below an entry in it. -/
theorem below_lt (h : d.entry? (place ++ [n]) = some e) :
    d.below (place ++ [n]) < d.below place := by
  obtain ⟨l₁, l₂, rfl⟩ := List.append_of_mem (mem_of_entry?_eq_some (by simp) h)
  have hle (l : Disk) : l.below (place ++ [n]) ≤ l.below place := by
    refine List.countP_mono_left fun x _ hx => ?_
    simp only [Bool.and_eq_true, List.isPrefixOf_iff_prefix, decide_eq_true_eq] at hx ⊢
    refine ⟨(List.prefix_append _ _).trans hx.1, fun heq => ?_⟩
    have hlength := hx.1.length_le
    rw [heq, List.length_append, List.length_singleton] at hlength
    omega
  -- the entry itself lies below the folder, but not below itself
  have hself : below ((place ++ [n], e) :: l₂) (place ++ [n]) = below l₂ (place ++ [n]) :=
    List.countP_cons_of_neg (by simp)
  have hplace : below ((place ++ [n], e) :: l₂) place = below l₂ place + 1 :=
    List.countP_cons_of_pos (by simp [List.isPrefixOf_iff_prefix])
  have h₁ := hle l₁
  have h₂ := hle l₂
  rw [below_append, below_append, hself, hplace]
  omega

end TreeSieve.Disk
