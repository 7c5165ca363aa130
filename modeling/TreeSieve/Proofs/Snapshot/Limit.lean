import TreeSieve.Proofs.Snapshot.Contents

/-!
# Proofs — Snapshot — Limit

A snapshot with a limit on its items is the start of the snapshot without one, and every start of a
snapshot is well formed: no two of its items have one path, and the folder around an item stands
before it.

* `parentsFirst_listing`: what is listed for a folder comes behind what is listed around it.
* `ofDisk_limited`: limits, and what holds of the items with a limit and without.
-/

namespace TreeSieve

/-- Names that lead through folders alone to a folder are resolved to it. -/
theorem Disk.resolve_of_folders {d : Disk} {place names : List Text}
    (hup : ∀ n ∈ names, n ≠ "..".toList) (hne : names ≠ [])
    (h : ∀ p, p <+: names → p ≠ [] → d.entry? (place ++ p) = some .folder) :
    d.resolve place names = .ok .folder := by
  induction names generalizing place with
  | nil => exact absurd rfl hne
  | cons n names ih =>
    obtain ⟨hn, h⟩ := Disk.forall_prefix_cons.mp h
    have hup' := hup n List.mem_cons_self
    by_cases hnames : names = []
    · rw [hnames]
      exact Disk.resolve_folder hup' (Disk.isFolderAt_of_folder hn)
    · rw [Disk.resolve_cons hup' hn]
      refine ih (fun m hm => hup m (List.mem_cons_of_mem n hm)) hnames fun p hp hp' => ?_
      have hp := h p hp hp'
      rwa [List.append_assoc, List.singleton_append]

namespace Snapshot

variable {o : Options} {d : Disk} {place around names here : List Text} {path : Text}

/-! ### Parents first -/

/-- Each entry of a list stands in a folder that is known or comes before it in the list. -/
def ParentsFirst : (known : List (List Text)) → List (List Text) → Prop
  | _, [] => True
  | known, names :: rest => names.dropLast ∈ known ∧ ParentsFirst (names :: known) rest

section ParentsFirst

variable {known known' l l₁ l₂ : List (List Text)}

theorem ParentsFirst.mono (h : ParentsFirst known l) (hsub : known ⊆ known') :
    ParentsFirst known' l := by
  induction l generalizing known known' with
  | nil => trivial
  | cons names l ih => exact ⟨hsub h.1, ih h.2 (List.cons_subset_cons names hsub)⟩

/-- Behind one list another one may count on what is in it. -/
theorem ParentsFirst.append (h₁ : ParentsFirst known l₁)
    (h₂ : ParentsFirst (l₁ ++ known) l₂) : ParentsFirst known (l₁ ++ l₂) := by
  induction l₁ generalizing known with
  | nil => exact h₂
  | cons names l₁ ih =>
    refine ⟨h₁.1, ih h₁.2 (h₂.mono ?_)⟩
    intro x hx
    simp only [List.cons_append, List.mem_cons, List.mem_append] at hx ⊢
    tauto

/-- Entries of folders that are known may stand in any order. -/
theorem ParentsFirst.of_forall (h : ∀ names ∈ l, names.dropLast ∈ known) :
    ParentsFirst known l := by
  induction l generalizing known with
  | nil => trivial
  | cons names l ih =>
    refine ⟨h names List.mem_cons_self, ih fun m hm => ?_⟩
    exact List.mem_cons_of_mem names (h m (List.mem_cons_of_mem names hm))

theorem ParentsFirst.flatMap {α : Type} {xs : List α} {f : α → List (List Text)}
    (h : ∀ x ∈ xs, ParentsFirst known (f x)) : ParentsFirst known (xs.flatMap f) := by
  induction xs with
  | nil => trivial
  | cons x xs ih =>
    rw [List.flatMap_cons]
    refine (h x List.mem_cons_self).append ?_
    exact (ih fun y hy => h y (List.mem_cons_of_mem x hy)).mono (List.subset_append_right _ _)

theorem ParentsFirst.dropLast_mem (h : ParentsFirst known (l₁ ++ names :: l₂)) :
    names.dropLast ∈ known ∨ names.dropLast ∈ l₁ := by
  induction l₁ generalizing known with
  | nil => exact .inl h.1
  | cons m l₁ ih =>
    rcases ih h.2 with hmem | hmem
    · rcases List.mem_cons.mp hmem with heq | hmem
      · exact .inr (heq ▸ List.mem_cons_self)
      · exact .inl hmem
    · exact .inr (List.mem_cons_of_mem m hmem)

end ParentsFirst

/-- **Order.**  What is listed in a subfolder comes behind the subfolder. -/
theorem parentsFirst_listing (o : Options) (d : Disk) (place around : List Text) :
    ParentsFirst [around] (listing o d place around) := by
  induction around using listing.induct d place with
  | case1 around ih =>
    have hkept (folders : Bool) : ∀ names ∈ (keptNames o d place around folders).map (around ++ [·]),
        names.dropLast ∈ [around] := by
      intro names hnames
      obtain ⟨n, -, rfl⟩ := List.mem_map.mp hnames
      rw [List.dropLast_concat]
      exact List.mem_singleton_self around
    rw [listing]
    refine (ParentsFirst.append (.of_forall (hkept true)) (.of_forall fun names hnames => ?_)).append
      (.flatMap fun n hn => ?_)
    · exact List.mem_append_right _ (hkept false names hnames)
    · split
      · next he =>
        -- the subfolder itself has been listed among the entries of its folder
        refine (ih n he).mono (List.cons_subset.mpr ⟨?_, List.nil_subset _⟩)
        exact List.mem_append_left _ (List.mem_append_left _ (List.mem_map_of_mem hn))
      · trivial

/-! ### Limits -/

/-- The limit on items has no part in what should be listed. -/
theorem listing_maxItems (o : Options) (d : Disk) (place around : List Text) (m : Nat) :
    listing { o with maxItems := m } d place around = listing o d place around := by
  induction around using listing.induct d place with
  | case1 around ih =>
    have hkept (folders : Bool) : keptNames { o with maxItems := m } d place around folders =
        keptNames o d place around folders := rfl
    rw [listing, listing, hkept, hkept]
    congr 1
    refine List.flatMap_congr fun n _ => ?_
    split
    · next he => exact ih n he
    · rfl

theorem makes_maxItems (o : Options) (m : Nat) : Makes { o with maxItems := m } = Makes o := by
  funext s i
  cases s <;> rfl

/-- The items of a snapshot of a folder, as far as there is room. -/
theorem ofDisk_maxItems_ok_iff (hd : d.IsOrderly) (hplace : d.locate here path = .ok place)
    (hfolder : d.isFolderAt place = true) {m : Nat} {items : List Item} :
    (∃ s, ofDisk { o with maxItems := m } d here path = .ok (items, s)) ↔
      ∃ rest, items = rootItem :: rest ∧ List.Forall₂ (fun names => Makes o (stepAt d place names))
        ((listing o d place []).take (m - 1)) rest := by
  rw [ofDisk_ok_iff hd hplace hfolder, listing_maxItems, makes_maxItems]

/-- What is no folder has no items, whatever the options are. -/
theorem ofDisk_of_not_folder {items : List Item} {s : Stats}
    (h : ofDisk o d here path = .ok (items, s))
    (hno : ¬ ∃ place, d.locate here path = .ok place ∧ d.isFolderAt place = true)
    (o' : Options) : items = [] ∧ ofDisk o' d here path = .ok ([], {}) := by
  rw [ofDisk, ofDiskAfter] at h ⊢
  cases hplace : d.locate here path with
  | error p =>
    rw [hplace] at h
    cases p <;> cases h <;> exact ⟨rfl, rfl⟩
  | ok place =>
    have hfolder : ¬ d.isFolderAt place = true := fun he => hno ⟨place, hplace, he⟩
    simp only [hplace, if_neg hfolder] at h ⊢
    cases h
    exact ⟨rfl, trivial⟩

/-- Names that are listed are known by their path. -/
theorem eq_of_join_eq (hd : d.IsOrderly) {names' : List Text}
    (h : names ∈ listing o d place []) (h' : names' ∈ listing o d place [])
    (hjoin : Text.join Path.root names = Text.join Path.root names') : names = names' := by
  have hparts {names : List Text} (h : names ∈ listing o d place []) :
      Text.parts '/' (Text.join Path.root names) = names := by
    obtain ⟨hne, e, he⟩ := exists_mem_of_mem_listing hd h
    refine Text.parts_join hne fun n hn => ?_
    exact (hd.isName _ he n (List.mem_append_right place hn)).slash
  rw [← hparts h, ← hparts h', hjoin]

/-- A listed entry that stands in a subfolder stands in one that is listed as a folder. -/
theorem resolve_dropLast (hd : d.IsOrderly) (h : names ∈ listing o d place [])
    (hne : names.dropLast ≠ []) : d.resolve place names.dropLast = .ok .folder := by
  obtain ⟨rest, heq, hnames, hway, -⟩ := (mem_listing_iff hd).mp h
  rw [List.nil_append] at heq
  subst heq
  rw [List.append_nil] at hway
  obtain ⟨e, he⟩ := hway.found
  have hproper {p : List Text} (hp : p <+: names.dropLast) : p ≠ names := by
    rintro rfl
    have hlength := hp.length_le
    have hpos := List.length_pos_iff.mpr hnames
    rw [List.length_dropLast] at hlength
    omega
  refine Disk.resolve_of_folders (fun n hn => ?_) hne fun p hp _ =>
    hway.folders p (hp.trans (List.dropLast_prefix _)) (hproper hp)
  refine (hd.isName _ (Disk.mem_of_entry?_eq_some (by simp [hnames]) he) n ?_).ne_up
  exact List.mem_append_right place (List.mem_of_mem_dropLast hn)

/-- The items of a snapshot are those of the first entries listed, as many as there is room for. -/
theorem exists_items (hd : d.IsOrderly) {items : List Item} {s : Stats}
    (hnormal : ∀ place, d.locate here path = .ok place → ∀ names ∈ listing o d place [],
      Path.normalize (Text.join Path.root names) = Text.join Path.root names)
    (h : ofDisk o d here path = .ok (items, s)) :
    items = [] ∨ ∃ place rest, items = rootItem :: rest ∧
      List.Forall₂ (IsItemAt d place) ((listing o d place []).take (o.maxItems - 1)) rest := by
  by_cases hfolder : ∃ place, d.locate here path = .ok place ∧ d.isFolderAt place = true
  · obtain ⟨place, hplace, hfolder⟩ := hfolder
    obtain ⟨rest, rfl, hrest⟩ := (ofDisk_ok_iff hd hplace hfolder).mp ⟨s, h⟩
    exact .inr ⟨place, rest, rfl, forall₂_isItemAt hd
      (fun names hmem => hnormal place hplace names (List.mem_of_mem_take hmem)) hrest⟩
  · exact .inl (ofDisk_of_not_folder h hfolder o).1

/-! ### Well-formed lists -/

section WellFormed

variable {k : Nat} {rest : List Item}
  (hrest : List.Forall₂ (IsItemAt d place) ((listing o d place []).take k) rest)

include hrest

theorem map_path_eq :
    rest.map Item.path = ((listing o d place []).take k).map (Text.join Path.root) := by
  have h : List.Forall₂ (· = ·) (((listing o d place []).take k).map (Text.join Path.root))
      (rest.map Item.path) := by
    rw [List.forall₂_map_left_iff, List.forall₂_map_right_iff]
    exact hrest.imp fun _ _ hitem => hitem.path.symm
  exact (List.forall₂_eq_eq_eq ▸ h).symm

/-- No two items have one path. -/
theorem nodup_path (hd : d.IsOrderly) : ((rootItem :: rest).map Item.path).Nodup := by
  have hlisted {names : List Text} (h : names ∈ (listing o d place []).take k) :
      names ∈ listing o d place [] := List.mem_of_mem_take h
  rw [List.map_cons, map_path_eq hrest, List.nodup_cons]
  constructor
  · intro hroot
    obtain ⟨names, hnames, hroot⟩ := List.mem_map.mp hroot
    obtain ⟨around, n, rfl, hn, -⟩ := exists_concat_of_mem_listing hd (hlisted hnames)
    exact (join_ne hn around).2 hroot
  · refine List.Nodup.map_on (fun x hx y hy hxy => ?_)
      ((List.take_sublist k _).nodup (nodup_listing hd o place []))
    exact eq_of_join_eq hd (hlisted hx) (hlisted hy) hxy

/-- The folder around an item stands before it. -/
theorem exists_parent_before (hd : d.IsOrderly) {before after : List Item} {i : Item}
    (h : rest = before ++ i :: after) :
    ∃ f ∈ rootItem :: before, f.isFolder = true ∧ f.path = i.parent := by
  subst h
  obtain ⟨bs, names, as, htake, hbs, hi⟩ := List.exists_left_of_append hrest
  have hlist : listing o d place [] =
      bs ++ names :: (as ++ (listing o d place []).drop k) := by
    rw [← List.cons_append, ← List.append_assoc, ← htake, List.take_append_drop]
  have hnames : names ∈ listing o d place [] := by
    rw [hlist]
    exact List.mem_append_right bs List.mem_cons_self
  by_cases hne : names.dropLast = []
  · refine ⟨rootItem, List.mem_cons_self, rfl, ?_⟩
    rw [Item.parent, hi.parent, if_pos hne]
    rfl
  · -- the folder around has been listed before, and not as the folder the snapshot starts from
    have hfirst := parentsFirst_listing o d place []
    rw [hlist] at hfirst
    have hmem : names.dropLast ∈ bs :=
      hfirst.dropLast_mem.resolve_left fun h => hne (List.mem_singleton.mp h)
    obtain ⟨f, hf, hitem⟩ := List.exists_right_of_mem hbs hmem
    refine ⟨f, List.mem_cons_of_mem rootItem hf, ?_, ?_⟩
    · rw [Item.isFolder, hitem.kind.mpr (resolve_dropLast hd hnames hne)]
      rfl
    · have hpath : Text.join Path.root names.dropLast ≠ [] := by
        have hlisted : names.dropLast ∈ listing o d place [] := by
          rw [hlist]
          exact List.mem_append_left _ hmem
        obtain ⟨around, n, haround, hn, -⟩ := exists_concat_of_mem_listing hd hlisted
        rw [haround]
        exact (join_ne hn around).1
      rw [hitem.path, Item.parent, hi.parent, if_neg hne]
      exact (if_neg (by simpa using hpath)).symm

end WellFormed

/-- **Limits.**  Let normalisation change no path of an entry listed for a folder, and let there be
room for the folder itself.  Then with a smaller limit a snapshot holds the first items of the same
snapshot with a greater one, and fails only if that fails.  With any limit, a snapshot of a disk has no
more items than the disk has entries and one for the folder itself, no two of them have one path, and
behind the root each stands behind a folder under the path of its parent. -/
theorem ofDisk_limited (hd : d.IsOrderly) (hroom : 0 < o.maxItems)
    (hnormal : ∀ place, d.locate here path = .ok place → ∀ names ∈ listing o d place [],
      Path.normalize (Text.join Path.root names) = Text.join Path.root names) :
    (∀ m whole s, o.maxItems ≤ m → ofDisk { o with maxItems := m } d here path = .ok (whole, s) →
      ∃ s', ofDisk o d here path = .ok (whole.take o.maxItems, s')) ∧
    ∀ items s, ofDisk o d here path = .ok (items, s) →
      items.length ≤ d.length + 1 ∧ (items.map Item.path).Nodup ∧
        ∀ before i after, items = before ++ i :: after → i.isRoot = false →
          ∃ f ∈ before, f.isFolder = true ∧ f.path = i.parent := by
  constructor
  · intro m whole s hm h
    by_cases hfolder : ∃ place, d.locate here path = .ok place ∧ d.isFolderAt place = true
    · obtain ⟨place, hplace, hfolder⟩ := hfolder
      obtain ⟨rest, rfl, hrest⟩ := (ofDisk_maxItems_ok_iff hd hplace hfolder).mp ⟨s, h⟩
      -- the smaller limit takes the first of what the greater one takes
      have hone : o.maxItems - 1 + 1 = o.maxItems := Nat.sub_add_cancel hroom
      have hmin : min (o.maxItems - 1) (m - 1) = o.maxItems - 1 := by omega
      refine (ofDisk_ok_iff hd hplace hfolder).mpr ⟨rest.take (o.maxItems - 1), ?_, ?_⟩
      · rw [← List.take_succ_cons, hone]
      · have htake := List.forall₂_take (o.maxItems - 1) hrest
        rwa [List.take_take, hmin] at htake
    · obtain ⟨rfl, hnone⟩ := ofDisk_of_not_folder h hfolder o
      exact ⟨_, by rw [List.take_nil, hnone]⟩
  · intro items s h
    obtain rfl | ⟨place, rest, rfl, hrest⟩ := exists_items hd hnormal h
    · simp
    · refine ⟨?_, nodup_path hrest hd, ?_⟩
      · have hlength := hrest.length_eq
        have := length_listing_le hd o place
        rw [List.length_take] at hlength
        rw [List.length_cons]
        omega
      · intro before i after heq hi
        rcases before with _ | ⟨r, before⟩
        · obtain ⟨rfl, -⟩ := List.cons.inj heq
          cases hi
        · obtain ⟨rfl, hrest'⟩ := List.cons.inj heq
          exact exists_parent_before hrest hd hrest'

theorem ofDisk_limited_sampleDisk :
    ∃ whole s s', ofDisk { ignore := [], maxItems := 9, rules := [] } sampleDisk [] "r".toList =
        .ok (whole, s) ∧
      ofDisk { ignore := [], maxItems := 3, rules := [] } sampleDisk [] "r".toList =
        .ok (whole.take 3, s') ∧
      whole.map Item.path = ["/", "alias", "node_modules", "Zoo", "b.txt", "node_modules/y",
        "Zoo/n.txt"].map (·.toList) ∧
      ((whole.take 3).map Item.path).Nodup := by
  have hd : sampleDisk.IsOrderly := by decide
  have hplace : sampleDisk.locate [] "r".toList = .ok ["r".toList] := by
    have h : sampleDisk.walk true false Disk.linkLimit [] ["r".toList] = .ok ["r".toList] := by
      rw [Disk.walk_cons (by decide) (by decide), Disk.walk, List.nil_append]
    exact h
  have hnormal : ∀ place, sampleDisk.locate [] "r".toList = .ok place →
      ∀ names ∈ listing { ignore := [], maxItems := 3, rules := [] } sampleDisk place [],
        Path.normalize (Text.join Path.root names) = Text.join Path.root names := by
    have hall : ∀ x ∈ sampleDisk, Path.normalize (Text.join Path.root x.1.tail) =
        Text.join Path.root x.1.tail := by decide
    intro place h names hnames
    obtain rfl := Except.ok.inj (hplace.symm.trans h)
    obtain ⟨-, e, he⟩ := exists_mem_of_mem_listing hd hnames
    exact hall _ he
  have hpaths : (ofDisk { ignore := [], maxItems := 9, rules := [] } sampleDisk [] "r".toList).map
      (fun r => r.1.map Item.path) = .ok (["/", "alias", "node_modules", "Zoo", "b.txt",
        "node_modules/y", "Zoo/n.txt"].map (·.toList)) := by cbv
  obtain ⟨hlimit, hformed⟩ := ofDisk_limited hd (by decide) hnormal
  cases hwhole : ofDisk { ignore := [], maxItems := 9, rules := [] } sampleDisk [] "r".toList with
  | error f =>
    rw [hwhole] at hpaths
    cases hpaths
  | ok r =>
    rw [hwhole] at hpaths
    obtain ⟨s', h⟩ := hlimit 9 r.1 r.2 (by decide) hwhole
    exact ⟨r.1, r.2, s', rfl, h, Except.ok.inj hpaths, (hformed _ _ h).2.1⟩

end Snapshot

end TreeSieve
