import TreeSieve.Proofs.Classification

/-!
# Proofs — Visibility

In a snapshot that is a tree, what is shown hangs together.

A snapshot is a tree (`IsTree`) when each item lies in the folder that its path says, and whatever
lies around another item is a folder, as is the root.  An item is shown because it matches, because
it is a folder on the way to a match, or because it lies in a folder that matches; in each case all
its ancestors are accepted folders or on the way (`ancestor_onTheWay`).

* `shown_ancestors_shown`: what lies around a shown path is shown; the root is never a match itself,
  and it is shown exactly when something matches, which is exactly when anything is shown.
-/

namespace TreeSieve.Filter

open TreeSieve.Path (root ancestors)

variable {s : Search} {items : List Item}

/-- Each item lies in the folder that its path says, what lies around another item is a folder, and
so is the root. -/
structure IsTree (items : List Item) : Prop where
  lies : ∀ i ∈ items, i.parent? = if i.path = root then none else some (Path.parent i.path)
  around : ∀ i ∈ items, ∀ j ∈ items, i.path ∈ ancestors j.path → i.isFolder = true
  top : ∀ i ∈ items, i.path = root → i.isFolder = true

theorem IsTree.parent_eq (h : IsTree items) {i : Item} (hi : i ∈ items) (hr : i.path ≠ root) :
    i.parent = Path.parent i.path := by
  have hp := h.lies i hi
  rw [if_neg hr] at hp
  rw [Item.parent, hp]
  exact if_neg (by simpa using Path.parent_ne_nil i.path)

/-! ### The chain above a shown item -/

theorem onTheWay_of_mem_ancestors {p q : Text} (hp : p ∈ onTheWay s items) (hq : q ∈ ancestors p) :
    q ∈ onTheWay s items := by
  rcases mem_onTheWay.mp hp with h | ⟨r, hr, h⟩ | ⟨r, hr, h⟩
  · exact mem_onTheWay.mpr (.inr (.inl ⟨p, h, hq⟩))
  · exact mem_onTheWay.mpr (.inr (.inl ⟨r, hr, Path.mem_ancestors_trans h hq⟩))
  · exact mem_onTheWay.mpr (.inr (.inr ⟨r, hr, Path.mem_ancestors_trans h hq⟩))

theorem onTheWay_of_matchedFolder {p q : Text} (hp : p ∈ matchedFolders s items)
    (hq : q ∈ ancestors p) : q ∈ onTheWay s items :=
  mem_onTheWay.mpr (.inr (.inr ⟨p, hp, hq⟩))

/-- Around an accepted file, its parent and what lies around that is on the way. -/
theorem onTheWay_of_acceptedFile {i : Item} (hi : i ∈ acceptedFiles s items) {q : Text}
    (hq : q = i.parent ∨ q ∈ ancestors i.parent) : q ∈ onTheWay s items := by
  have hplace : i.parent ∈ matchedPlaces s items := List.mem_map_of_mem hi
  rcases hq with rfl | hq
  · exact mem_onTheWay.mpr (.inl hplace)
  · exact mem_onTheWay.mpr (.inr (.inl ⟨i.parent, hplace, hq⟩))

/-- **The chain above a shown item**: each of its ancestors is an accepted folder or on the way. -/
theorem ancestor_onTheWay (h : IsTree items) {x : Item} (hx : x ∈ items)
    (hs : (verdict s items x).shown = true) {q : Text} (hq : q ∈ ancestors x.path) :
    q ∈ matchedFolders s items ∨ q ∈ onTheWay s items := by
  rcases shown_verdict.mp hs with hx' | hx' | ⟨-, hx'⟩ | ⟨hr, hx'⟩
  · exact .inr (onTheWay_of_matchedFolder hx' hq)
  · obtain ⟨i, hi, hp⟩ := List.mem_map.mp hx'
    have hi' := mem_acceptedFiles.mp hi
    refine .inr (onTheWay_of_acceptedFile hi ?_)
    rw [h.parent_eq hi'.1 hi'.2.1, ← Path.mem_ancestors hi'.2.1, hp]
    exact hq
  · exact .inr (onTheWay_of_mem_ancestors hx' hq)
  · have hne : x.path ≠ root := by simpa [Item.isRoot] using hr
    rw [h.parent_eq hx hne] at hx'
    rcases (Path.mem_ancestors hne).mp hq with rfl | hq
    · exact .inl hx'
    · exact .inr (onTheWay_of_matchedFolder hx' hq)

/-- As soon as something is accepted, the root is on the way. -/
theorem root_onTheWay {p : Text} (h : p ∈ matchedFolders s items ∨ p ∈ matchedFiles s items) :
    root ∈ onTheWay s items := by
  rcases h with h | h
  · obtain ⟨i, -, rfl, hr, -⟩ := mem_matchedFolders.mp h
    exact onTheWay_of_matchedFolder h (Path.root_mem_ancestors hr)
  · obtain ⟨i, hi, rfl⟩ := List.mem_map.mp h
    refine onTheWay_of_acceptedFile hi ?_
    by_cases hr : i.parent = root
    · exact .inl hr.symm
    · exact .inr (Path.root_mem_ancestors hr)

/-- As soon as something is shown, something is accepted. -/
theorem exists_match_of_shown {x : Item} (h : (verdict s items x).shown = true) :
    ∃ p, p ∈ matchedFolders s items ∨ p ∈ matchedFiles s items := by
  rcases shown_verdict.mp h with h | h | ⟨-, h⟩ | ⟨-, h⟩
  · exact ⟨_, .inl h⟩
  · exact ⟨_, .inr h⟩
  · have hfile : ∀ {r : Text}, r ∈ matchedPlaces s items →
        ∃ p, p ∈ matchedFolders s items ∨ p ∈ matchedFiles s items := fun hr => by
      obtain ⟨i, hi, -⟩ := List.mem_map.mp hr
      exact ⟨i.path, .inr (List.mem_map_of_mem hi)⟩
    rcases mem_onTheWay.mp h with h | ⟨r, hr, -⟩ | ⟨r, hr, -⟩
    · exact hfile h
    · exact hfile hr
    · exact ⟨r, .inl hr⟩
  · exact ⟨_, .inl h⟩

/-! ### The decisions of a pass -/

/-- A decision is the verdict on an item with its path. -/
theorem verdict_of_get? {p : Text} {d : Decision} (h : (decide s items).get? p = some d) :
    ∃ x ∈ items, x.path = p ∧ d = verdict s items x := by
  rw [get?_decide] at h
  obtain ⟨x, hx, rfl⟩ := Option.map_eq_some_iff.mp h
  have hmem := List.mem_filter.mp (List.mem_of_getLast? hx)
  exact ⟨x, hmem.1, by simpa using hmem.2, rfl⟩

/-- A path that matches has a decision, and it says so. -/
theorem get?_of_match {p : Text}
    (h : p ∈ matchedFolders s items ∨ p ∈ matchedFiles s items) :
    ∃ d, (decide s items).get? p = some d ∧ d.isDirect = true := by
  have hp : ∃ i ∈ items, i.path = p := by
    rcases h with h | h
    · obtain ⟨i, hi, hp, -⟩ := mem_matchedFolders.mp h
      exact ⟨i, hi, hp⟩
    · obtain ⟨i, hi, hp⟩ := List.mem_map.mp h
      exact ⟨i, (mem_acceptedFiles.mp hi).1, hp⟩
  obtain ⟨i, hi, hip⟩ := hp
  have hne : items.filter (·.path = p) ≠ [] :=
    List.ne_nil_of_mem (List.mem_filter.mpr ⟨hi, by simpa using hip⟩)
  have hget := get?_decide s items p
  rw [List.getLast?_eq_some_getLast hne] at hget
  refine ⟨_, hget, isDirect_verdict.mpr ?_⟩
  have hlast := (List.mem_filter.mp (List.getLast_mem hne)).2
  rw [show (List.getLast _ hne).path = p by simpa using hlast]
  exact h

/-- A path that no accepted folder has is found as a file when an accepted file has it. -/
theorem get?_eq_fileMatch_iff {p : Text} (h : p ∉ matchedFolders s items) :
    (decide s items).get? p = some .fileMatch ↔ p ∈ matchedFiles s items := by
  constructor
  · intro hd
    obtain ⟨x, -, rfl, hx⟩ := verdict_of_get? hd
    rw [verdict, if_neg h] at hx
    split at hx
    · next hmem => exact hmem
    · split at hx
      · cases hx
      · split at hx <;> cases hx
  · intro hp
    obtain ⟨d, hd, -⟩ := get?_of_match (.inr hp)
    obtain ⟨x, -, rfl, hx⟩ := verdict_of_get? hd
    rw [hd, hx, verdict, if_neg h, if_pos hp]

/-- What lies around a shown item of a tree is shown. -/
theorem shown_of_mem_ancestors (h : IsTree items) {p q : Text} {d e : Decision}
    (hd : (decide s items).get? p = some d) (hs : d.shown = true) (hq : q ∈ ancestors p)
    (he : (decide s items).get? q = some e) : e.shown = true := by
  obtain ⟨x, hx, rfl, rfl⟩ := verdict_of_get? hd
  obtain ⟨y, hy, rfl, rfl⟩ := verdict_of_get? he
  rcases ancestor_onTheWay h hx hs hq with hm | hm
  · exact shown_verdict.mpr (.inl hm)
  · exact shown_verdict.mpr (.inr (.inr (.inl ⟨h.around y hy x hx hq, hm⟩)))

theorem root_not_direct {d : Decision} (h : (decide s items).get? root = some d) :
    d.isDirect = false := by
  obtain ⟨x, -, hx, rfl⟩ := verdict_of_get? h
  rw [Bool.eq_false_iff, ne_eq, isDirect_verdict, hx]
  rintro (hm | hm)
  · obtain ⟨i, -, hp, hr, -⟩ := mem_matchedFolders.mp hm
    exact hr hp
  · obtain ⟨i, hi, hp⟩ := List.mem_map.mp hm
    exact (mem_acceptedFiles.mp hi).2.1 hp

/-- When something is shown, something matches. -/
theorem exists_direct_of_shown {p : Text} {d : Decision}
    (hd : (decide s items).get? p = some d) (hs : d.shown = true) :
    ∃ q e, (decide s items).get? q = some e ∧ e.isDirect = true := by
  obtain ⟨x, -, -, rfl⟩ := verdict_of_get? hd
  obtain ⟨q, hq⟩ := exists_match_of_shown hs
  obtain ⟨e, he, hdir⟩ := get?_of_match hq
  exact ⟨q, e, he, hdir⟩

/-- When something matches, the root of a tree is shown. -/
theorem root_shown_of_direct (h : IsTree items) {p : Text} {d e : Decision}
    (hd : (decide s items).get? p = some d) (hs : d.isDirect = true)
    (he : (decide s items).get? root = some e) : e.shown = true := by
  obtain ⟨x, -, -, rfl⟩ := verdict_of_get? hd
  obtain ⟨y, hy, hroot, rfl⟩ := verdict_of_get? he
  refine shown_verdict.mpr (.inr (.inr (.inl ⟨h.top y hy hroot, ?_⟩)))
  rw [hroot]
  exact root_onTheWay (isDirect_verdict.mp hs)

/-- Each item has a decision under its path. -/
theorem exists_get? {p : Text} (h : p ∈ items.map (·.path)) :
    ∃ d, (decide s items).get? p = some d := by
  obtain ⟨i, hi, hp⟩ := List.mem_map.mp h
  have hne : items.filter (·.path = p) ≠ [] :=
    List.ne_nil_of_mem (List.mem_filter.mpr ⟨hi, by simpa using hp⟩)
  rw [get?_decide, List.getLast?_eq_some_getLast hne]
  exact ⟨_, rfl⟩

/-- **What is shown hangs together.**  In a pass that gives a map for a snapshot that is a tree, each
path around a shown path that is in the snapshot has a decision, and is shown.  The root, if it is in
the snapshot, has one too: it is no match, and it is shown exactly when some path matches, and exactly
when any path is shown. -/
theorem shown_ancestors_shown (settings : Settings) (items : List Item) (q : Query)
    (cache : Regex.Cache) (m : DecisionMap) (hq : q.isBlank = false) (h : IsTree items)
    (hm : (evaluate settings items q cache).1 = .ok m) :
    (∀ p d, m.get? p = some d → d.shown = true → ∀ a ∈ ancestors p, a ∈ items.map (·.path) →
      ∃ e, m.get? a = some e ∧ e.shown = true) ∧
    (root ∈ items.map (·.path) → ∃ d, m.get? root = some d ∧ d.isDirect = false ∧
      (d.shown = true ↔ ∃ p e, m.get? p = some e ∧ e.isDirect = true) ∧
      (d.shown = true ↔ ∃ p e, m.get? p = some e ∧ e.shown = true)) := by
  obtain ⟨s, -, -, rfl⟩ := exists_search_of_evaluate hq hm
  refine ⟨fun p d hd hsh a ha hmem => ?_, fun hmem => ?_⟩
  · obtain ⟨e, he⟩ := exists_get? hmem
    exact ⟨e, he, shown_of_mem_ancestors h hd hsh ha he⟩
  obtain ⟨d, hd⟩ := exists_get? hmem
  refine ⟨d, hd, root_not_direct hd, ⟨exists_direct_of_shown hd, ?_⟩, ⟨fun hsh => ?_, ?_⟩⟩
  · rintro ⟨p, e, he, hdir⟩
    exact root_shown_of_direct h he hdir hd
  · exact ⟨root, d, hd, hsh⟩
  · rintro ⟨p, e, he, hsh⟩
    obtain ⟨p', e', he', hdir⟩ := exists_direct_of_shown he hsh
    exact root_shown_of_direct h he' hdir hd

/-- A file in a folder in the root. -/
def smallTree : List Item :=
  [⟨root, [], .folder, none, []⟩, ⟨['a'], ['a'], .folder, some root, []⟩,
   ⟨['a', '/', 'b'], ['b'], .file, some ['a'], []⟩]

theorem isTree_smallTree : IsTree smallTree where
  lies := by decide
  top := by decide
  around := by
    have htop : ∀ i ∈ smallTree, i.path = root → i.isFolder = true := by decide
    have hshort : ∀ i ∈ smallTree, i.path.length < 3 → i.isFolder = true := by decide
    have hlen : ∀ j ∈ smallTree, j.path.length ≤ 3 := by decide
    intro i hi j hj hij
    rcases Path.eq_root_or_length_lt_of_mem_ancestors hij with h | h
    · exact htop i hi h
    · exact hshort i hi (Nat.lt_of_lt_of_le h (hlen j hj))

theorem shown_ancestors_shown_smallTree :
    IsTree smallTree ∧ ∃ m, (evaluate {} smallTree { terms := [['b']] } []).1 = .ok m ∧
      m.get? ['a', '/', 'b'] = some .fileMatch ∧ (∃ e, m.get? ['a'] = some e ∧ e.shown = true) ∧
      ∃ d, m.get? root = some d ∧ d.isDirect = false ∧ d.shown = true := by
  have hm : (evaluate {} smallTree { terms := [['b']] } []).1 =
      .ok (decide (Search.ofQuery { terms := [['b']] } false) smallTree) := rfl
  have hfile : (decide (Search.ofQuery { terms := [['b']] } false) smallTree).get?
      ['a', '/', 'b'] = some .fileMatch := by decide +kernel
  obtain ⟨hshown, hroot⟩ := shown_ancestors_shown {} smallTree { terms := [['b']] } [] _ rfl
    isTree_smallTree hm
  have hplace : ['a'] ∈ ancestors ['a', '/', 'b'] := by decide +kernel
  obtain ⟨d, hd, hdirect, -, hany⟩ := hroot (by decide)
  exact ⟨isTree_smallTree, _, hm, hfile, hshown _ _ hfile rfl _ hplace (by decide), d, hd, hdirect,
    hany.mpr ⟨_, _, hfile, rfl⟩⟩

end TreeSieve.Filter
