import TreeSieve.Filter

/-!
# Proofs — Ancestors

The walks upwards collect whole chains, in whatever order they are made.

A walk stops at the first folder already collected, although the folders above that one may still be
missing: the collection starts from seeds whose own walks come later.  What holds throughout is
`Linked`: a collected path is the root, or its parent is collected too, or its walk is still to come.
When no walk is to come, the collection is closed under `Path.parent`.

* `mem_ancestors_trans`: an ancestor of an ancestor is an ancestor.
* `mem_foldl_climb`: after walks from all members of the start and from further paths, a path is
  collected exactly when it was there from the start or is an ancestor of one of these paths.
* `mem_revealers`: the same for the folders that a search reveals.
-/

namespace TreeSieve

namespace Path

/-! ### The chain of ancestors -/

@[simp] theorem ancestors_root : ancestors root = [] := by
  rw [ancestors, dif_pos rfl]

/-- Around a path lie its parent and what lies around that. -/
theorem ancestors_of_ne {p : Text} (h : p ≠ root) :
    ancestors p = parent p :: ancestors (parent p) := by
  rw [ancestors, dif_neg h]

theorem mem_ancestors {p q : Text} (h : p ≠ root) :
    q ∈ ancestors p ↔ q = parent p ∨ q ∈ ancestors (parent p) := by
  rw [ancestors_of_ne h, List.mem_cons]

theorem parent_mem_ancestors {p : Text} (h : p ≠ root) : parent p ∈ ancestors p :=
  (mem_ancestors h).mpr (.inl rfl)

/-- The root lies around every other path. -/
theorem root_mem_ancestors {p : Text} (h : p ≠ root) : root ∈ ancestors p := by
  induction p using ancestors.induct with
  | case1 => exact absurd rfl h
  | case2 p hp _ ih =>
    by_cases hr : parent p = root
    · exact hr ▸ parent_mem_ancestors hp
    · exact (mem_ancestors hp).mpr (.inr (ih hr))

/-- What lies around a path around a path lies around it. -/
theorem mem_ancestors_trans {p q r : Text} (hq : q ∈ ancestors p) (hr : r ∈ ancestors q) :
    r ∈ ancestors p := by
  induction p using ancestors.induct with
  | case1 => simp at hq
  | case2 p hp _ ih =>
    refine (mem_ancestors hp).mpr (.inr ?_)
    rcases (mem_ancestors hp).mp hq with rfl | hq
    · exact hr
    · exact ih hq

/-- An ancestor is the root or a shorter text. -/
theorem eq_root_or_length_lt_of_mem_ancestors {p q : Text} (h : q ∈ ancestors p) :
    q = root ∨ q.length < p.length := by
  induction p using ancestors.induct with
  | case1 => simp at h
  | case2 p hp _ ih =>
    rcases (mem_ancestors hp).mp h with rfl | h
    · exact parent_eq_root_or_length_lt p
    · rcases ih h with hr | hq
      · exact .inl hr
      · rcases parent_eq_root_or_length_lt p with hr | hl
        · rw [hr] at h; simp at h
        · exact .inr (Nat.lt_trans hq hl)

/-- The parent of a text is never empty. -/
theorem parent_ne_nil (p : Text) : parent p ≠ [] := by
  unfold parent
  split
  · split
    · simp [root]
    · next h => simpa using h
  · simp [root]

end Path

namespace Filter

open TreeSieve.Path (root parent ancestors)

/-! ### One walk -/

theorem climb_root (found : List Text) : climb found root = found := by
  rw [climb, dif_pos rfl]

/-- A climb ends at once when the parent has been found. -/
theorem climb_of_mem {found : List Text} {p : Text} (h : parent p ∈ found) :
    climb found p = found := by
  rw [climb]
  split
  · rfl
  · rw [if_pos (List.contains_iff_mem.mpr h)]

/-- A climb to a parent that is new goes on from there. -/
theorem climb_of_not_mem {found : List Text} {p : Text} (hp : p ≠ root) (h : parent p ∉ found) :
    climb found p = climb (parent p :: found) (parent p) := by
  rw [climb, dif_neg hp, if_neg (fun hc => h (List.contains_iff_mem.mp hc))]

/-- What a walk collects: it keeps what is there, adds ancestors only, and adds the parent; and
whatever it adds has its parent there, unless it is the root. -/
theorem climb_spec (found : List Text) (p : Text) :
    found ⊆ climb found p
      ∧ (∀ x ∈ climb found p, x ∈ found ∨ x ∈ ancestors p)
      ∧ (p ≠ root → parent p ∈ climb found p)
      ∧ ∀ x ∈ climb found p, x ∈ found ∨ x = root ∨ parent x ∈ climb found p := by
  induction found, p using climb.induct with
  | case1 found =>
    rw [climb_root]
    exact ⟨fun _ h => h, fun _ h => .inl h, fun h => absurd rfl h, fun _ h => .inl h⟩
  | case2 found p hp hc =>
    have hmem : parent p ∈ found := List.contains_iff_mem.mp hc
    rw [climb_of_mem hmem]
    exact ⟨fun _ h => h, fun _ h => .inl h, fun _ => hmem, fun _ h => .inl h⟩
  | case3 found p hp hc _ ih =>
    have hmem : parent p ∉ found := fun h => hc (List.contains_iff_mem.mpr h)
    rw [climb_of_not_mem hp hmem]
    obtain ⟨hkeep, hnew, hparent, hlinked⟩ := ih
    refine ⟨fun x hx => hkeep (.tail _ hx), fun x hx => ?_, fun _ => hkeep (.head _),
      fun x hx => ?_⟩
    · rcases hnew x hx with h | h
      · rcases List.mem_cons.mp h with rfl | h
        · exact .inr (Path.parent_mem_ancestors hp)
        · exact .inl h
      · exact .inr ((Path.mem_ancestors hp).mpr (.inr h))
    · rcases hlinked x hx with h | h
      · rcases List.mem_cons.mp h with rfl | h
        · by_cases hr : parent p = root
          · exact .inr (.inl hr)
          · exact .inr (.inr (hparent hr))
        · exact .inl h
      · exact .inr h

/-- A climb loses nothing that was found. -/
theorem subset_climb (found : List Text) (p : Text) : found ⊆ climb found p :=
  (climb_spec found p).1

/-! ### Walks one after the other -/

/-- Each collected path is the root, or its parent is collected, or its walk is still to come. -/
def Linked (found pending : List Text) : Prop :=
  ∀ x ∈ found, x = root ∨ parent x ∈ found ∨ x ∈ pending

/-- **The invariant of the walks**: a walk keeps the collection linked, with one walk less to
come. -/
theorem Linked.climb {found pending : List Text} {p : Text} (h : Linked found (p :: pending)) :
    Linked (climb found p) pending := by
  obtain ⟨hkeep, -, hparent, hlinked⟩ := climb_spec found p
  intro x hx
  rcases hlinked x hx with hx | hx | hx
  · rcases h x hx with hr | hp | hp
    · exact .inl hr
    · exact .inr (.inl (hkeep hp))
    · rcases List.mem_cons.mp hp with rfl | hp
      · by_cases hr : x = root
        · exact .inl hr
        · exact .inr (.inl (hparent hr))
      · exact .inr (.inr hp)
  · exact .inl hx
  · exact .inr (.inl hx)

theorem Linked.foldl_climb {found pending : List Text} :
    ∀ {ps : List Text}, Linked found (ps ++ pending) → Linked (ps.foldl Filter.climb found) pending
  | [], h => h
  | _ :: _, h => h.climb.foldl_climb

/-- A linked collection without walks to come holds the ancestors of its members. -/
theorem Linked.ancestor_mem {found : List Text} (h : Linked found []) {p q : Text}
    (hp : p ∈ found) (hq : q ∈ ancestors p) : q ∈ found := by
  induction p using Path.ancestors.induct with
  | case1 => simp at hq
  | case2 p hne _ ih =>
    have hparent : parent p ∈ found := by
      rcases h p hp with hr | hp | hp
      · exact absurd hr hne
      · exact hp
      · exact absurd hp List.not_mem_nil
    rcases (Path.mem_ancestors hne).mp hq with rfl | hq
    · exact hparent
    · exact ih hparent hq

/-- What climbs find lies around where they start. -/
theorem mem_or_mem_ancestors_of_mem_foldl_climb {ps found : List Text} {x : Text}
    (h : x ∈ ps.foldl climb found) : x ∈ found ∨ ∃ p ∈ ps, x ∈ ancestors p := by
  induction ps generalizing found with
  | nil => exact .inl h
  | cons p ps ih =>
    rcases ih h with h | ⟨q, hq, hx⟩
    · rcases (climb_spec found p).2.1 x h with h | h
      · exact .inl h
      · exact .inr ⟨p, .head _, h⟩
    · exact .inr ⟨q, .tail _ hq, hx⟩

theorem subset_foldl_climb (ps found : List Text) : found ⊆ ps.foldl climb found := by
  induction ps generalizing found with
  | nil => exact fun _ h => h
  | cons p ps ih => exact fun _ h => ih _ (subset_climb found p h)

/-- Each climb finds the parent of where it starts. -/
theorem parent_mem_foldl_climb {ps : List Text} (found : List Text) {p : Text} (hp : p ∈ ps)
    (hr : p ≠ root) : parent p ∈ ps.foldl climb found := by
  induction ps generalizing found with
  | nil => exact absurd hp List.not_mem_nil
  | cons q ps ih =>
    rcases List.mem_cons.mp hp with rfl | hp
    · exact subset_foldl_climb ps _ ((climb_spec found p).2.2.1 hr)
    · exact ih _ hp

/-- **Walks collect whole chains.**  When each path there at the start has a walk of its own, the
walks end with the paths of the start and all ancestors of the paths walked from, whatever the
order. -/
theorem mem_foldl_climb {start ps : List Text} (h : start ⊆ ps) {x : Text} :
    x ∈ ps.foldl climb start ↔ x ∈ start ∨ ∃ p ∈ ps, x ∈ ancestors p := by
  refine ⟨mem_or_mem_ancestors_of_mem_foldl_climb, ?_⟩
  have hlinked : Linked (ps.foldl climb start) [] :=
    Linked.foldl_climb fun y hy => .inr (.inr (by simpa using h hy))
  rintro (hx | ⟨p, hp, hx⟩)
  · exact subset_foldl_climb ps start hx
  · by_cases hr : p = root
    · subst hr; simp at hx
    · have hparent := parent_mem_foldl_climb start hp hr
      rcases (Path.mem_ancestors hr).mp hx with rfl | hx
      · exact hparent
      · exact hlinked.ancestor_mem hparent hx

/-- The folders that are revealed: those in which files match, and the ancestors of those and of the
folders that match. -/
theorem mem_revealers {fileParents folders : List Text} {x : Text} :
    x ∈ revealers fileParents folders ↔
      x ∈ fileParents ∨ (∃ p ∈ fileParents, x ∈ ancestors p) ∨ ∃ p ∈ folders, x ∈ ancestors p := by
  have hsub : fileParents.eraseDups ⊆ fileParents.eraseDups ++ folders :=
    List.subset_append_left _ _
  unfold revealers
  rw [← List.foldl_append, mem_foldl_climb hsub]
  simp only [List.mem_append, List.mem_eraseDups, or_and_right, exists_or]

end Filter

end TreeSieve
