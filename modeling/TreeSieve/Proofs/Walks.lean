import Mathlib.Logic.Function.Iterate
import TreeSieve.Proofs.Ancestors

/-!
# Proofs — Walks

The walks upwards turn by turn, and what they collect together.

A turn goes from a path to its parent and collects that; a walk ends at the root, and where the parent is
there already.  Nothing in a turn says that there is an end: `Walk.EndsAfter` counts the turns up to it.

* `Walk.endsAfter_climb`: a walk ends, after no more turns than its path has ancestors, with what `climb`
  says.
* `Path.mem_ancestors_iff_iterate`: the ancestors of a path are what is reached by going to the parent
  again and again; the root has none.
* `climbs_collect`: **walks from all seeds and then from all folders** collect the seeds and what is
  reached from seeds and folders, in whatever order the walks are made.
-/

namespace TreeSieve

namespace Path

variable {p q : Text}

theorem parent_root : parent root = root := by decide

/-- No more paths lie around a path than it has characters, and the root. -/
theorem length_ancestors_le (p : Text) : (ancestors p).length ≤ p.length + 1 := by
  induction p using ancestors.induct with
  | case1 =>
    rw [ancestors_root]
    exact Nat.zero_le _
  | case2 p hp _ ih =>
    rw [ancestors_of_ne hp, List.length_cons]
    rcases parent_eq_root_or_length_lt p with hr | hshorter
    · rw [hr, ancestors_root, List.length_nil]
      omega
    · omega

/-- **Ancestors** are reached by going to the parent again and again. -/
theorem mem_ancestors_iff_iterate : q ∈ ancestors p ↔ p ≠ root ∧ ∃ n, parent^[n + 1] p = q := by
  induction p using ancestors.induct with
  | case1 =>
    rw [ancestors_root]
    exact iff_of_false List.not_mem_nil fun h => h.1 rfl
  | case2 p hp _ ih =>
    rw [mem_ancestors hp, ih, and_iff_right hp]
    constructor
    · rintro (rfl | ⟨-, n, rfl⟩)
      · exact ⟨0, rfl⟩
      · exact ⟨n + 1, Function.iterate_succ_apply parent (n + 1) p⟩
    · rintro ⟨n, rfl⟩
      rw [Function.iterate_succ_apply]
      by_cases hr : parent p = root
      · -- from the root on nothing new is reached
        rw [hr, Function.iterate_fixed parent_root]
        exact .inl rfl
      · cases n with
        | zero => exact .inl rfl
        | succ n => exact .inr ⟨hr, n, rfl⟩

end Path

namespace Filter

open TreeSieve.Path (root parent ancestors)

variable {found start seeds folders : List Text} {p : Text}

/-! ### One walk, turn by turn -/

/-- A walk under way: what is collected, and the path that it has come to. -/
structure Walk where
  found : List Text
  place : Text

namespace Walk

/-- One turn: to the parent, which is collected; none at the root, or when the parent is there. -/
def turn? (w : Walk) : Option Walk :=
  if w.place = root then none
  else if w.found.contains (parent w.place) then none
  else some ⟨parent w.place :: w.found, parent w.place⟩

/-- The walk ends after a number of turns, with what is collected then. -/
inductive EndsAfter : Nat → Walk → List Text → Prop where
  | stop {w : Walk} (h : w.turn? = none) : EndsAfter 0 w w.found
  | turn {n : Nat} {w next : Walk} {found : List Text} (h : w.turn? = some next)
      (rest : EndsAfter n next found) : EndsAfter (n + 1) w found

/-- **Each walk ends**, after no more turns than its path has ancestors. -/
theorem endsAfter_climb (found : List Text) (p : Text) :
    ∃ n ≤ (ancestors p).length, EndsAfter n ⟨found, p⟩ (climb found p) := by
  induction found, p using climb.induct with
  | case1 found =>
    rw [climb_root]
    exact ⟨0, Nat.zero_le _, .stop (if_pos rfl)⟩
  | case2 found p hp hc =>
    rw [climb_of_mem (List.contains_iff_mem.mp hc)]
    exact ⟨0, Nat.zero_le _, .stop (by rw [turn?, if_neg hp, if_pos hc])⟩
  | case3 found p hp hc _ ih =>
    have hmem : parent p ∉ found := fun h => hc (List.contains_iff_mem.mpr h)
    obtain ⟨n, hn, hends⟩ := ih
    rw [climb_of_not_mem hp hmem, Path.ancestors_of_ne hp, List.length_cons]
    exact ⟨n + 1, Nat.succ_le_succ hn, .turn (by rw [turn?, if_neg hp, if_neg hc]) hends⟩

end Walk

/-! ### All walks -/

/-- A climb finds nothing twice. -/
theorem nodup_climb (h : found.Nodup) (p : Text) : (climb found p).Nodup := by
  induction found, p using climb.induct with
  | case1 found => rwa [climb_root]
  | case2 found p hp hc => rwa [climb_of_mem (List.contains_iff_mem.mp hc)]
  | case3 found p hp hc _ ih =>
    have hmem : parent p ∉ found := fun hm => hc (List.contains_iff_mem.mpr hm)
    rw [climb_of_not_mem hp hmem]
    exact ih (List.nodup_cons.mpr ⟨hmem, h⟩)

theorem nodup_foldl_climb (h : found.Nodup) (ps : List Text) : (ps.foldl climb found).Nodup := by
  induction ps generalizing found with
  | nil => exact h
  | cons p ps ih => exact ih (nodup_climb h p)

/-- **The walks together.**  Start from the seeds, each once, and walk from all of them, and then from all
folders; in which order, and whether more than once from a path, does not matter.  Each walk ends,
whatever has been collected before it, after at most one turn more than its path has characters.  In the
end the seeds are collected, and what is reached by going to the parent again and again from seeds and
folders; each once, and nothing from the root. -/
theorem climbs_collect {seedWalks folderWalks : List Text} (hnodup : start.Nodup)
    (hstart : ∀ x, x ∈ start ↔ x ∈ seeds) (hseeds : ∀ x, x ∈ seedWalks ↔ x ∈ seeds)
    (hfolders : ∀ x, x ∈ folderWalks ↔ x ∈ folders) :
    (∀ found p, ∃ n ≤ p.length + 1, Walk.EndsAfter n ⟨found, p⟩ (climb found p)) ∧
    (folderWalks.foldl climb (seedWalks.foldl climb start)).Nodup ∧
    ∀ x, x ∈ folderWalks.foldl climb (seedWalks.foldl climb start) ↔
      x ∈ seeds ∨ ∃ p, (p ∈ seeds ∨ p ∈ folders) ∧ p ≠ root ∧ ∃ n, parent^[n + 1] p = x := by
  refine ⟨fun found p => ?_, nodup_foldl_climb (nodup_foldl_climb hnodup _) _, fun x => ?_⟩
  · obtain ⟨n, hn, hends⟩ := Walk.endsAfter_climb found p
    exact ⟨n, Nat.le_trans hn (Path.length_ancestors_le p), hends⟩
  · have hsub : start ⊆ seedWalks ++ folderWalks := fun y hy =>
      List.mem_append_left _ ((hseeds y).mpr ((hstart y).mp hy))
    rw [← List.foldl_append, mem_foldl_climb hsub]
    simp only [hstart, List.mem_append, hseeds, hfolders, Path.mem_ancestors_iff_iterate]

theorem climbs_collect_slashes :
    (∃ n ≤ 5, Walk.EndsAfter n ⟨[], "a//b".toList⟩ (climb [] "a//b".toList)) ∧
    "a/".toList ∈ ["/".toList, "/x/".toList].foldl climb
      (["".toList, "a//b".toList].foldl climb ["a//b".toList, "".toList]) := by
  have hnodup : ["a//b".toList, "".toList].Nodup := by decide
  obtain ⟨hends, -, hmem⟩ := @climbs_collect _ ["a//b".toList, "".toList]
    ["/x/".toList, "/".toList] ["".toList, "a//b".toList] ["/".toList, "/x/".toList] hnodup
    (fun _ => Iff.rfl) (fun x => by simp [or_comm]) (fun x => by simp [or_comm])
  have hparent : parent "a//b".toList = "a/".toList := by decide
  exact ⟨hends [] "a//b".toList,
    (hmem _).mpr (.inr ⟨_, .inl List.mem_cons_self, by decide, 0, hparent⟩)⟩

end Filter

end TreeSieve
