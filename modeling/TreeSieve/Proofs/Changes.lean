import Mathlib.Data.List.Nodup
import TreeSieve.Proofs.Cache.Runs

/-!
# Proofs — Changes

Changes lead from one map of decisions to another (`Leads`) when each of them says what the other map
holds and the two maps agree where no change says anything.  Putting such changes onto the first map,
in any order and any number of times, gives the lookups of the second (`Leads.get?_apply`).

* `mem_changes`: the changes from a map to a later one are the lookups of the later map that differ
  from those of the map before.
* `changes_replay`: put onto the map before, they give the lookups of the later map; and the changes
  between the maps of passes, put one after the other onto an empty map, give those of the last one.
-/

namespace TreeSieve

namespace DecisionMap

variable {m n previous current : DecisionMap} {p : Text} {d : Decision} {d? : Option Decision}
  {c : Change} {cs cs' : List Change}

/-! ### Entries and lookups -/

theorem get?_eq_none_iff : m.get? p = none ↔ p ∉ m.map Prod.fst := by
  induction m with
  | nil => simp [get?]
  | cons e m ih =>
    obtain ⟨q, e⟩ := e
    by_cases hq : q = p
    · simp [get?, hq]
    · simp [get?, hq, Ne.symm hq, ih]

/-- In a map that has each path once, an entry is what the lookup finds. -/
theorem mem_iff_get? (hm : (m.map Prod.fst).Nodup) : (p, d) ∈ m ↔ m.get? p = some d := by
  induction m with
  | nil => simp [get?]
  | cons e m ih =>
    obtain ⟨q, e⟩ := e
    rw [List.map_cons, List.nodup_cons] at hm
    by_cases hq : q = p
    · subst hq
      have hnot : (q, d) ∉ m := fun h => hm.1 (List.mem_map.mpr ⟨_, h, rfl⟩)
      simp [get?, hnot, eq_comm]
    · simp [get?, hq, Ne.symm hq, ih hm.2]

/-! ### What the changes say -/

theorem mem_changes_some :
    (p, some d) ∈ changes previous current ↔ (p, d) ∈ current ∧ previous.get? p ≠ some d := by
  simp [changes]

theorem mem_changes_none :
    (p, none) ∈ changes previous current ↔ previous.get? p ≠ none ∧ current.get? p = none := by
  rw [ne_eq, get?_eq_none_iff, not_not]
  simp [changes]

/-- **Changes.**  A path is among the changes just when the lookups differ, with what the later map
holds. -/
theorem mem_changes (hcurrent : (current.map Prod.fst).Nodup) :
    (p, d?) ∈ changes previous current ↔ previous.get? p ≠ current.get? p ∧ d? = current.get? p := by
  cases d? with
  | none =>
    rw [mem_changes_none, eq_comm (a := none)]
    exact and_congr_left fun h => by rw [h]
  | some d =>
    rw [mem_changes_some, mem_iff_get? hcurrent, and_comm, eq_comm (a := some d)]
    exact and_congr_left fun h => by rw [h]

theorem mem_map_fst_changes (hcurrent : (current.map Prod.fst).Nodup) :
    p ∈ (changes previous current).map Prod.fst ↔ previous.get? p ≠ current.get? p := by
  simp [mem_changes hcurrent]

/-- No path is among the changes twice. -/
theorem nodup_changes (hprevious : (previous.map Prod.fst).Nodup)
    (hcurrent : (current.map Prod.fst).Nodup) :
    ((changes previous current).map Prod.fst).Nodup := by
  have hfst {α β : Type} (l : List (Text × α)) (q : Text × α → Bool) (f : Text × α → β)
      (hl : (l.map Prod.fst).Nodup) : (((l.filter q).map fun e => (e.1, f e)).map Prod.fst).Nodup := by
    rw [List.map_map]
    exact (List.filter_sublist.map Prod.fst).nodup hl
  rw [changes, List.map_append, List.nodup_append]
  refine ⟨hfst current _ _ hcurrent, hfst previous _ _ hprevious, fun a ha b hb hab => ?_⟩
  -- a path of the later map is not one that is gone
  simp only [List.map_map, List.mem_map, List.mem_filter, Function.comp] at ha hb
  obtain ⟨e, ⟨he, -⟩, rfl⟩ := ha
  obtain ⟨f, ⟨-, hf⟩, rfl⟩ := hb
  rw [Option.isNone_iff_eq_none, get?_eq_none_iff, ← hab] at hf
  exact hf (List.mem_map_of_mem he)

/-! ### Maps that have each path once -/

theorem nodup_put (hm : (m.map Prod.fst).Nodup) : ((m.put p d).map Prod.fst).Nodup := by
  rw [map_fst_put]
  split
  · exact hm
  · next hp => exact List.concat_eq_append ▸ hm.concat hp

theorem nodup_ofList (ds : List (Text × Decision)) : ((ofList ds).map Prod.fst).Nodup := by
  induction ds using List.reverseRecOn with
  | nil => exact List.nodup_nil
  | append_singleton ds e ih =>
    rw [ofList_concat]
    exact nodup_put ih

/-! ### Putting changes onto a map -/

/-- The changes say what the map `n` holds, and where they say nothing it agrees with `m`. -/
structure Leads (m : DecisionMap) (cs : List Change) (n : DecisionMap) : Prop where
  right : ∀ c ∈ cs, c.2 = n.get? c.1
  rest : ∀ p, p ∉ cs.map Prod.fst → m.get? p = n.get? p

theorem apply_cons (m : DecisionMap) (c : Change) (cs : List Change) :
    m.apply (c :: cs) = (m.apply [c]).apply cs := rfl

/-- One change changes one lookup. -/
theorem get?_apply_singleton (m : DecisionMap) (c : Change) (p : Text) :
    (m.apply [c]).get? p = if c.1 = p then c.2 else m.get? p := by
  obtain ⟨q, d?⟩ := c
  cases d? with
  | none => exact get?_erase m q p
  | some d => exact get?_put m q p d

namespace Leads

/-- Behind the first change, the others lead to the same map. -/
theorem tail (h : Leads m (c :: cs) n) : Leads (m.apply [c]) cs n where
  right c' hc' := h.right c' (List.mem_cons_of_mem c hc')
  rest p hp := by
    rw [get?_apply_singleton]
    split
    · next heq => rw [h.right c List.mem_cons_self, heq]
    · next hne => exact h.rest p (by simpa [hp] using Ne.symm hne)

theorem get?_apply (h : Leads m cs n) (p : Text) : (m.apply cs).get? p = n.get? p := by
  induction cs generalizing m with
  | nil => exact h.rest p List.not_mem_nil
  | cons c cs ih =>
    rw [apply_cons]
    exact ih h.tail

/-- Only which changes there are matters, and only the lookups of the map they are put onto. -/
theorem congr (h : Leads m cs n) {m' : DecisionMap} (hcs : ∀ c, c ∈ cs' ↔ c ∈ cs)
    (hm : ∀ p, m'.get? p = m.get? p) : Leads m' cs' n where
  right c hc := h.right c ((hcs c).mp hc)
  rest p hp := by
    refine (hm p).trans (h.rest p fun hmem => hp ?_)
    obtain ⟨c, hc, hcp⟩ := List.mem_map.mp hmem
    exact List.mem_map.mpr ⟨c, (hcs c).mpr hc, hcp⟩

end Leads

theorem leads_changes (hcurrent : (current.map Prod.fst).Nodup) :
    Leads previous (changes previous current) current where
  right _ hc := ((mem_changes hcurrent).mp hc).2
  rest p hp := by
    rw [mem_map_fst_changes hcurrent, ne_eq, not_not] at hp
    exact hp

/-! ### Runs -/

/-- The changes from each map to the next one. -/
def diffs : DecisionMap → List DecisionMap → List (List Change)
  | _, [] => []
  | previous, m :: ms => previous.changes m :: diffs m ms

/-- Changes put onto a map that has the lookups of the first of some maps lead, one after the other,
to the lookups of the last. -/
theorem get?_foldl_diffs {ms : List DecisionMap} (hms : ∀ m ∈ ms, (m.map Prod.fst).Nodup)
    (hm : ∀ p, m.get? p = previous.get? p) (p : Text) :
    ((diffs previous ms).foldl apply m).get? p = (ms.getLast?.getD previous).get? p := by
  -- along the maps: what has been put together so far has the lookups of the map reached
  induction ms generalizing previous m with
  | nil => exact hm p
  | cons n ms ih =>
    obtain ⟨hn, hms⟩ := List.forall_mem_cons.mp hms
    have hstep (q : Text) : (m.apply (previous.changes n)).get? q = n.get? q :=
      ((leads_changes hn).congr (fun _ => Iff.rfl) hm).get?_apply q
    rw [diffs, List.foldl_cons, ih hms hstep, List.getLast?_cons]
    cases ms.getLast? <;> rfl

end DecisionMap

namespace Filter

open Regex (Cache)

/-- The maps of the passes among uses of a cache, without those that fail. -/
def maps : Cache → List Cache.Use → List DecisionMap
  | _, [] => []
  | cache, u :: us =>
    match u.run cache with
    | (.decisions (.ok m), cache) => m :: maps cache us
    | (_, cache) => maps cache us

variable {settings : Settings} {items : List Item} {query : Query} {cache : Cache} {m : DecisionMap}

/-- A pass decides each path once. -/
theorem nodup_evaluate (h : (evaluate settings items query cache).1 = .ok m) :
    (m.map Prod.fst).Nodup := by
  by_cases hq : query.isBlank = true
  · rw [evaluate, if_pos hq] at h
    cases h
    exact List.nodup_nil
  · obtain ⟨s, -, -, rfl⟩ := exists_search_of_evaluate (by simpa using hq) h
    exact DecisionMap.nodup_ofList _

theorem nodup_maps (us : List Cache.Use) (cache : Cache) :
    ∀ m ∈ maps cache us, (m.map Prod.fst).Nodup := by
  induction us generalizing cache with
  | nil => exact fun m hm => absurd hm List.not_mem_nil
  | cons u us ih =>
    rw [maps]
    split
    · next m cache' hrun =>
      refine List.forall_mem_cons.mpr ⟨?_, ih cache'⟩
      cases u with
      | get | clear => cases hrun
      | pass settings items query =>
        obtain ⟨hm, -⟩ := Prod.mk.inj hrun
        exact nodup_evaluate (Cache.Answer.decisions.inj hm)
    · next cache' _ _ => exact ih cache'

open DecisionMap (changes diffs)

/-- **Replaying.**  Let two maps have each path once.  Then a path is among the changes from the one to
the other just when its lookups differ, once, and with what the later map holds; and put onto the
map before, in any order, the changes give the lookups of the later map.  So do the changes of passes,
each from the map of the pass before, when they are put one after the other onto an empty map:
whatever the cache they share is used for in between, and passes that fail left aside. -/
theorem changes_replay (previous current : DecisionMap)
    (hprevious : (previous.map Prod.fst).Nodup) (hcurrent : (current.map Prod.fst).Nodup) :
    (∀ p d?, (p, d?) ∈ changes previous current ↔
      previous.get? p ≠ current.get? p ∧ d? = current.get? p) ∧
    ((changes previous current).map Prod.fst).Nodup ∧
    (∀ cs, cs.Perm (changes previous current) → ∀ p, (previous.apply cs).get? p = current.get? p) ∧
    ∀ cache us p, ((diffs [] (maps cache us)).foldl DecisionMap.apply []).get? p =
      ((maps cache us).getLast?.getD []).get? p := by
  refine ⟨fun p d? => DecisionMap.mem_changes hcurrent,
    DecisionMap.nodup_changes hprevious hcurrent, fun cs hcs p => ?_, fun cache us p => ?_⟩
  · have hleads : DecisionMap.Leads previous (changes previous current) current :=
      DecisionMap.leads_changes hcurrent
    exact (hleads.congr (fun _ => hcs.mem_iff) fun _ => rfl).get?_apply p
  · exact DecisionMap.get?_foldl_diffs (nodup_maps us cache) (fun _ => rfl) p

theorem changes_replay_three :
    ∃ previous current : DecisionMap, (previous.map Prod.fst).Nodup ∧
      (current.map Prod.fst).Nodup ∧
      changes previous current =
        [(['b'], some .containsMatch), (['c'], some .revealed), (['a'], none)] ∧
      ∀ p, (previous.apply (changes previous current).reverse).get? p = current.get? p := by
  refine ⟨[(['a'], .hidden), (['b'], .fileMatch), (['d'], .revealed)],
    [(['d'], .revealed), (['b'], .containsMatch), (['c'], .revealed)], by decide, by decide,
    by decide, ?_⟩
  exact (changes_replay _ _ (by decide) (by decide)).2.2.1 _ (List.reverse_perm _)

end Filter

end TreeSieve
