import Mathlib.Data.List.Forall2
import Mathlib.Data.List.Induction
import TreeSieve.Proofs.Prelude
import TreeSieve.Decision

/-!
# Proofs — DecisionMap

What a map made from a list of decisions holds.

* `map_fst_ofList`: its paths are those of the list, each once, in the order in which they first
  come.
* `get?_ofList`: the decision of a path is the last one the list has for it.
* `Compares`: two maps with the same paths in the same order whose decisions are related path by
  path.  Maps made from lists that are related in this way are related too (`Compares.ofList`), and
  what a relation says of decisions passes to lookups and to counts.
-/

namespace TreeSieve

namespace DecisionMap

theorem ofList_concat (ds : List (Text × Decision)) (p : Text) (d : Decision) :
    ofList (ds ++ [(p, d)]) = (ofList ds).put p d := by
  simp only [ofList, List.foldl_append, List.foldl_cons, List.foldl_nil]

/-! ### Paths -/

theorem map_fst_put (m : DecisionMap) (p : Text) (d : Decision) :
    (m.put p d).map Prod.fst =
      if p ∈ m.map Prod.fst then m.map Prod.fst else m.map Prod.fst ++ [p] := by
  induction m with
  | nil => simp [put]
  | cons e m ih =>
    obtain ⟨q, e⟩ := e
    by_cases hq : q = p
    · subst hq; simp [put]
    · have hp : p ≠ q := Ne.symm hq
      simp only [put, if_neg hq, List.map_cons, ih, List.mem_cons, hp, false_or]
      split <;> rfl

/-- The paths of a map, in the order in which they first come in the list. -/
theorem map_fst_ofList (ds : List (Text × Decision)) :
    (ofList ds).map Prod.fst = (ds.map Prod.fst).eraseDups := by
  induction ds using List.reverseRecOn with
  | nil => rfl
  | append_singleton ds e ih =>
    obtain ⟨p, d⟩ := e
    rw [ofList_concat, map_fst_put, ih, List.map_append, List.map_singleton, List.eraseDups_concat]
    simp only [List.mem_eraseDups]

/-! ### Lookups -/

/-- The last decision of a path is the one that is kept. -/
theorem get?_ofList (ds : List (Text × Decision)) (p : Text) :
    (ofList ds).get? p = ((ds.filter (·.1 = p)).getLast?).map Prod.snd := by
  induction ds using List.reverseRecOn with
  | nil => rfl
  | append_singleton ds e ih =>
    obtain ⟨q, d⟩ := e
    rw [ofList_concat, get?_put, List.filter_append]
    by_cases hq : q = p
    · rw [if_pos hq, List.filter_cons_of_pos (by simpa using hq), List.filter_nil,
        List.getLast?_append]
      rfl
    · rw [if_neg hq, List.filter_cons_of_neg (by simpa using hq), List.filter_nil,
        List.append_nil, ih]

/-! ### Maps compared path by path -/

/-- Two lists with the same paths in the same order and related decisions. -/
def Compares (R : Decision → Decision → Prop) (m n : List (Text × Decision)) : Prop :=
  List.Forall₂ (fun a b => a.1 = b.1 ∧ R a.2 b.2) m n

namespace Compares

variable {R : Decision → Decision → Prop}

theorem put {m n : DecisionMap} (h : Compares R m n) (p : Text) {d e : Decision} (hR : R d e) :
    Compares R (DecisionMap.put m p d) (DecisionMap.put n p e) := by
  induction h with
  | nil => exact .cons ⟨rfl, hR⟩ .nil
  | @cons a b m n hab h ih =>
    obtain ⟨q, da⟩ := a
    obtain ⟨q', db⟩ := b
    obtain ⟨rfl, hd⟩ := hab
    by_cases hq : q = p
    · simp only [DecisionMap.put, if_pos hq]
      exact .cons ⟨rfl, hR⟩ h
    · simp only [DecisionMap.put, if_neg hq]
      exact .cons ⟨rfl, hd⟩ ih

/-- Lists compared decision by decision give maps that compare. -/
theorem ofList {ds es : List (Text × Decision)} (h : Compares R ds es) :
    Compares R (ofList ds) (ofList es) := by
  have key : ∀ {m n : DecisionMap}, Compares R m n →
      Compares R (ds.foldl (fun m e => DecisionMap.put m e.1 e.2) m)
        (es.foldl (fun m e => DecisionMap.put m e.1 e.2) n) := by
    induction h with
    | nil => exact fun h => h
    | @cons a b ds es hab _ ih =>
      obtain ⟨p, d⟩ := a
      obtain ⟨p', e⟩ := b
      obtain ⟨rfl, hR⟩ := hab
      exact fun h => ih (h.put p hR)
  exact key .nil

theorem get? {m n : DecisionMap} (h : Compares R m n) {p : Text} {d : Decision}
    (hd : m.get? p = some d) : ∃ e, n.get? p = some e ∧ R d e := by
  induction h with
  | nil => cases hd
  | @cons a b m n hab _ ih =>
    obtain ⟨q, da⟩ := a
    obtain ⟨q', db⟩ := b
    obtain ⟨rfl, hR⟩ := hab
    simp only [DecisionMap.get?] at hd ⊢
    split at hd
    · next hq => cases hd; exact ⟨db, if_pos hq, hR⟩
    · next hq => rw [if_neg hq]; exact ih hd

/-- When direct matches and shown items stay so, no fewer matches are counted. -/
theorem countMatches_le {m n : DecisionMap} (h : Compares R m n)
    (hR : ∀ d e, R d e → (d.isDirect → e.isDirect) ∧ (d.shown → e.shown)) :
    m.countMatches ≤ n.countMatches := by
  unfold countMatches
  induction h with
  | nil => exact Nat.le_refl 0
  | @cons a b m n hab _ ih =>
    obtain ⟨p, d⟩ := a
    obtain ⟨q, e⟩ := b
    obtain ⟨hdirect, hshown⟩ := hR d e hab.2
    rw [List.countP_cons, List.countP_cons]
    refine Nat.add_le_add ih ?_
    by_cases hd : (d.shown && d.isDirect) = true
    · have he : (e.shown && e.isDirect) = true := by
        rw [Bool.and_eq_true] at hd ⊢
        exact ⟨hshown hd.1, hdirect hd.2⟩
      simp only [hd, he, if_true, Nat.le_refl]
    · simp only [if_neg hd, Nat.zero_le]

end Compares

end DecisionMap

end TreeSieve
