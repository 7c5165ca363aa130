import Mathlib.Data.List.Forall2
import Mathlib.Data.List.Dedup
import Mathlib.Algebra.BigOperators.Group.List.Basic
import Mathlib.Algebra.GroupWithZero.Nat

/-!
# Proofs — Prelude

What the library leaves open about outcomes that may be errors and about lists.

* `Except.bind_eq_ok`, `Except.map_eq_ok`, `Except.mapError_eq_ok`: when a computed outcome is no error.
* `List.eraseDups_concat`: one more member at the end of a list without repetitions.
* `List.countP_map_add_countP_flatMap`: what is counted among elements and below them.
* `List.exists_forall₂_iff` and the lemmas around it: lists that are related member by member.
-/

namespace Except

variable {ε δ α β : Type}

/-- A computation with a second behind it succeeds when both do. -/
theorem bind_eq_ok {x : Except ε α} {f : α → Except ε β} {b : β} :
    x.bind f = .ok b ↔ ∃ a, x = .ok a ∧ f a = .ok b := by
  cases x <;> simp [Except.bind]

theorem map_eq_ok {x : Except ε α} {f : α → β} {b : β} :
    x.map f = .ok b ↔ ∃ a, x = .ok a ∧ f a = b := by
  cases x <;> simp [Except.map]

/-- Wording an error in another way makes no success. -/
theorem mapError_eq_ok {x : Except ε α} {f : ε → δ} {a : α} :
    x.mapError f = .ok a ↔ x = .ok a := by
  cases x <;> simp [Except.mapError]

end Except

namespace List

variable {α β : Type} {R : α → β → Prop} {as : List α} {bs bs₁ bs₂ : List β} {a : α} {b : β}

/-- An element at the end is kept if it did not come before. -/
theorem eraseDups_concat [BEq α] [LawfulBEq α] [DecidableEq α] (l : List α) (a : α) :
    (l ++ [a]).eraseDups = if a ∈ l then l.eraseDups else l.eraseDups ++ [a] := by
  rw [List.eraseDups_append]
  by_cases ha : a ∈ l
  · simp [List.removeAll, ha]
  · simp [List.removeAll, ha, List.eraseDups_cons]

/-- What is counted among the elements and below them is counted element by element. -/
theorem countP_map_add_countP_flatMap (p : β → Bool) (f : α → β) (g : α → List β) (as : List α) :
    (as.map f).countP p + (as.flatMap g).countP p =
      (as.map fun a => (if p (f a) then 1 else 0) + (g a).countP p).sum := by
  induction as with
  | nil => rfl
  | cons a as ih =>
    rw [List.map_cons, List.countP_cons, List.flatMap_cons, List.countP_append, List.map_cons,
      List.sum_cons, ← ih]
    omega

/-! ### Members in relation -/

theorem exists_right_of_mem (h : Forall₂ R as bs) (ha : a ∈ as) : ∃ b ∈ bs, R a b := by
  induction h with
  | nil => exact absurd ha not_mem_nil
  | cons hab _ ih =>
    rcases mem_cons.mp ha with rfl | ha
    · exact ⟨_, mem_cons_self, hab⟩
    · obtain ⟨b, hb, hR⟩ := ih ha
      exact ⟨b, mem_cons_of_mem _ hb, hR⟩

theorem exists_left_of_append (h : Forall₂ R as (bs₁ ++ b :: bs₂)) :
    ∃ as₁ a as₂, as = as₁ ++ a :: as₂ ∧ Forall₂ R as₁ bs₁ ∧ R a b := by
  induction bs₁ generalizing as with
  | nil =>
    obtain ⟨a, as, hab, -, rfl⟩ := forall₂_cons_right_iff.mp h
    exact ⟨[], a, as, rfl, .nil, hab⟩
  | cons c bs₁ ih =>
    obtain ⟨a, as, hac, h', rfl⟩ := forall₂_cons_right_iff.mp h
    obtain ⟨as₁, a', as₂, rfl, h₁, hab⟩ := ih h'
    exact ⟨a :: as₁, a', as₂, rfl, .cons hac h₁, hab⟩

/-- A list of partners exists when each element has one. -/
theorem exists_forall₂_iff : (∃ bs, Forall₂ R as bs) ↔ ∀ a ∈ as, ∃ b, R a b := by
  induction as with
  | nil => simp
  | cons a as ih =>
    rw [forall_mem_cons, ← ih]
    constructor
    · rintro ⟨_, h⟩
      obtain ⟨b, bs, hb, hbs, rfl⟩ := forall₂_cons_left_iff.mp h
      exact ⟨⟨b, hb⟩, bs, hbs⟩
    · rintro ⟨⟨b, hb⟩, bs, hbs⟩
      exact ⟨b :: bs, .cons hb hbs⟩

/-- A test of pairs that only looks at what comes first counts as often as that is met. -/
theorem countP_zip_eq {p : α × β → Bool} {q : α → Bool} (h : Forall₂ R as bs)
    (hpq : ∀ a ∈ as, ∀ b, R a b → p (a, b) = q a) : (as.zip bs).countP p = as.countP q := by
  induction h with
  | nil => rfl
  | cons hab _ ih =>
    rw [forall_mem_cons] at hpq
    rw [zip_cons_cons, countP_cons, countP_cons, ih hpq.2, hpq.1 _ hab]

end List
