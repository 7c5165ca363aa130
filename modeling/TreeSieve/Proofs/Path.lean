import Mathlib.Data.List.DropRight
import TreeSieve.Path
import TreeSieve.Proofs.Text

/-!
# Proofs — Path

What normalisation makes of a path.  It takes blanks away at both ends, makes slashes of backslashes
and takes slashes away at the end.

* `normalize_eq_nil_iff`: nothing is left of a path of blanks, and of no other one.
* `normalize_eq_root_iff`: a path of slashes and backslashes, besides blanks around them, is the root.
* `normalize_eq_self_iff`: which paths are left as they are.
-/

namespace TreeSieve

namespace Text

variable {t : Text}

theorem dropEndWhile_eq_rdropWhile (p : Char → Bool) (t : Text) :
    dropEndWhile p t = t.rdropWhile p := rfl

/-- Only blanks are trimmed away without rest. -/
theorem trim_eq_nil_iff : trim t = [] ↔ ∀ c ∈ t, isBlank c = true := by
  refine ⟨isBlank_of_trim_eq_nil, fun h => ?_⟩
  rw [trim, dropAround, List.dropWhile_eq_nil_iff.mpr h]
  rfl

/-- A text that is not shortened has no blanks at its ends. -/
theorem trim_eq_self_of_length (h : t.length ≤ (trim t).length) : trim t = t := by
  have hmid : trim t <+: t.dropWhile isBlank := by
    rw [trim, dropAround, dropEndWhile_eq_rdropWhile]
    exact List.rdropWhile_prefix _ _
  have hend : t.dropWhile isBlank <:+ t := List.dropWhile_suffix _
  have heq : t.dropWhile isBlank = t := hend.eq_of_length_le (h.trans hmid.length_le)
  rw [heq] at hmid
  exact hmid.eq_of_length_le h

end Text

namespace Path

open Text (trim isBlank)

variable {p : Text} {c : Char}

/-- A path with a slash for each backslash. -/
def slashed (p : Text) : Text := p.map fun c => if c = '\\' then '/' else c

theorem mem_slashed_ne (h : c ∈ slashed p) : c ≠ '\\' := by
  obtain ⟨d, -, rfl⟩ := List.mem_map.mp h
  split
  · decide
  · next hd => exact hd

theorem slashed_eq_self (h : '\\' ∉ p) : slashed p = p := by
  rw [slashed, List.map_congr_left fun c hc => if_neg (ne_of_mem_of_not_mem hc h), List.map_id']

/-- The slashes of a path turned round are its slashes of both kinds. -/
theorem forall_mem_slashed :
    (∀ c ∈ slashed p, c = '/') ↔ ∀ c ∈ p, c = '/' ∨ c = '\\' := by
  rw [slashed, List.forall_mem_map]
  refine forall₂_congr fun c _ => ?_
  split
  · next h => exact iff_of_true rfl (.inr h)
  · next h => exact (or_iff_left h).symm

/-- **Normalisation.**  Without blanks around it, a path of slashes is the root, and another path loses
the slashes at its end. -/
theorem normalize_cases (p : Text) :
    (trim p = [] ∧ normalize p = []) ∨
      (trim p ≠ [] ∧ (∀ c ∈ slashed (trim p), c = '/') ∧ normalize p = root) ∨
      (trim p ≠ [] ∧ (¬ ∀ c ∈ slashed (trim p), c = '/') ∧
        normalize p = (slashed (trim p)).rdropWhile (· == '/')) := by
  have hnil : (slashed (trim p)).rdropWhile (· == '/') = [] ↔ ∀ c ∈ slashed (trim p), c = '/' := by
    simp
  by_cases htrim : trim p = []
  · exact .inl ⟨htrim, by rw [normalize, htrim]; rfl⟩
  · have hne : slashed (trim p) ≠ [] := by simpa [slashed] using htrim
    rw [normalize, ← slashed, Text.dropEndWhile_eq_rdropWhile]
    refine .inr ?_
    by_cases hroot : slashed (trim p) = root
    · exact .inl ⟨htrim, by rw [hroot]; simp [root], by simp [hroot]⟩
    · by_cases hall : ∀ c ∈ slashed (trim p), c = '/'
      · exact .inl ⟨htrim, hall, by simp [hne, hroot, hnil.mpr hall]⟩
      · have hrest := mt hnil.mp hall
        exact .inr ⟨htrim, hall, by simp [hne, hroot, hrest]⟩

/-- A path of blanks is the only one that normalisation empties. -/
theorem normalize_eq_nil_iff : normalize p = [] ↔ ∀ c ∈ p, isBlank c = true := by
  rw [← Text.trim_eq_nil_iff]
  obtain ⟨htrim, h⟩ | ⟨htrim, -, h⟩ | ⟨htrim, hall, h⟩ := normalize_cases p
  · exact iff_of_true h htrim
  · exact iff_of_false (by rw [h]; exact List.cons_ne_nil _ _) htrim
  · exact iff_of_false (by rw [h]; simpa using hall) htrim

/-- A path of slashes is the only one that becomes the root. -/
theorem normalize_eq_root_iff :
    normalize p = root ↔ trim p ≠ [] ∧ ∀ c ∈ trim p, c = '/' ∨ c = '\\' := by
  rw [← forall_mem_slashed]
  obtain ⟨htrim, h⟩ | ⟨htrim, hall, h⟩ | ⟨htrim, hall, h⟩ := normalize_cases p
  · exact iff_of_false (by rw [h]; exact (List.cons_ne_nil _ _).symm) fun h' => h'.1 htrim
  · exact iff_of_true h ⟨htrim, hall⟩
  · -- what is left does not end with a slash
    refine iff_of_false (fun hroot => ?_) fun h' => hall h'.2
    rw [hroot] at h
    have hlast := List.rdropWhile_last_not (· == '/') (slashed (trim p)) (by rw [← h]; decide)
    simp only [← h] at hlast
    exact hlast rfl

/-- No backslash is left in a path. -/
theorem backslash_not_mem_normalize (p : Text) : '\\' ∉ normalize p := by
  obtain ⟨-, h⟩ | ⟨-, -, h⟩ | ⟨-, -, h⟩ := normalize_cases p
  · rw [h]
    exact List.not_mem_nil
  · rw [h]
    decide
  · intro hmem
    rw [h] at hmem
    exact mem_slashed_ne ((List.rdropWhile_prefix _ _).subset hmem) rfl

/-- Normalisation takes characters away, and adds none. -/
theorem length_normalize_le (p : Text) : (normalize p).length ≤ (trim p).length := by
  obtain ⟨-, h⟩ | ⟨htrim, -, h⟩ | ⟨-, -, h⟩ := normalize_cases p
  · rw [h]
    exact Nat.zero_le _
  · rw [h]
    exact List.length_pos_iff.mpr htrim
  · have hlength : (slashed (trim p)).length = (trim p).length := List.length_map _
    rw [h, ← hlength]
    exact (List.rdropWhile_prefix _ _).length_le

/-- A path that does not end with a slash is left as it is when it has no backslashes and no blanks at
its ends. -/
theorem normalize_eq_self_iff (hlast : ∀ c ∈ p.getLast?, c ≠ '/') : normalize p = p ↔
    '\\' ∉ p ∧ (∀ c ∈ p.head?, isBlank c = false) ∧ ∀ c ∈ p.getLast?, isBlank c = false := by
  constructor
  · intro h
    have htrim : trim p = p :=
      Text.trim_eq_self_of_length (by have := length_normalize_le p; rwa [h] at this)
    exact ⟨h ▸ backslash_not_mem_normalize p, htrim ▸ Text.head?_trim p,
      htrim ▸ Text.getLast?_trim p⟩
  · rintro ⟨hback, hfirst, hend⟩
    have htrim := Text.trim_eq_self hfirst hend
    have hslashed : slashed (trim p) = p := by rw [htrim, slashed_eq_self hback]
    obtain ⟨hnil, h⟩ | ⟨hne, hall, -⟩ | ⟨-, -, h⟩ := normalize_cases p
    · rw [h, ← htrim, hnil]
    · rw [hslashed] at hall
      rw [htrim] at hne
      exact absurd (hall _ (List.getLast_mem hne)) (hlast _ (List.getLast?_eq_some_getLast hne))
    · rw [h, hslashed, List.rdropWhile_eq_self_iff]
      exact fun hne => by simpa using hlast _ (List.getLast?_eq_some_getLast hne)

end Path

end TreeSieve
