import Mathlib.Data.List.Perm.Subperm
import TreeSieve.Filter
import TreeSieve.Proofs.Subsequence

/-!
# Proofs — Highlights

Where the places lie that are highlighted in a name.

The places are those of the text as it is compared.  In lower case a text has the characters of the
text one for one, but that each capital I with dot above becomes two (`growth`).  So behind such a
capital the characters of the text stand further to the left than their places say (`ComesFrom`), and
a place is that of its character exactly when there is no such capital before it
(`ComesFrom.eq_iff`).

* `exists_comesFrom`: each character of a text as it is compared comes from one of the text.
* `highlights_comeFrom`: **what places point at**, for patterns and for the terms of a query; and the
  texts for which all places are within the text.
-/

namespace TreeSieve.Subsequence

variable {cs : Bool} {t text pattern : Text} {c d e : Char} {p o a b : Nat} {ps : List Nat}

/-- How many characters a text gains as it is compared. -/
def growth (cs : Bool) (t : Text) : Nat := if cs then 0 else t.count 'İ'

/-- A character is compared as another one: at some place of a text, its lower case has that. -/
def IsForm (cs : Bool) (c e : Char) : Prop :=
  if cs then e = c else ∃ before after, e ∈ Text.lowerAt before c after

/-- Two characters are equal, or equal up to case where the case does not count. -/
def Alike (cs : Bool) (c d : Char) : Prop := ∃ e, IsForm cs c e ∧ IsForm cs d e

/-- The character at `p` of a text as it is compared comes from that at `o` of the text itself: what
the text gains before it stands before it, too. -/
structure ComesFrom (cs : Bool) (t : Text) (p o : Nat) : Prop where
  le : o + growth cs (t.take o) ≤ p
  ge : p ≤ o + growth cs (t.take (o + 1))

/-! ### The text as it is compared -/

theorem length_lowerAt (before : Text) (c : Char) (after : Text) :
    (Text.lowerAt before c after).length = 1 + [c].count 'İ' := by
  rw [Text.lowerAt]
  split
  · next h =>
    rw [h]
    rfl
  · split
    · next h =>
      rw [h]
      rfl
    · next h => rw [List.count_singleton, if_neg (by simpa using h), List.length_singleton]

theorem count_dotted_cons (c : Char) (t : Text) :
    (c :: t).count 'İ' = [c].count 'İ' + t.count 'İ' := by
  rw [← List.count_append, List.singleton_append]

theorem growth_take_succ (c : Char) (t : Text) (a : Nat) :
    growth cs ((c :: t).take (a + 1)) = growth cs [c] + growth cs (t.take a) := by
  cases cs with
  | true => rfl
  | false => exact count_dotted_cons c (t.take a)

theorem growth_take_le (t : Text) (h : a ≤ b) : growth cs (t.take a) ≤ growth cs (t.take b) := by
  cases cs with
  | true => exact Nat.le_refl 0
  | false => exact (List.take_sublist_take_left h).count_le 'İ'

theorem length_lowerFrom (before t : Text) :
    (Text.lowerFrom before t).length = t.length + t.count 'İ' := by
  induction t generalizing before with
  | nil => rfl
  | cons c t ih =>
    rw [Text.lowerFrom, List.length_append, length_lowerAt, ih, count_dotted_cons c t,
      List.length_cons]
    omega

theorem length_key (cs : Bool) (t : Text) : (key cs t).length = t.length + growth cs t := by
  cases cs with
  | true => rfl
  | false => exact length_lowerFrom [] t

/-- A character of the rest comes from the rest. -/
theorem ComesFrom.cons (h : ComesFrom cs t p o) (c : Char) :
    ComesFrom cs (c :: t) (1 + growth cs [c] + p) (o + 1) := by
  obtain ⟨hle, hge⟩ := h
  constructor
  · rw [growth_take_succ]
    omega
  · rw [growth_take_succ]
    omega

theorem exists_comesFrom_lowerFrom {before : Text} (h : (Text.lowerFrom before t)[p]? = some e) :
    ∃ o c, t[o]? = some c ∧ IsForm false c e ∧ ComesFrom false t p o := by
  induction t generalizing before p with
  | nil => cases h
  | cons c t ih =>
    rw [Text.lowerFrom] at h
    have hlength : (Text.lowerAt before c t).length = 1 + growth false [c] := length_lowerAt ..
    by_cases hp : p < 1 + growth false [c]
    · rw [List.getElem?_append_left (hlength ▸ hp)] at h
      exact ⟨0, c, rfl, ⟨before, t, List.mem_of_getElem? h⟩, Nat.zero_le p, by
        rw [List.take_succ_cons, List.take_zero]
        omega⟩
    · obtain ⟨q, rfl⟩ := Nat.exists_eq_add_of_le (Nat.le_of_not_lt hp)
      rw [List.getElem?_append_right (by omega), hlength, Nat.add_sub_cancel_left] at h
      obtain ⟨o, d, hd, hform, hcomes⟩ := ih h
      exact ⟨o + 1, d, hd, hform, hcomes.cons c⟩

/-- Each character of a text as it is compared comes from one of the text, of which it is a form. -/
theorem exists_comesFrom (h : (key cs t)[p]? = some e) :
    ∃ o c, t[o]? = some c ∧ IsForm cs c e ∧ ComesFrom cs t p o := by
  cases cs with
  | true => exact ⟨p, e, h, rfl, Nat.le_refl p, Nat.le_refl p⟩
  | false => exact exists_comesFrom_lowerFrom h

/-- A place is that of its character when the text gains nothing before it. -/
theorem ComesFrom.eq_iff (h : ComesFrom cs t p o) : p = o ↔ growth cs (t.take p) = 0 := by
  obtain ⟨hle, hge⟩ := h
  constructor
  · rintro rfl
    omega
  · intro hzero
    by_contra hne
    have hmono : growth cs (t.take (o + 1)) ≤ growth cs (t.take p) :=
      growth_take_le t (by omega)
    omega

/-! ### Places -/

/-- The place `p`, given for the character at `k` of a pattern as it is compared, points at a
character of the text that is alike to one of the pattern. -/
def Points (cs : Bool) (text pattern : Text) (k p : Nat) : Prop :=
  ∃ o j c d, text[o]? = some c ∧ pattern[j]? = some d ∧ Alike cs c d ∧
    ComesFrom cs text p o ∧ (p = o ↔ growth cs (text.take p) = 0) ∧
    ComesFrom cs pattern k j ∧ (k = j ↔ growth cs (pattern.take k) = 0)

theorem points_of_positions? (h : positions? cs text pattern = some ps) {k : Nat}
    (hk : ps[k]? = some p) : Points cs text pattern k p := by
  obtain ⟨hlt, rfl⟩ := List.getElem?_eq_some_iff.mp hk
  have hreads := (positions?_eq_some_iff.mp h).embedding.reads
  have hneedle : k < (key cs pattern).length := hreads.length_eq ▸ hlt
  obtain ⟨o, c, hc, hform, hcomes⟩ := exists_comesFrom (hreads.get hlt hneedle)
  obtain ⟨j, d, hd, hform', hcomes'⟩ := exists_comesFrom (List.getElem?_eq_getElem hneedle)
  exact ⟨o, j, c, d, hc, hd, ⟨_, hform, hform'⟩, hcomes, hcomes.eq_iff, hcomes', hcomes'.eq_iff⟩

theorem length_of_positions? (h : positions? cs text pattern = some ps) :
    ps.length = pattern.length + growth cs pattern :=
  (positions?_eq_some_iff.mp h).embedding.reads.length_eq.trans (length_key cs pattern)

theorem lt_of_positions? (h : positions? cs text pattern = some ps) (hp : p ∈ ps) :
    p < text.length + growth cs text := by
  obtain ⟨k, hlt, rfl⟩ := List.mem_iff_getElem.mp hp
  have hreads := (positions?_eq_some_iff.mp h).embedding.reads
  have hget := hreads.get hlt (hreads.length_eq ▸ hlt)
  exact length_key cs text ▸ (List.getElem?_eq_some_iff.mp hget).1

/-- Increasing places below a bound are no more than the bound. -/
theorem length_le_of_increasing {n : Nat} (hps : ps.Pairwise (· < ·)) (h : ∀ p ∈ ps, p < n) :
    ps.length ≤ n := by
  have hnodup : ps.Nodup := hps.imp Nat.ne_of_lt
  have hsub : ps ⊆ List.range n := fun p hp => List.mem_range.mpr (h p hp)
  simpa using (List.subperm_of_subset hnodup hsub).length_le

/-- The places of all patterns lie within a text exactly when the text gains nothing. -/
theorem forall_lt_length_iff :
    (∀ pattern ps, positions? cs text pattern = some ps → ∀ p ∈ ps, p < text.length) ↔
      growth cs text = 0 := by
  constructor
  · intro h
    -- the text itself as a pattern takes all places there are
    have hsome : (positions? cs text text).isSome = true := by
      rw [isSome_positions?, fits_iff]
    obtain ⟨ps, hps⟩ := Option.isSome_iff_exists.mp hsome
    have hle := length_le_of_increasing (positions?_eq_some_iff.mp hps).embedding.increasing
      (h text ps hps)
    rw [length_of_positions? hps] at hle
    omega
  · intro h pattern ps hps p hp
    have hlt := lt_of_positions? hps hp
    rwa [h] at hlt

end TreeSieve.Subsequence

namespace TreeSieve.Filter

open Subsequence (Points growth positions?)

variable {settings : Settings} {i : Item} {d : Decision} {q : Query} {p : Nat}

/-- What is highlighted are places given for a term of the query. -/
theorem exists_term_of_mem_highlights (h : p ∈ highlights settings i d q) :
    ∃ t ∈ q.terms, ∃ ps, positions? settings.caseSensitive i.name t = some ps ∧ p ∈ ps := by
  rw [highlights] at h
  split at h
  · cases h
  · split at h
    · next ps hfind =>
      obtain ⟨t, ht, hps⟩ := List.mem_filterMap.mp (List.mem_of_find?_eq_some hfind)
      exact ⟨t, ht, ps, hps, h⟩
    · cases h

/-- **What places point at.**  When a pattern fits a text, there is a place for each character of the
pattern as it is compared; the places increase, and each points at a character of the text that is
alike to one of the pattern: at its own place when the text gains no character before it, and behind
that place otherwise.  All places of all patterns lie within the text exactly when it gains nothing.
What is highlighted in an item with that name points at characters that are alike to some of a term. -/
theorem highlights_comeFrom (cs : Bool) (text : Text) :
    (∀ pattern ps, positions? cs text pattern = some ps →
      ps.length = pattern.length + growth cs pattern ∧ ps.Pairwise (· < ·) ∧
      (∀ p ∈ ps, p < text.length + growth cs text) ∧
      ∀ k p, ps[k]? = some p → Points cs text pattern k p) ∧
    ((∀ pattern ps, positions? cs text pattern = some ps → ∀ p ∈ ps, p < text.length) ↔
      growth cs text = 0) ∧
    ∀ (settings : Settings) (i : Item) (d : Decision) (q : Query),
      settings.caseSensitive = cs → i.name = text →
        ∀ p ∈ highlights settings i d q, ∃ t ∈ q.terms, ∃ k, Points cs text t k p := by
  refine ⟨fun pattern ps h => ?_, Subsequence.forall_lt_length_iff, ?_⟩
  · exact ⟨Subsequence.length_of_positions? h,
      (Subsequence.positions?_eq_some_iff.mp h).embedding.increasing,
      fun _ hp => Subsequence.lt_of_positions? h hp,
      fun _ _ hk => Subsequence.points_of_positions? h hk⟩
  · rintro settings i d q rfl rfl p hp
    obtain ⟨t, ht, ps, hps, hp⟩ := exists_term_of_mem_highlights hp
    obtain ⟨k, hk⟩ := List.getElem?_of_mem hp
    exact ⟨t, ht, k, Subsequence.points_of_positions? hps hk⟩

/-- A file whose name starts with a capital I with dot above. -/
def dottedFile : Item := ⟨"İx".toList, "İx".toList, .file, some Path.root, []⟩

theorem highlights_comeFrom_dottedFile :
    highlights {} dottedFile .fileMatch { terms := [['x']] } = [2] ∧
      ∃ t ∈ [['x']], ∃ k, Points false dottedFile.name t k 2 := by
  have hplaces : highlights {} dottedFile .fileMatch { terms := [['x']] } = [2] := by
    decide +kernel
  obtain ⟨-, -, hpoints⟩ := highlights_comeFrom false dottedFile.name
  exact ⟨hplaces, hpoints {} dottedFile .fileMatch { terms := [['x']] } rfl rfl 2
    (hplaces ▸ List.mem_singleton_self 2)⟩

/-- The `x` in the name of the file stands at 1, and 2 is no place of the name. -/
theorem highlights_outside :
    dottedFile.name[1]? = some 'x' ∧ dottedFile.name.length = 2 ∧
      positions? false dottedFile.name ['x'] = some [2] ∧
      highlights {} dottedFile .fileMatch { terms := [['x']] } = [2] := by
  decide +kernel

end TreeSieve.Filter
