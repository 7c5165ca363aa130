import Mathlib.Data.List.Basic
import TreeSieve.Config.File

/-!
# Proofs — Config — Sections

The sections of a record that should be a configuration.  A fault in them is expected when it says what
is wrong with the sections, and it does just when their names are texts (`checkSections_expected`):
names that are no texts make it fail to name the sections that are not known.
-/

namespace TreeSieve.Config

variable {v : Value}

/-- The value is a record, and the names of its entries are texts. -/
def HasNames (v : Value) : Prop := ∃ entries, v = .map entries ∧ ∀ e ∈ entries, e.1.kind = .text

theorem exists_text (h : v.kind = .text) : ∃ t, v = .text t := by
  cases v with
  | text t => exact ⟨t, rfl⟩
  | cycle isMap => cases isMap <;> cases h
  | _ => cases h

/-- A text is the same key as texts alone. -/
theorem kind_of_sameKey {t : Text} (h : (Value.text t).sameKey v = true) : v.kind = .text := by
  have htext : (Value.text t).fraction? = none := rfl
  cases v with
  | text => rfl
  | float x =>
    cases hx : (Value.float x).fraction? with
    | none => simp only [Value.sameKey, htext, hx, Bool.false_eq_true] at h
    | some r => simp only [Value.sameKey, htext, hx, Bool.false_eq_true] at h
  | _ => simp [Value.sameKey, Value.fraction?] at h

/-- Distinct values with another one. -/
def keepNew (found : List Value) (v : Value) : List Value :=
  if found.any (·.sameKey v) then found else found ++ [v]

theorem subset_foldl_keepNew (vs found : List Value) : found ⊆ vs.foldl keepNew found := by
  induction vs generalizing found with
  | nil => exact List.Subset.refl found
  | cons w vs ih =>
    refine List.Subset.trans ?_ (ih (keepNew found w))
    rw [keepNew]
    split
    · exact List.Subset.refl found
    · exact List.subset_append_left found [w]

/-- A value that is no text is kept itself, or left out for one that is no text. -/
theorem exists_mem_keepNew (found : List Value) (hkind : v.kind ≠ .text) :
    ∃ w ∈ keepNew found v, w.kind ≠ .text := by
  rw [keepNew]
  split
  · next hany =>
    obtain ⟨w, hw, hsame⟩ := List.any_eq_true.mp hany
    refine ⟨w, hw, fun h => hkind ?_⟩
    obtain ⟨t, rfl⟩ := exists_text h
    exact kind_of_sameKey hsame
  · exact ⟨v, List.mem_append_right found (List.mem_singleton_self v), hkind⟩

theorem exists_mem_distinct {vs : List Value} (hv : v ∈ vs) (hkind : v.kind ≠ .text) :
    ∃ w ∈ Value.distinct vs, w.kind ≠ .text := by
  have hfold (found : List Value) : ∃ w ∈ vs.foldl keepNew found, w.kind ≠ .text := by
    induction vs generalizing found with
    | nil => exact absurd hv List.not_mem_nil
    | cons w vs ih =>
      rcases List.mem_cons.mp hv with rfl | hv
      · obtain ⟨w, hw, h⟩ := exists_mem_keepNew found hkind
        exact ⟨w, subset_foldl_keepNew vs _ hw, h⟩
      · exact ih hv _
  exact hfold []

theorem subset_of_mem_distinct {vs : List Value} : Value.distinct vs ⊆ vs := by
  have hfold (ws found : List Value) (hfound : found ⊆ vs) (hws : ws ⊆ vs) :
      ws.foldl keepNew found ⊆ vs := by
    induction ws generalizing found with
    | nil => exact hfound
    | cons w ws ih =>
      obtain ⟨hw, hws⟩ := List.cons_subset.mp hws
      refine ih _ ?_ hws
      rw [keepNew]
      split
      · exact hfound
      · exact List.append_subset.mpr ⟨hfound, List.cons_subset.mpr ⟨hw, List.nil_subset vs⟩⟩
  exact hfold vs [] (List.nil_subset vs) (List.Subset.refl vs)

/-- Sections that are known or not are texts when all that are not known are. -/
theorem forall_unknown_iff {vs : List Value} :
    (∀ v ∈ (Value.distinct vs).filter (!namesSection ·), v.kind = .text) ↔
      ∀ v ∈ vs, v.kind = .text := by
  constructor
  · intro h v hv
    by_contra hkind
    obtain ⟨w, hw, hkind⟩ := exists_mem_distinct hv hkind
    have hknown : namesSection w = false := by
      cases w with
      | text => exact absurd rfl hkind
      | _ => rfl
    exact hkind (h w (List.mem_filter.mpr ⟨hw, by rw [hknown]; rfl⟩))
  · exact fun h v hv => h v (subset_of_mem_distinct (List.mem_of_mem_filter hv))

/-- The names among some values are all of them just when they are texts. -/
theorem length_names_iff (vs : List Value) :
    (vs.filterMap fun | .text t => some t | _ => none).length = vs.length ↔
      ∀ v ∈ vs, v.kind = .text := by
  rw [List.length_filterMap_eq_countP, List.countP_eq_length]
  refine forall₂_congr fun v _ => ?_
  cases v with
  | cycle isMap => cases isMap <;> simp [Value.kind]
  | _ => simp [Value.kind]

/-- Sections that are not known have a fault that is expected just when their names are texts. -/
theorem expected_unknownFault {vs : List Value} {g : SectionFault}
    (h : unknownFault vs = some g) : g.expected = true ↔ ∀ v ∈ vs, v.kind = .text := by
  cases vs with
  | nil => cases h
  | cons v vs =>
    rw [← length_names_iff]
    simp only [unknownFault] at h
    split at h
    · next hlength =>
      cases h
      exact iff_of_true rfl hlength
    · next hlength =>
      refine iff_of_false ?_ hlength
      split at h <;> cases h <;> exact Bool.false_ne_true

theorem forall_of_unknownFault {vs : List Value} (h : unknownFault vs = none) :
    ∀ v ∈ vs, v.kind = .text := by
  cases vs with
  | nil => exact fun v hv => absurd hv List.not_mem_nil
  | cons v vs =>
    simp only [unknownFault] at h
    split at h
    · cases h
    · split at h <;> cases h

/-- The sections of a record, empty ones left aside. -/
def given (entries : List (Value × Value)) : List (Value × Value) :=
  entries.filter fun (_, v) => v.kind ≠ .null

theorem checkSections_map (entries : List (Value × Value)) :
    checkSections (.map entries) =
      match (entries.map Prod.fst).find? (!·.isKey) with
      | some m => .error (.notKey m.kind)
      | none =>
        match unknownFault ((Value.distinct (entries.map Prod.fst)).filter (!namesSection ·)) with
        | some f => .error f
        | none =>
          match (given entries).find? fun (_, v) => v.kind ≠ .map with
          | some (k, _) => .error (.notMap k.toText)
          | none => (ofValue (.map (given entries))).mapError .rejected := rfl

/-- What counts as a record has entries, or is the record around over again. -/
theorem exists_entries_or (hkind : v.kind = .map) :
    (∃ entries, v = .map entries) ∨ v = .cycle true := by
  cases v with
  | map entries => exact .inl ⟨entries, rfl⟩
  | cycle isMap =>
    cases isMap with
    | true => exact .inr rfl
    | false => cases hkind
  | _ => cases hkind

/-- **Sections.**  A record whose sections cannot be read has a fault that is expected just when the
names of the sections are texts. -/
theorem checkSections_expected (hkind : v.kind = .map) {g : SectionFault}
    (h : checkSections v = .error g) : g.expected = true ↔ HasNames v := by
  obtain ⟨entries, rfl⟩ | rfl := exists_entries_or hkind
  · have hnames : HasNames (.map entries) ↔ ∀ k ∈ entries.map Prod.fst, k.kind = .text := by
      simp [HasNames]
    rw [hnames, ← forall_unknown_iff]
    rw [checkSections_map] at h
    split at h
    · next m hm =>
      -- a text is a key, so the name that is none is no text
      cases h
      refine iff_of_false Bool.false_ne_true fun htext => ?_
      obtain ⟨t, rfl⟩ := exists_text (forall_unknown_iff.mp htext m (List.mem_of_find?_eq_some hm))
      exact Bool.false_ne_true (List.find?_some hm)
    · split at h
      · next hf =>
        cases h
        exact expected_unknownFault hf
      · next hf =>
        refine iff_of_true ?_ (forall_of_unknownFault hf)
        split at h
        · cases h
          rfl
        · cases hv : ofValue (.map (given entries)) with
          | ok c => simp [hv, Except.mapError] at h
          | error r =>
            rw [hv] at h
            cases h
            rfl
  · cases h
    exact iff_of_false Bool.false_ne_true fun ⟨entries, h, _⟩ => nomatch h

/-- A record is read only when its sections have names. -/
theorem hasNames_of_ok {c : Config} (hv : v.kind = .map) (h : checkSections v = .ok c) :
    HasNames v := by
  obtain ⟨entries, rfl⟩ | rfl := exists_entries_or hv
  · rw [checkSections_map] at h
    split at h
    · cases h
    · split at h
      · cases h
      · next hf =>
        have hnames := forall_unknown_iff.mp (forall_of_unknownFault hf)
        exact ⟨entries, rfl, fun e he => hnames e.1 (List.mem_map_of_mem he)⟩
  · cases h

end TreeSieve.Config
