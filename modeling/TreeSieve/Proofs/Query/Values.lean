import TreeSieve.Proofs.Query.Joining

/-!
# Proofs — Query — Values

What the values of a query can be that is read from a text.

A token keeps what its place in the text says of it (`Stands`): a term has no blanks, and neither a
phrase nor a pattern holds its own mark.  The value of an operator is trimmed, loses its quotation
marks and is trimmed again, and is dropped when nothing is left of it (`Criterion.IsClean`).  A tag
loses a `#` after that, so blanks may come first in it.

* `ofText?_isClean`: no list of a query holds an empty value, and a query is blank when its text is
  missing or made of blanks, and then only.
-/

namespace TreeSieve

namespace Text

/-- A text without blanks at its two ends. -/
structure IsTrimmed (t : Text) : Prop where
  first : ∀ c ∈ t.head?, isBlank c = false
  last : ∀ c ∈ t.getLast?, isBlank c = false

/-- No blank is left at the ends. -/
theorem isTrimmed_trim (t : Text) : IsTrimmed (trim t) := ⟨head?_trim t, getLast?_trim t⟩

end Text

/-- A criterion whose value is not empty and holds nothing that ends or surrounds it in a text. -/
def Criterion.IsClean : Criterion → Prop
  | term t => t ≠ [] ∧ ∀ c ∈ t, Text.isBlank c = false
  | phrase t => t ≠ [] ∧ '"' ∉ t
  | pattern t => t ≠ [] ∧ '/' ∉ t
  | allow f v | ruleOut f v => v ≠ [] ∧ (f ≠ .tag → Text.IsTrimmed v)
  | content v => v ≠ [] ∧ Text.IsTrimmed v

namespace Query

/-- A list of a query holds the value of a criterion. -/
def Has (q : Query) : Criterion → Prop
  | .term t => t ∈ q.terms
  | .phrase t => t ∈ q.phrases
  | .pattern t => t ∈ q.patterns
  | .allow f v => v ∈ q.allowed f
  | .ruleOut f v => v ∈ q.ruledOut f
  | .content v => v ∈ q.contents

variable {c : Criterion} {cs : List Criterion} {t : Text} {p : Piece} {ps : List Piece}

/-- A query made of criteria has just these. -/
theorem has_ofCriteria_iff : (ofCriteria cs).Has c ↔ c ∈ cs := by
  have hmem : ∀ {get : Criterion → Option Text} {v : Text} {d : Criterion},
      (∀ e, get e = some v ↔ e = d) → (v ∈ cs.filterMap get ↔ d ∈ cs) := by
    intro get v d h
    simp only [List.mem_filterMap, h, exists_eq_right]
  cases c with
  | allow f v | ruleOut f v =>
    cases f <;> refine hmem fun e => ?_ <;>
      cases e <;> simp [Criterion.allow?, Criterion.ruleOut?, eq_comm]
  | _ =>
    refine hmem fun e => ?_
    cases e <;>
      simp [Criterion.term?, Criterion.phrase?, Criterion.pattern?, Criterion.content?]

/-! ### Values of operators -/

/-- The value of an operator has no blanks at its ends, quoted or not. -/
theorem isTrimmed_cleanValue (t : Text) : Text.IsTrimmed (cleanValue t) := by
  simp only [cleanValue]
  split
  · split
    · exact Text.isTrimmed_trim _
    · exact Text.isTrimmed_trim t
  · exact Text.isTrimmed_trim t

/-- An operator gives a clean criterion, or none. -/
theorem isClean_of_operatorCriterion? {negated : Bool} {keyword value : Text}
    (h : operatorCriterion? negated keyword value = some c) : c.IsClean := by
  unfold operatorCriterion? at h
  extract_lets v at h
  -- only a tag is changed behind the trimming
  have htrimmed : keyword ≠ "tag".toList → Text.IsTrimmed v := fun hk => by
    rw [show v = cleanValue value from if_neg hk]
    exact isTrimmed_cleanValue value
  split at h
  · cases h
  · next hempty =>
    have hne : v ≠ [] := fun hnil => hempty (List.isEmpty_iff.mpr hnil)
    split at h
    · next f hf =>
      have hclean : v ≠ [] ∧ (f ≠ .tag → Text.IsTrimmed v) := by
        refine ⟨hne, fun htag => htrimmed fun hk => htag ?_⟩
        rw [hk, show facet? "tag".toList = some .tag from facet?_keyword .tag] at hf
        exact (Option.some.inj hf).symm
      obtain rfl := Option.some.inj h
      cases negated <;> exact hclean
    · next hf =>
      split at h
      · obtain rfl := Option.some.inj h
        refine ⟨hne, htrimmed fun hk => ?_⟩
        rw [hk, show facet? "tag".toList = some .tag from facet?_keyword .tag] at hf
        cases hf
      · cases h

theorem isClean_of_criterionOfOperator? (h : criterionOfOperator? t = some c) : c.IsClean := by
  simp only [criterionOfOperator?] at h
  split at h
  · exact isClean_of_operatorCriterion? h
  · cases h

/-! ### Values of tokens -/

/-- Every piece of a division stands in front of something. -/
theorem Divides.exists_stands (h : Divides t ps) (hp : p ∈ ps) : ∃ rest, Stands p rest := by
  induction h with
  | nil => exact absurd hp List.not_mem_nil
  | @cons _ rest _ hstands _ ih =>
    rcases List.mem_cons.mp hp with rfl | hp
    · exact ⟨rest, hstands⟩
    · exact ih hp

/-- A token that stands in a text gives a clean criterion, or none. -/
theorem isClean_of_stands {token : Token} {rest : Text} (h : Stands (.token token) rest)
    (hc : token.criterion? = some c) : c.IsClean := by
  cases h with
  | operator => exact isClean_of_criterionOfOperator? hc
  | phrase ht | pattern ht =>
    obtain rfl := Option.some.inj hc
    exact ht
  | term hne hword =>
    obtain rfl := Option.some.inj hc
    exact ⟨hne, hword.noBlank⟩

/-- What is read from a text is clean. -/
theorem isClean_of_mem_criteria (h : c ∈ criteria t) : c.IsClean := by
  obtain ⟨token, htoken, hc⟩ := List.mem_filterMap.mp h
  obtain ⟨p, hp, hpt⟩ := List.mem_filterMap.mp htoken
  cases p with
  | token token' =>
    obtain rfl := Option.some.inj hpt
    obtain ⟨rest, hstands⟩ := (divides_pieces t).exists_stands hp
    exact isClean_of_stands hstands hc
  | _ => cases hpt

/-! ### Queries -/

theorem lists_blank : ∀ l ∈ blank.lists, l.2 = [] := by
  simp [lists, blank]

theorem not_has_blank : ¬ blank.Has c := by
  cases c with
  | allow f | ruleOut f => cases f <;> exact List.not_mem_nil
  | _ => exact List.not_mem_nil

/-- Only a text of blanks gives a blank query. -/
theorem isBlank_parse_iff : (parse t).isBlank = true ↔ ∀ c ∈ t, Text.isBlank c = true := by
  rw [← Text.trim_eq_nil_iff]
  by_cases h : Text.trim t = []
  · rw [parse_of_trim_eq_nil h]
    exact iff_of_true rfl h
  · rw [parse_of_trim_ne_nil h]
    exact iff_of_false Bool.false_ne_true h

/-- Whatever the text, the criteria read from it are clean. -/
theorem isClean_of_has_parse (h : (parse t).Has c) : c.IsClean := by
  by_cases htrim : Text.trim t = []
  · rw [parse_of_trim_eq_nil htrim] at h
    exact absurd h not_has_blank
  · rw [parse_of_trim_ne_nil htrim, has_ofCriteria_iff] at h
    exact isClean_of_mem_criteria h

/-- **No empty value is ever looked for.**  A query is blank when its text is missing or made of blanks,
and only then; its lists are empty in that case.  In every query that is read, no value is empty, terms
have no blanks, phrases and patterns do not hold their marks, and all other values but tags are
trimmed. -/
theorem ofText?_isClean (raw : Option Text) :
    ((ofText? raw).isBlank = true ↔ ∀ t ∈ raw, ∀ c ∈ t, Text.isBlank c = true) ∧
      ((ofText? raw).isBlank = true → ∀ l ∈ (ofText? raw).lists, l.2 = []) ∧
      ∀ c, (ofText? raw).Has c → c.IsClean := by
  cases raw with
  | none => exact ⟨iff_of_true rfl nofun, fun _ => lists_blank, fun _ h => absurd h not_has_blank⟩
  | some t =>
    have hblank : (parse t).isBlank = true → ∀ l ∈ (parse t).lists, l.2 = [] := fun h => by
      rw [parse_of_trim_eq_nil (Text.trim_eq_nil_iff.mpr (isBlank_parse_iff.mp h))]
      exact lists_blank
    refine ⟨?_, hblank, fun _ => isClean_of_has_parse⟩
    simp only [Option.mem_some_iff, forall_eq']
    exact isBlank_parse_iff

example : parse "tag:\"# x\" path:\" \"".toList = { allowTags := [" x".toList] } := by cbv

end Query

end TreeSieve
