import TreeSieve.Proofs.Cache

/-!
# Proofs — Criteria

How the answer of a search depends on the values of its query.

A query has lists whose values rule items out, one for each facet, and lists of which an item must
meet some value when there is any (`Gate`).  An item is accepted when no value rules it out and it
meets every gate.

* `accepts_ofQuery`: the answer of a search, value by value.
* `accepts_of_narrows`, `accepts_of_widens`: values that rule out, and values in gates without any,
  leave fewer items accepted; values in gates that have some leave more.
-/

namespace TreeSieve

/-- A list of a query of which an item must meet some value when there is any. -/
inductive Gate where
  | folder
  | file
  | path
  | tag
  | phrase
  | pattern
  | term
  deriving DecidableEq, Repr

namespace Query

/-- The values of a facet that rule items out. -/
def ruledOut (q : Query) : Facet → List Text
  | .path => q.ruleOutPaths
  | .folder => q.ruleOutFolders
  | .file => q.ruleOutFiles
  | .tag => q.ruleOutTags

/-- The values of a gate. -/
def sought (q : Query) : Gate → List Text
  | .folder => q.allowFolders
  | .file => q.allowFiles
  | .path => q.allowPaths
  | .tag => q.allowTags
  | .phrase => q.phrases
  | .pattern => q.patterns
  | .term => q.terms

/-- The same values, in any order and any number of times. -/
def SameValues (vs ws : List Text) : Prop := ∀ v, v ∈ vs ↔ v ∈ ws

/-- `r` is `q` with further values that rule out, and with values in gates that have none in `q`. -/
structure Narrows (q r : Query) : Prop where
  ruledOut : ∀ f, q.ruledOut f ⊆ r.ruledOut f
  sought : ∀ g, q.sought g = [] ∨ SameValues (q.sought g) (r.sought g)

/-- `r` is `q` with further values in gates that have some in `q`. -/
structure Widens (q r : Query) : Prop where
  ruledOut : ∀ f, SameValues (q.ruledOut f) (r.ruledOut f)
  sought : ∀ g, SameValues (q.sought g) (r.sought g)
    ∨ (q.sought g ≠ [] ∧ q.sought g ⊆ r.sought g)

/-- The lists of `r` hold the values of those of `q`, content values apart. -/
structure SameCriteria (q r : Query) : Prop where
  ruledOut : ∀ f, SameValues (q.ruledOut f) (r.ruledOut f)
  sought : ∀ g, SameValues (q.sought g) (r.sought g)

/-- Equality of values does not depend on the side. -/
theorem SameValues.symm {vs ws : List Text} (h : SameValues vs ws) : SameValues ws vs :=
  fun v => (h v).symm

theorem SameValues.eq_nil {vs ws : List Text} (h : SameValues vs ws) (hv : vs = []) : ws = [] :=
  List.eq_nil_iff_forall_not_mem.mpr fun v hw => by
    rw [hv] at h
    exact List.not_mem_nil ((h v).mpr hw)

theorem SameCriteria.symm {q r : Query} (h : SameCriteria q r) : SameCriteria r q :=
  ⟨fun f => (h.ruledOut f).symm, fun g => (h.sought g).symm⟩

/-- Equal criteria narrow each other. -/
theorem SameCriteria.narrows {q r : Query} (h : SameCriteria q r) : Narrows q r :=
  ⟨fun f _ hv => (h.ruledOut f _).mp hv, fun g => .inr (h.sought g)⟩

end Query

namespace Search

/-! ### One value -/

/-- Whether a value of a facet rules an item out. -/
def valueRulesOut (cs : Bool) (i : Item) (v : Text) : Facet → Bool
  | .path => Text.occurs v i.path
  | .folder => Subsequence.fits cs i.matchName v || Text.occurs v i.path
  | .file => Subsequence.fits cs i.matchName v
  | .tag => i.tags.contains v

/-- Whether an item meets a value of a gate. -/
def meets (cs : Bool) (i : Item) (v : Text) : Gate → Bool
  | .folder =>
    if i.isFolder then Subsequence.fits cs i.matchName v || Text.occurs v i.path
    else i.parent ≠ Path.root && (Text.occurs v i.parent
      || ((Text.parts '/' i.parent).filter (!·.isEmpty)).any (Subsequence.fits cs · v))
  | .file => !i.isFolder && Subsequence.fits cs i.matchName v
  | .path => Text.occurs v i.path
  | .tag => i.tags.contains v
  | .phrase => Text.occurs (Text.lower v) (Text.lower i.matchName)
  | .pattern => (Regex.pattern? (flags cs) v).any fun p => p.finds i.matchName || p.finds i.path
  | .term => Subsequence.fits cs i.matchName v || (i.isFolder && Subsequence.fits cs i.path v)

/-- Whether an item meets a gate: the gate has no values, or the item meets one of them. -/
def Passes (q : Query) (cs : Bool) (i : Item) (g : Gate) : Prop :=
  q.sought g = [] ∨ ∃ v ∈ q.sought g, meets cs i v g = true

/-- Whether some value rules an item out. -/
def Barred (q : Query) (cs : Bool) (i : Item) (f : Facet) : Prop :=
  ∃ v ∈ q.ruledOut f, valueRulesOut cs i v f = true

/-! ### The answer of a search, value by value -/

/-- A gate is passed without values, or by one of them. -/
theorem gate_iff {vs : List Text} {test : Text → Bool} :
    gate vs (vs.any test) = true ↔ vs = [] ∨ ∃ v ∈ vs, test v = true := by
  simp only [gate, Bool.or_eq_true, List.isEmpty_iff, List.any_eq_true]

/-- An item is ruled out just when some facet bars it. -/
theorem rulesOut_iff {q : Query} {cs : Bool} {i : Item} :
    ((ofQuery q cs).rulesOut i || carries q.ruleOutTags i) = true ↔ ∃ f, Barred q cs i f := by
  simp only [rulesOut, carries, Bool.or_eq_true, List.any_eq_true]
  constructor
  · rintro (((⟨v, hv, h⟩ | ⟨v, hv, h⟩) | ⟨v, hv, h⟩) | ⟨v, hv, h⟩)
    · exact ⟨.path, v, hv, h⟩
    · exact ⟨.folder, v, hv, Bool.or_eq_true _ _ ▸ h⟩
    · exact ⟨.file, v, hv, h⟩
    · exact ⟨.tag, v, hv, h⟩
  · rintro ⟨f, v, hv, h⟩
    cases f with
    | path => exact .inl (.inl (.inl ⟨v, hv, h⟩))
    | folder => exact .inl (.inl (.inr ⟨v, hv, Bool.or_eq_true _ _ ▸ h⟩))
    | file => exact .inl (.inr ⟨v, hv, h⟩)
    | tag => exact .inr ⟨v, hv, h⟩

theorem allowsFolder_eq (q : Query) (cs : Bool) (i : Item) :
    (ofQuery q cs).allowsFolder i = q.allowFolders.any (meets cs i · .folder) := by
  unfold allowsFolder
  cases hf : i.isFolder with
  | true => simp only [meets, hf, if_true]; rfl
  | false =>
    by_cases hp : i.parent = Path.root
    · simp [meets, hf, hp]
    · simp only [meets, hf, hp, if_false, ne_eq, not_false_eq_true, decide_true, Bool.true_and,
        Bool.false_eq_true]
      rfl

theorem allowsFile_eq (q : Query) (cs : Bool) (i : Item) :
    (ofQuery q cs).allowsFile i = q.allowFiles.any (meets cs i · .file) := by
  unfold allowsFile meets
  cases i.isFolder with
  | true => simp
  | false => rfl

theorem hasPattern_eq (q : Query) (cs : Bool) (i : Item) :
    (ofQuery q cs).hasPattern i = q.patterns.any (meets cs i · .pattern) := by
  unfold hasPattern meets ofQuery
  rw [List.any_filterMap]
  exact congrArg _ (funext fun v => by cases Regex.pattern? (flags cs) v <;> rfl)

/-- **The answer of a search**: an item is accepted when no value rules it out and it meets every
gate. -/
theorem accepts_ofQuery {q : Query} {cs : Bool} {i : Item} :
    (ofQuery q cs).accepts i = true ↔ (∀ f, ¬ Barred q cs i f) ∧ ∀ g, Passes q cs i g := by
  have hout : (∀ f, ¬ Barred q cs i f) ↔
      (ofQuery q cs).rulesOut i = false ∧ carries q.ruleOutTags i = false := by
    rw [← Bool.or_eq_false_iff, ← Bool.not_eq_true, rulesOut_iff, not_exists]
  have hin : (∀ g, Passes q cs i g) ↔
      gate q.allowFolders ((ofQuery q cs).allowsFolder i) = true
        ∧ gate q.allowFiles ((ofQuery q cs).allowsFile i) = true
        ∧ gate q.allowPaths ((ofQuery q cs).allowsPath i) = true
        ∧ gate q.allowTags (carries q.allowTags i) = true
        ∧ gate q.phrases ((ofQuery q cs).hasPhrase i) = true
        ∧ gate q.patterns ((ofQuery q cs).hasPattern i) = true
        ∧ gate q.terms ((ofQuery q cs).hasTerm i) = true := by
    rw [allowsFolder_eq, allowsFile_eq, hasPattern_eq]
    constructor
    · intro h
      exact ⟨gate_iff.mpr (h .folder), gate_iff.mpr (h .file), gate_iff.mpr (h .path),
        gate_iff.mpr (h .tag), gate_iff.mpr (h .phrase), gate_iff.mpr (h .pattern),
        gate_iff.mpr (h .term)⟩
    · rintro ⟨hfolder, hfile, hpath, htag, hphrase, hpattern, hterm⟩ g
      cases g with
      | folder => exact gate_iff.mp hfolder
      | file => exact gate_iff.mp hfile
      | path => exact gate_iff.mp hpath
      | tag => exact gate_iff.mp htag
      | phrase => exact gate_iff.mp hphrase
      | pattern => exact gate_iff.mp hpattern
      | term => exact gate_iff.mp hterm
  rw [hout, hin]
  simp only [accepts, admits, Bool.and_eq_true, Bool.not_eq_true', and_assoc]
  constructor
  · rintro ⟨hr, h₁, h₂, h₃, h₄, ht, h⟩
    exact ⟨hr, ht, h₁, h₂, h₃, h₄, h⟩
  · rintro ⟨hr, ht, h₁, h₂, h₃, h₄, h⟩
    exact ⟨hr, h₁, h₂, h₃, h₄, ht, h⟩

/-! ### Changing the values -/

variable {q r : Query} {cs : Bool} {i : Item}

/-- Which gates are passed depends on the values sought alone. -/
theorem Passes.of_same {g : Gate} (h : Query.SameValues (q.sought g) (r.sought g))
    (hp : Passes q cs i g) : Passes r cs i g := by
  rcases hp with hp | ⟨v, hv, hm⟩
  · exact .inl (h.eq_nil hp)
  · exact .inr ⟨v, (h v).mp hv, hm⟩

/-- Fewer items are accepted by a narrower query. -/
theorem accepts_of_narrows (h : q.Narrows r) (ha : (ofQuery r cs).accepts i = true) :
    (ofQuery q cs).accepts i = true := by
  obtain ⟨hout, hin⟩ := accepts_ofQuery.mp ha
  refine accepts_ofQuery.mpr ⟨fun f => ?_, fun g => ?_⟩
  · rintro ⟨v, hv, hb⟩
    exact hout f ⟨v, h.ruledOut f hv, hb⟩
  · rcases h.sought g with hg | hg
    · exact .inl hg
    · exact (hin g).of_same hg.symm

/-- More items are accepted by a wider query. -/
theorem accepts_of_widens (h : q.Widens r) (ha : (ofQuery q cs).accepts i = true) :
    (ofQuery r cs).accepts i = true := by
  obtain ⟨hout, hin⟩ := accepts_ofQuery.mp ha
  refine accepts_ofQuery.mpr ⟨fun f => ?_, fun g => ?_⟩
  · rintro ⟨v, hv, hb⟩
    exact hout f ⟨v, (h.ruledOut f v).mpr hv, hb⟩
  · rcases h.sought g with hg | ⟨hne, hg⟩
    · exact (hin g).of_same hg
    · rcases hin g with hnil | ⟨v, hv, hm⟩
      · exact absurd hnil hne
      · exact .inr ⟨v, hg hv, hm⟩

/-- Equal criteria accept the same items. -/
theorem accepts_of_sameCriteria (h : q.SameCriteria r) :
    (ofQuery q cs).accepts i = (ofQuery r cs).accepts i := by
  rw [Bool.eq_iff_iff]
  exact ⟨accepts_of_narrows h.symm.narrows, accepts_of_narrows h.narrows⟩

end Search

end TreeSieve
