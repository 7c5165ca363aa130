import TreeSieve.Proofs.Criteria
import TreeSieve.Query.Parser

/-!
# Proofs — Query — Rendering

How a query is written as a text.

The criteria of a query are written in any order in which those of each list keep theirs
(`Interleaves`), with blanks between them (`Renders`).  A term stands as it is, a phrase between
quotation marks, a pattern between slashes, and a value behind its keyword, in any case of letters,
between quotation marks (`Criterion.IsWritten`).

Not every query can be written in this way: its values must not hold the marks that end them, and a
term must not look like something else (`IsPlain`).  A plain query has plain criteria
(`Interleaves.isPlain`).
-/

namespace TreeSieve

/-- The keyword of a facet. -/
def Facet.keyword : Facet → Text
  | .path => "path".toList
  | .folder => "folder".toList
  | .file => "file".toList
  | .tag => "tag".toList

namespace Criterion

/-! ### Criteria that can be written -/

/-- Whether a text starts with letters and a colon, or with these behind a minus sign. -/
def StartsOperator (t : Text) : Prop :=
  ∃ k : Text, k ≠ [] ∧ (∀ c ∈ k, Text.isAsciiLetter c = true) ∧
    (k ++ [':'] <+: t ∨ '-' :: k ++ [':'] <+: t)

/-- A term that can be written as it is. -/
structure IsPlainTerm (t : Text) : Prop where
  ne_nil : t ≠ []
  noBlank : ∀ c ∈ t, Text.isBlank c = false
  noQuote : t.head? ≠ some '"'
  noSlash : t.head? ≠ some '/'
  noOperator : ¬ StartsOperator t

/-- A text that can be written between two marks. -/
def IsPlainBetween (mark : Char) (t : Text) : Prop := t ≠ [] ∧ mark ∉ t

instance (mark : Char) (t : Text) : Decidable (IsPlainBetween mark t) :=
  inferInstanceAs (Decidable (t ≠ [] ∧ mark ∉ t))

/-- A value that can be written behind a keyword. -/
structure IsPlainValue (v : Text) : Prop where
  between : IsPlainBetween '"' v
  noBlankFirst : ∀ c ∈ v.head?, Text.isBlank c = false
  noBlankLast : ∀ c ∈ v.getLast?, Text.isBlank c = false

theorem any_isBlank_eq_false {c? : Option Char} :
    c?.any Text.isBlank = false ↔ ∀ c ∈ c?, Text.isBlank c = false := by
  cases c? <;> simp

instance (v : Text) : Decidable (IsPlainValue v) :=
  decidable_of_iff (IsPlainBetween '"' v ∧ v.head?.any Text.isBlank = false ∧
      v.getLast?.any Text.isBlank = false)
    ⟨fun ⟨h₁, h₂, h₃⟩ => ⟨h₁, any_isBlank_eq_false.mp h₂, any_isBlank_eq_false.mp h₃⟩,
      fun ⟨h₁, h₂, h₃⟩ => ⟨h₁, any_isBlank_eq_false.mpr h₂, any_isBlank_eq_false.mpr h₃⟩⟩

/-- A value that can be written for a facet: a tag must not start with a mark that tags lose. -/
def IsPlainFor (f : Facet) (v : Text) : Prop :=
  IsPlainValue v ∧ (f = .tag → v.head? ≠ some '#')

/-- A criterion that can be written. -/
def IsPlain : Criterion → Prop
  | term t => IsPlainTerm t
  | phrase t => IsPlainBetween '"' t
  | pattern t => IsPlainBetween '/' t
  | allow f v | ruleOut f v => IsPlainFor f v
  | content v => IsPlainValue v

/-- A text between two marks. -/
def between (mark : Char) (t : Text) : Text := mark :: t ++ [mark]

/-- How a criterion is written; `k` is its keyword in some case. -/
inductive IsWritten : Criterion → Text → Prop
  | term (t : Text) : IsWritten (term t) t
  | phrase (t : Text) : IsWritten (phrase t) (between '"' t)
  | pattern (t : Text) : IsWritten (pattern t) (between '/' t)
  | allow {k : Text} {f : Facet} (v : Text) (hk : Text.asciiLower k = f.keyword) :
      IsWritten (allow f v) (k ++ ':' :: between '"' v)
  | ruleOut {k : Text} {f : Facet} (v : Text) (hk : Text.asciiLower k = f.keyword) :
      IsWritten (ruleOut f v) ('-' :: k ++ ':' :: between '"' v)
  | content {k : Text} (v : Text) (hk : Text.asciiLower k = "content".toList) :
      IsWritten (content v) (k ++ ':' :: between '"' v)

end Criterion

namespace Query

open Criterion (IsPlainTerm IsPlainBetween IsPlainValue IsPlainFor IsWritten)

/-! ### Queries that can be written -/

/-- The values that a query allows for a facet. -/
def allowed (q : Query) : Facet → List Text
  | .path => q.allowPaths
  | .folder => q.allowFolders
  | .file => q.allowFiles
  | .tag => q.allowTags

/-- A query whose values all can be written. -/
structure IsPlain (q : Query) : Prop where
  terms : ∀ t ∈ q.terms, IsPlainTerm t
  phrases : ∀ t ∈ q.phrases, IsPlainBetween '"' t
  patterns : ∀ t ∈ q.patterns, IsPlainBetween '/' t
  allowed : ∀ f, ∀ v ∈ q.allowed f, IsPlainFor f v
  ruledOut : ∀ f, ∀ v ∈ q.ruledOut f, IsPlainFor f v
  contents : ∀ v ∈ q.contents, IsPlainValue v

/-! ### The criteria of a query in some order -/

/-- The query with a criterion put in front of its list. -/
def add (q : Query) : Criterion → Query
  | .term t => { q with terms := t :: q.terms }
  | .phrase t => { q with phrases := t :: q.phrases }
  | .pattern t => { q with patterns := t :: q.patterns }
  | .allow .path v => { q with allowPaths := v :: q.allowPaths }
  | .allow .folder v => { q with allowFolders := v :: q.allowFolders }
  | .allow .file v => { q with allowFiles := v :: q.allowFiles }
  | .allow .tag v => { q with allowTags := v :: q.allowTags }
  | .ruleOut .path v => { q with ruleOutPaths := v :: q.ruleOutPaths }
  | .ruleOut .folder v => { q with ruleOutFolders := v :: q.ruleOutFolders }
  | .ruleOut .file v => { q with ruleOutFiles := v :: q.ruleOutFiles }
  | .ruleOut .tag v => { q with ruleOutTags := v :: q.ruleOutTags }
  | .content v => { q with contents := v :: q.contents }

/-- The criteria of a query in an order in which those of each list keep theirs. -/
inductive Interleaves : Query → List Criterion → Prop
  | nil : Interleaves {} []
  | cons {q : Query} {cs : List Criterion} (c : Criterion) (h : Interleaves q cs) :
      Interleaves (q.add c) (c :: cs)

/-- The first criterion is added to the query of the others. -/
theorem ofCriteria_cons (c : Criterion) (cs : List Criterion) :
    ofCriteria (c :: cs) = (ofCriteria cs).add c := by
  cases c with
  | allow f v | ruleOut f v => cases f <;> rfl
  | _ => rfl

/-- Any list of criteria is such an order for the query that is made from it, and for no other. -/
theorem interleaves_iff {q : Query} {cs : List Criterion} :
    Interleaves q cs ↔ ofCriteria cs = q := by
  constructor
  · intro h
    induction h with
    | nil => rfl
    | cons c _ ih => rw [ofCriteria_cons, ih]
  · rintro rfl
    induction cs with
    | nil => exact .nil
    | cons c cs ih => exact ofCriteria_cons c cs ▸ .cons c ih

/-- A query with a value has a criterion. -/
theorem Interleaves.ne_nil {q : Query} {cs : List Criterion} (h : Interleaves q cs)
    (hq : q.hasCriteria = true) : cs ≠ [] := by
  rintro rfl
  cases h
  exact absurd hq (by decide)

/-- A value is added to the list of its own facet. -/
theorem mem_allowed_add {q : Query} {f g : Facet} {v w : Text} :
    w ∈ (q.add (.allow f v)).allowed g ↔ f = g ∧ w = v ∨ w ∈ q.allowed g := by
  cases f <;> cases g <;> simp [add, allowed]

theorem mem_ruledOut_add {q : Query} {f g : Facet} {v w : Text} :
    w ∈ (q.add (.ruleOut f v)).ruledOut g ↔ f = g ∧ w = v ∨ w ∈ q.ruledOut g := by
  cases f <;> cases g <;> simp [add, ruledOut]

/-- When a query is plain with a criterion in front of one of its lists, the criterion is plain and
so is the query without it. -/
theorem IsPlain.of_add {q : Query} {c : Criterion} (h : (q.add c).IsPlain) :
    c.IsPlain ∧ q.IsPlain := by
  obtain ⟨ht, hph, hpa, ha, hr, hc⟩ := h
  cases c with
  | term t =>
    obtain ⟨h₁, h₂⟩ := List.forall_mem_cons.mp ht
    exact ⟨h₁, h₂, hph, hpa, ha, hr, hc⟩
  | phrase t =>
    obtain ⟨h₁, h₂⟩ := List.forall_mem_cons.mp hph
    exact ⟨h₁, ht, h₂, hpa, ha, hr, hc⟩
  | pattern t =>
    obtain ⟨h₁, h₂⟩ := List.forall_mem_cons.mp hpa
    exact ⟨h₁, ht, hph, h₂, ha, hr, hc⟩
  | content v =>
    obtain ⟨h₁, h₂⟩ := List.forall_mem_cons.mp hc
    exact ⟨h₁, ht, hph, hpa, ha, hr, h₂⟩
  | allow f v =>
    have h₁ : IsPlainFor f v := ha f v (mem_allowed_add.mpr (.inl ⟨rfl, rfl⟩))
    have h₂ : ∀ g, ∀ w ∈ q.allowed g, IsPlainFor g w := fun g w hw =>
      ha g w (mem_allowed_add.mpr (.inr hw))
    cases f <;> exact ⟨h₁, ht, hph, hpa, h₂, hr, hc⟩
  | ruleOut f v =>
    have h₁ : IsPlainFor f v := hr f v (mem_ruledOut_add.mpr (.inl ⟨rfl, rfl⟩))
    have h₂ : ∀ g, ∀ w ∈ q.ruledOut g, IsPlainFor g w := fun g w hw =>
      hr g w (mem_ruledOut_add.mpr (.inr hw))
    cases f <;> exact ⟨h₁, ht, hph, hpa, ha, h₂, hc⟩

/-- What a plain query interleaves is plain. -/
theorem Interleaves.isPlain {q : Query} {cs : List Criterion} (h : Interleaves q cs)
    (hq : q.IsPlain) : ∀ c ∈ cs, c.IsPlain := by
  induction h with
  | nil => exact fun c hc => absurd hc List.not_mem_nil
  | cons c _ ih =>
    obtain ⟨hc, hq⟩ := hq.of_add
    exact List.forall_mem_cons.mpr ⟨hc, ih hq⟩

/-! ### The text of a query -/

/-- A run of blanks, which may be empty. -/
def IsGap (g : Text) : Prop := ∀ c ∈ g, Text.isBlank c = true

instance (g : Text) : Decidable (IsGap g) :=
  decidable_of_iff (g.all Text.isBlank = true) List.all_eq_true

/-- The criteria written one after the other, with blanks between neighbours. -/
inductive Renders : List Criterion → Text → Prop
  | nil {g : Text} (hg : IsGap g) : Renders [] g
  | cons {c : Criterion} {cs : List Criterion} {u g t : Text} (hu : IsWritten c u) (hg : IsGap g)
      (hne : cs ≠ [] → g ≠ []) (h : Renders cs t) : Renders (c :: cs) (u ++ (g ++ t))

/-- The query written as a text: its criteria in some order, with blanks between and around them. -/
def IsRendering (q : Query) (t : Text) : Prop :=
  ∃ cs g body, Interleaves q cs ∧ IsGap g ∧ Renders cs body ∧ t = g ++ body

end Query

end TreeSieve
