import Mathlib.Data.List.TakeWhile
import TreeSieve.Proofs.Parts
import TreeSieve.Proofs.Query.Rendering
import TreeSieve.Proofs.Text

/-!
# Proofs — Query — Reading

Reading undoes writing.

What is written for a criterion is read as one piece, whatever comes behind it, as long as that
starts with a blank (`readsAs_of_isWritten`): nothing in a value can end it early, and nothing in a
term makes it look like an operator, a phrase or a pattern.  So a text is read criterion by criterion
(`criteria_of_renders`).

* `parse_of_isRendering`: a plain query is read back from each text in which it is written.
-/

namespace TreeSieve

namespace Text

/-! ### Letters -/

theorem isBlank_eq_false_of_letter {c : Char} (h : isAsciiLetter c = true) :
    isBlank c = false := by
  have hn : (97 ≤ c.toNat ∧ c.toNat ≤ 122) ∨ (65 ≤ c.toNat ∧ c.toNat ≤ 90) := by
    simpa [isAsciiLetter, Char.le_def, UInt32.le_iff_toNat_le] using h
  simp only [isBlank, blankTable, CharTable.has, List.any_cons, List.any_nil]
  simp
  omega

theorem letter_of_toLower {c : Char} (h : isAsciiLetter c.toLower = true) :
    isAsciiLetter c = true := by
  unfold Char.toLower at h
  split at h
  · next hc =>
    have hc : 'A' ≤ c ∧ c ≤ 'Z' := hc
    simp [isAsciiLetter, hc]
  · exact h

/-- A text whose lower case is made of letters is made of letters. -/
theorem letters_of_asciiLower {k w : Text} (h : asciiLower k = w)
    (hw : ∀ c ∈ w, isAsciiLetter c = true) : ∀ c ∈ k, isAsciiLetter c = true := fun _ hc =>
  letter_of_toLower (hw _ (h ▸ List.mem_map_of_mem hc))

end Text

namespace Query

open Criterion (StartsOperator IsPlainTerm IsPlainBetween IsPlainValue IsPlainFor IsWritten between)

/-! ### Keywords -/

theorem keyword?_append {k : Text} (hne : k ≠ []) (hk : ∀ c ∈ k, Text.isAsciiLetter c = true)
    (rest : Text) : keyword? (k ++ ':' :: rest) = some (k ++ [':'], rest) := by
  have hcolon : Text.isAsciiLetter ':' = false := by decide
  have htake : (k ++ ':' :: rest).takeWhile Text.isAsciiLetter = k :=
    Text.takeWhile_eq_iff.mpr ⟨hk, _, rfl, fun c hc => by cases hc; exact hcolon⟩
  have hdrop : (k ++ ':' :: rest).dropWhile Text.isAsciiLetter = ':' :: rest := by
    rw [List.dropWhile_append_of_pos hk, List.dropWhile_cons_of_neg (by simp [hcolon])]
  simp only [keyword?, htake, hdrop, List.isEmpty_iff, if_neg hne]

/-- A keyword is made of letters, and a colon stands behind them. -/
theorem keyword?_eq_some {t k rest : Text} (h : keyword? t = some (k, rest)) :
    ∃ w : Text, w ≠ [] ∧ (∀ c ∈ w, Text.isAsciiLetter c = true) ∧ k = w ++ [':'] := by
  simp only [keyword?] at h
  split at h
  · split at h
    · cases h
    · next hne =>
      cases h
      exact ⟨_, by simpa using hne, fun c hc => List.mem_takeWhile_imp hc, rfl⟩
  · cases h

theorem operatorHead?_eq_keyword? {t : Text} (h : t.head? ≠ some '-') :
    operatorHead? t = keyword? t := by
  unfold operatorHead?
  split
  · exact absurd rfl h
  · rfl

/-- What begins an operator makes the text start with one. -/
theorem operatorHead?_eq_some {t k rest : Text} (h : operatorHead? t = some (k, rest)) :
    ∃ w : Text, w ≠ [] ∧ (∀ c ∈ w, Text.isAsciiLetter c = true) ∧
      (k = w ++ [':'] ∨ k = '-' :: w ++ [':']) := by
  unfold operatorHead? at h
  split at h
  · obtain ⟨⟨k', r⟩, hk, he⟩ := Option.map_eq_some_iff.mp h
    cases he
    obtain ⟨w, hne, hw, rfl⟩ := keyword?_eq_some hk
    exact ⟨w, hne, hw, .inr rfl⟩
  · obtain ⟨w, hne, hw, rfl⟩ := keyword?_eq_some h
    exact ⟨w, hne, hw, .inl rfl⟩

/-! ### One piece -/

/-- What may stand behind a criterion: nothing, or a blank. -/
def Follows (rest : Text) : Prop := ∀ c ∈ rest.head?, Text.isBlank c = true

/-- The text is read as one piece, which gives the criterion. -/
def ReadsAs (c : Criterion) (u : Text) : Prop :=
  ∃ x xs, u = x :: xs ∧ Text.isBlank x = false ∧ ∀ rest, Follows rest →
    ∃ tok : Token, nextPiece x (xs ++ rest) = (.token tok, rest) ∧ tok.criterion? = some c

/-- In front of a blank, a term is the whole word. -/
theorem word_append {t rest : Text} (ht : ∀ c ∈ t, Text.isBlank c = false) (hr : Follows rest) :
    word (t ++ rest) = (t, rest) := by
  have ht' : ∀ c ∈ t, (! Text.isBlank c) = true := fun c hc => by rw [ht c hc]; rfl
  have hstop : ∀ c ∈ rest.head?, (! Text.isBlank c) = false := fun c hc => by rw [hr c hc]; rfl
  rw [word, Text.takeWhile_eq_iff.mpr ⟨ht', rest, rfl, hstop⟩, List.dropWhile_append_of_pos ht',
    Text.dropWhile_eq_self hstop]

/-- A word that does not start with an operator does not look like one, whatever stands behind it. -/
theorem operatorHead?_eq_none {t rest : Text} (ht : ¬ StartsOperator t) (hr : Follows rest) :
    operatorHead? (t ++ rest) = none := by
  by_contra hne
  obtain ⟨⟨k, r⟩, h⟩ := Option.ne_none_iff_exists'.mp hne
  -- were there one, its letters and its colon would stand in the term
  obtain ⟨w, hw, hletters, hk⟩ := operatorHead?_eq_some h
  have hword : ∀ c ∈ w ++ [':'], Text.isBlank c = false := by
    intro c hc
    rcases List.mem_append.mp hc with hc | hc
    · exact Text.isBlank_eq_false_of_letter (hletters c hc)
    · rw [List.mem_singleton.mp hc]
      decide
  have hblank : ∀ c ∈ k, Text.isBlank c = false := by
    rcases hk with rfl | rfl
    · exact hword
    · exact List.forall_mem_cons.mpr ⟨by decide, hword⟩
  -- what begins the operator does not reach the blank behind the term
  have hprefix : k <+: t := by
    rcases List.append_eq_append_iff.mp (append_operatorHead? h) with ⟨l, hl, -⟩ | ⟨l, hl, hrest⟩
    · exact ⟨l, hl.symm⟩
    · cases l with
      | nil => exact ⟨[], by simpa using hl⟩
      | cons c l =>
        have hc : Text.isBlank c = true := hr c (by rw [hrest]; rfl)
        exact absurd hc (by rw [hblank c (by rw [hl]; simp)]; exact Bool.false_ne_true)
  refine ht ⟨w, hw, hletters, ?_⟩
  rcases hk with rfl | rfl
  · exact .inl hprefix
  · exact .inr hprefix

theorem readsAs_term {t : Text} (ht : IsPlainTerm t) : ReadsAs (.term t) t := by
  obtain ⟨x, xs, rfl⟩ := List.exists_cons_of_ne_nil ht.ne_nil
  have hx : Text.isBlank x = false := ht.noBlank x List.mem_cons_self
  have hquote : ¬ (x = '"' ∨ x = '/') := by
    rintro (rfl | rfl)
    · exact ht.noQuote rfl
    · exact ht.noSlash rfl
  refine ⟨x, xs, rfl, hx, fun rest hr => ⟨.term (x :: xs), ?_, rfl⟩⟩
  have hhead : operatorHead? (x :: (xs ++ rest)) = none :=
    operatorHead?_eq_none ht.noOperator hr
  have hword := word_append (fun c hc => ht.noBlank c (List.mem_cons_of_mem x hc)) hr
  simp only [nextPiece, hx, hhead, Bool.false_eq_true, if_false, Bool.or_eq_true,
    decide_eq_true_eq, if_neg hquote, termPiece, hword]

/-- Between marks of its own, a text is read up to the second mark. -/
theorem nextPiece_between {mark : Char} (hmark : mark = '"' ∨ mark = '/') {t : Text}
    (ht : IsPlainBetween mark t) (rest : Text) :
    nextPiece mark (t ++ [mark] ++ rest) =
      (.token (if mark = '"' then .phrase t else .pattern t), rest) := by
  obtain ⟨hne, hmem⟩ := ht
  have hcut : Text.cut? mark (t ++ [mark] ++ rest) = some (t, rest) := by
    rw [List.append_assoc, List.singleton_append, Text.cut?_append hmem]
  have hblank : Text.isBlank mark = false := by rcases hmark with rfl | rfl <;> decide
  have hhead : operatorHead? (mark :: (t ++ [mark] ++ rest)) = none := by
    rcases hmark with rfl | rfl <;> rfl
  obtain ⟨c, t, rfl⟩ := List.exists_cons_of_ne_nil hne
  simp only [nextPiece, hblank, hhead, hcut, Bool.false_eq_true, if_false, Bool.or_eq_true,
    decide_eq_true_eq, if_pos hmark]

theorem readsAs_phrase {t : Text} (ht : IsPlainBetween '"' t) :
    ReadsAs (.phrase t) (between '"' t) :=
  ⟨'"', t ++ ['"'], rfl, by decide, fun rest _ =>
    ⟨.phrase t, nextPiece_between (.inl rfl) ht rest, rfl⟩⟩

theorem readsAs_pattern {t : Text} (ht : IsPlainBetween '/' t) :
    ReadsAs (.pattern t) (between '/' t) :=
  ⟨'/', t ++ ['/'], rfl, by decide, fun rest _ =>
    ⟨.pattern t, nextPiece_between (.inr rfl) ht rest, rfl⟩⟩

/-! ### Operators -/

/-- What is read as the head of an operator, whatever comes behind it. -/
structure IsHead (head : Text) : Prop where
  begins : ∃ x xs, head = x :: xs ∧ Text.isBlank x = false
  head?_append : ∀ rest, operatorHead? (head ++ rest) = some (head, rest)

theorem isHead_keyword {k : Text} (hne : k ≠ []) (hk : ∀ c ∈ k, Text.isAsciiLetter c = true) :
    IsHead (k ++ [':']) := by
  obtain ⟨x, k, rfl⟩ := List.exists_cons_of_ne_nil hne
  have hx : Text.isAsciiLetter x = true := hk x List.mem_cons_self
  have hminus : x ≠ '-' := by
    rintro rfl
    exact absurd hx (by decide)
  refine ⟨⟨x, k ++ [':'], rfl, Text.isBlank_eq_false_of_letter hx⟩, fun rest => ?_⟩
  rw [operatorHead?_eq_keyword? (by simpa using hminus), ← List.append_cons,
    keyword?_append hne hk]

theorem isHead_minus_keyword {k : Text} (hne : k ≠ [])
    (hk : ∀ c ∈ k, Text.isAsciiLetter c = true) : IsHead ('-' :: k ++ [':']) := by
  refine ⟨⟨'-', k ++ [':'], rfl, by decide⟩, fun rest => ?_⟩
  rw [List.cons_append, List.cons_append, ← List.append_cons, operatorHead?, keyword?_append hne hk]
  rfl

/-- A text that starts with an operator is read as one. -/
theorem not_startsOperator {t : Text} (h : operatorHead? t = none) : ¬ StartsOperator t := by
  rintro ⟨k, hne, hk, ⟨rest, rfl⟩ | ⟨rest, rfl⟩⟩
  · rw [(isHead_keyword hne hk).head?_append] at h
    cases h
  · rw [(isHead_minus_keyword hne hk).head?_append] at h
    cases h

/-- A value between quotation marks is taken up to the second one. -/
theorem operatorValue_between {v : Text} (hv : '"' ∉ v) (rest : Text) :
    operatorValue (between '"' v ++ rest) = (between '"' v, rest) := by
  have hcut : Text.cut? '"' (v ++ ['"'] ++ rest) = some (v, rest) := by
    rw [List.append_assoc, List.singleton_append, Text.cut?_append hv]
  simp only [between, List.cons_append, operatorValue, hcut]

/-- A value without a quotation mark at its start is taken up to the next blank. -/
theorem operatorValue_bare {v rest : Text} (hne : v ≠ []) (hquote : v.head? ≠ some '"')
    (hv : ∀ c ∈ v, Text.isBlank c = false) (hr : Follows rest) :
    operatorValue (v ++ rest) = (v, rest) := by
  obtain ⟨c, v, rfl⟩ := List.exists_cons_of_ne_nil hne
  have hword : word (c :: v ++ rest) = (c :: v, rest) := word_append hv hr
  unfold operatorValue
  split
  · next u heq => exact absurd (congrArg some (List.cons.inj heq).1) hquote
  · exact hword

/-- An operator with a value that is taken whole is one piece. -/
theorem readsAs_operator {head value : Text} {c : Criterion} (hhead : IsHead head)
    (hvalue : ∀ rest, Follows rest → operatorValue (value ++ rest) = (value, rest))
    (hc : criterionOfOperator? (head ++ value) = some c) : ReadsAs c (head ++ value) := by
  obtain ⟨⟨x, xs, rfl, hx⟩, happend⟩ := hhead
  refine ⟨x, xs ++ value, rfl, hx, fun rest hr => ⟨.operator (x :: xs ++ value), ?_, hc⟩⟩
  have hread : operatorHead? (x :: (xs ++ (value ++ rest))) = some (x :: xs, value ++ rest) :=
    happend (value ++ rest)
  rw [List.append_assoc]
  simp only [nextPiece, hx, hread, hvalue rest hr, Bool.false_eq_true, if_false]

/-- The quotation marks around a value are taken away. -/
theorem cleanValue_between {v : Text} (hv : IsPlainValue v) : cleanValue (between '"' v) = v := by
  have htrim : Text.trim (between '"' v) = between '"' v :=
    Text.trim_eq_self (fun c hc => by cases hc; decide) fun c hc => by
      rw [between, List.getLast?_append] at hc
      cases hc
      decide
  have hrev : (v ++ ['"']).reverse = '"' :: v.reverse := by
    rw [List.reverse_append, List.reverse_singleton, List.singleton_append]
  rw [cleanValue, htrim]
  simp only [between, List.cons_append, hrev, List.reverse_reverse,
    Text.trim_eq_self hv.noBlankFirst hv.noBlankLast]

/-- A value without a quotation mark at its start and blanks around it is left as it is. -/
theorem cleanValue_bare {v : Text} (htrim : Text.trim v = v) (hquote : v.head? ≠ some '"') :
    cleanValue v = v := by
  rw [cleanValue, htrim]
  split
  · exact absurd rfl hquote
  · rfl

theorem normalize_eq_self {v : Text} (hv : IsPlainValue v) (hmark : v.head? ≠ some '#') :
    Tag.normalize v = v := by
  rw [Tag.normalize, Text.trim_eq_self hv.noBlankFirst hv.noBlankLast]
  split
  · exact absurd rfl hmark
  · rfl

theorem facet?_keyword (f : Facet) : facet? f.keyword = some f := by
  cases f <;> decide

theorem operatorCriterion?_keyword {f : Facet} {value v : Text} (hclean : cleanValue value = v)
    (hne : v ≠ []) (htag : f = .tag → Tag.normalize v = v) (negated : Bool) :
    operatorCriterion? negated f.keyword value =
      some (if negated then .ruleOut f v else .allow f v) := by
  have hvalue : (if f.keyword = "tag".toList then Tag.normalize v else v) = v := by
    split
    · next hf => exact htag (Option.some.inj ((facet?_keyword f).symm.trans (congrArg facet? hf)))
    · rfl
  simp only [operatorCriterion?, hclean, hvalue, List.isEmpty_iff, if_neg hne, facet?_keyword]

theorem operatorCriterion?_between {f : Facet} {v : Text} (hv : IsPlainFor f v) (negated : Bool) :
    operatorCriterion? negated f.keyword (between '"' v) =
      some (if negated then .ruleOut f v else .allow f v) :=
  operatorCriterion?_keyword (cleanValue_between hv.1) hv.1.between.1
    (fun hf => normalize_eq_self hv.1 (hv.2 hf)) negated

theorem operatorCriterion?_content {v : Text} (hv : IsPlainValue v) :
    operatorCriterion? false "content".toList (between '"' v) = some (.content v) := by
  have htag : "content".toList ≠ "tag".toList := by decide
  have hfacet : facet? "content".toList = none := by decide
  simp only [operatorCriterion?, cleanValue_between hv, if_neg htag, List.isEmpty_iff,
    if_neg hv.between.1, hfacet, Bool.not_false, Bool.and_true, decide_true, if_true]

/-- The criterion of an operator, by its keyword and what stands behind the colon. -/
theorem criterionOfOperator?_append {k : Text} (hk : ∀ c ∈ k, Text.isAsciiLetter c = true)
    (value : Text) :
    criterionOfOperator? (k ++ [':'] ++ value) = operatorCriterion? false (Text.asciiLower k) value ∧
      criterionOfOperator? ('-' :: k ++ [':'] ++ value) =
        operatorCriterion? true (Text.asciiLower k) value := by
  have hcolon : ':' ∉ k := fun h => absurd (hk ':' h) (by decide)
  have hcut : Text.cut? ':' (k ++ [':'] ++ value) = some (k, value) := by
    rw [← List.append_cons, Text.cut?_append hcolon]
  -- the keyword starts with a letter, so no minus sign is taken off
  have hminus : ∀ rest, k ++ [':'] ++ value ≠ '-' :: rest := by
    intro rest h
    cases k with
    | nil => cases h
    | cons c k =>
      cases h
      exact absurd (hk '-' List.mem_cons_self) (by decide)
  constructor
  · unfold criterionOfOperator?
    split
    next negated body hbody =>
    split at hbody
    · next h => exact absurd h (hminus _)
    · cases hbody
      simp only [hcut]
  · simp only [criterionOfOperator?, List.cons_append, hcut]

/-! ### Any criterion -/

theorem Facet.letters_keyword (f : Facet) : ∀ c ∈ f.keyword, Text.isAsciiLetter c = true :=
  List.all_eq_true.mp (by cases f <;> decide)

/-- What is written for a plain criterion is read as one piece, which gives the criterion. -/
theorem readsAs_of_isWritten {c : Criterion} {u : Text} (hc : c.IsPlain) (hu : IsWritten c u) :
    ReadsAs c u := by
  -- a keyword in any case is not empty and made of letters
  have hkey : ∀ {k w : Text}, Text.asciiLower k = w → w ≠ [] →
      (∀ c ∈ w, Text.isAsciiLetter c = true) →
      k ≠ [] ∧ ∀ c ∈ k, Text.isAsciiLetter c = true := fun hk hne hw =>
    ⟨by rintro rfl; exact hne hk.symm, Text.letters_of_asciiLower hk hw⟩
  have hfacet : ∀ f : Facet, f.keyword ≠ [] := fun f => by cases f <;> decide
  cases hu with
  | term t => exact readsAs_term hc
  | phrase t => exact readsAs_phrase hc
  | pattern t => exact readsAs_pattern hc
  | @allow k f v hk =>
    obtain ⟨hne, hletters⟩ := hkey hk (hfacet f) (Facet.letters_keyword f)
    rw [List.append_cons]
    refine readsAs_operator (isHead_keyword hne hletters)
      (fun rest _ => operatorValue_between hc.1.between.2 rest) ?_
    rw [(criterionOfOperator?_append hletters _).1, hk, operatorCriterion?_between hc]
    rfl
  | @ruleOut k f v hk =>
    obtain ⟨hne, hletters⟩ := hkey hk (hfacet f) (Facet.letters_keyword f)
    rw [List.append_cons]
    refine readsAs_operator (isHead_minus_keyword hne hletters)
      (fun rest _ => operatorValue_between hc.1.between.2 rest) ?_
    rw [(criterionOfOperator?_append hletters _).2, hk, operatorCriterion?_between hc]
    rfl
  | @content k v hk =>
    obtain ⟨hne, hletters⟩ := hkey hk (by decide) (List.all_eq_true.mp (by decide))
    rw [List.append_cons]
    refine readsAs_operator (isHead_keyword hne hletters)
      (fun rest _ => operatorValue_between hc.between.2 rest) ?_
    rw [(criterionOfOperator?_append hletters _).1, hk, operatorCriterion?_content hc]

/-! ### Piece by piece -/

/-- The criteria of a text, from first to last. -/
def criteria (t : Text) : List Criterion := (tokens t).filterMap (·.criterion?)

theorem criteria_cons_of_isBlank {x : Char} (hx : Text.isBlank x = true) (t : Text) :
    criteria (x :: t) = criteria t := by
  have hpiece : nextPiece x t = (.blank x, t) := by rw [nextPiece, if_pos hx]
  simp only [criteria, tokens, pieces, hpiece]
  rfl

theorem criteria_gap {g : Text} (hg : IsGap g) (t : Text) : criteria (g ++ t) = criteria t := by
  induction g with
  | nil => rfl
  | cons x g ih =>
    obtain ⟨hx, hg⟩ := List.forall_mem_cons.mp hg
    rw [List.cons_append, criteria_cons_of_isBlank hx, ih hg]

theorem criteria_append {c : Criterion} {u : Text} (hu : ReadsAs c u) {rest : Text}
    (hr : Follows rest) : criteria (u ++ rest) = c :: criteria rest := by
  obtain ⟨x, xs, rfl, -, hread⟩ := hu
  obtain ⟨tok, hpiece, hc⟩ := hread rest hr
  have htokens : tokens (x :: xs ++ rest) = tok :: tokens rest := by
    simp only [tokens, List.cons_append, pieces, hpiece]
    rfl
  rw [criteria, htokens, List.filterMap_cons_some hc, criteria]

theorem criteria_nil : criteria [] = [] := by
  simp only [criteria, tokens, pieces]
  rfl

/-- What is read as one piece is the query of one criterion. -/
theorem parse_of_readsAs {c : Criterion} {u : Text} (hu : ReadsAs c u) :
    parse u = ofCriteria [c] := by
  have hcriteria : criteria (u ++ []) = c :: criteria [] := criteria_append hu (by simp [Follows])
  rw [List.append_nil, criteria_nil] at hcriteria
  obtain ⟨x, xs, rfl, hx, -⟩ := hu
  have hblank : Text.trim (x :: xs) ≠ [] := fun h =>
    Bool.false_ne_true (hx.symm.trans (Text.isBlank_of_trim_eq_nil h x List.mem_cons_self))
  rw [parse, if_neg (by simpa using hblank), ← criteria, hcriteria]

/-- What is written behind a criterion starts with a blank, if anything is. -/
theorem follows_of_renders {cs : List Criterion} {g t : Text} (hg : IsGap g)
    (hne : cs ≠ [] → g ≠ []) (h : Renders cs t) : Follows (g ++ t) := by
  intro c hc
  cases g with
  | cons x g =>
    cases hc
    exact hg c List.mem_cons_self
  | nil =>
    cases h with
    | nil ht => exact ht c (List.mem_of_mem_head? hc)
    | cons => exact absurd rfl (hne (List.cons_ne_nil _ _))

/-- A text is read as the criteria that are written in it. -/
theorem criteria_of_renders {cs : List Criterion} {t : Text} (h : Renders cs t)
    (hcs : ∀ c ∈ cs, c.IsPlain) : criteria t = cs := by
  -- what stands behind a criterion follows it, whatever the criteria are that come next
  induction h with
  | @nil g hg =>
    have hnil : criteria (g ++ []) = criteria [] := criteria_gap hg []
    rw [List.append_nil] at hnil
    rw [hnil, criteria_nil]
  | cons hu hg hne h ih =>
    obtain ⟨hc, hcs⟩ := List.forall_mem_cons.mp hcs
    rw [criteria_append (readsAs_of_isWritten hc hu) (follows_of_renders hg hne h),
      criteria_gap hg, ih hcs]

/-- A text with a criterion is not blank. -/
theorem trim_ne_nil {cs : List Criterion} {t : Text} (h : Renders cs t)
    (hcs : ∀ c ∈ cs, c.IsPlain) (hne : cs ≠ []) (g : Text) : Text.trim (g ++ t) ≠ [] := by
  intro htrim
  cases h with
  | nil => exact hne rfl
  | @cons c cs u g' t' hu =>
    obtain ⟨x, xs, rfl, hx, -⟩ := readsAs_of_isWritten (hcs c List.mem_cons_self) hu
    have := Text.isBlank_of_trim_eq_nil htrim x (by simp)
    rw [hx] at this
    exact Bool.false_ne_true this

/-- A text in which criteria are written is read as the query of these. -/
theorem parse_of_renders {cs : List Criterion} {g t : Text} (hg : IsGap g) (h : Renders cs t)
    (hcs : ∀ c ∈ cs, c.IsPlain) (hne : cs ≠ []) : parse (g ++ t) = ofCriteria cs := by
  have hblank : Text.trim (g ++ t) ≠ [] := trim_ne_nil h hcs hne g
  rw [parse, if_neg (by simpa using hblank)]
  calc ofCriteria (criteria (g ++ t))
      = ofCriteria (criteria t) := by rw [criteria_gap hg]
    _ = ofCriteria cs := by rw [criteria_of_renders h hcs]

/-- A pattern alone between its slashes. -/
theorem parse_pattern {t : Text} (ht : IsPlainBetween '/' t) :
    parse (between '/' t) = { patterns := [t] } := by
  have hnil : IsGap [] := by decide
  have h := parse_of_renders hnil (.cons (.pattern t) hnil (by simp) (.nil hnil))
    (List.forall_mem_singleton.mpr ht) (List.cons_ne_nil _ _)
  rw [List.append_nil, List.append_nil, List.nil_append] at h
  exact h

/-- **Reading undoes writing.**  A query that has a value, and whose values all can be written, is
read back from each text in which it is written: whatever the order of its criteria, the case of the
keywords and the blanks between them. -/
theorem parse_of_isRendering {q : Query} (hq : q.hasCriteria = true) (hplain : q.IsPlain) {t : Text}
    (ht : IsRendering q t) : parse t = q := by
  obtain ⟨cs, g, body, hcs, hg, hbody, rfl⟩ := ht
  rw [parse_of_renders hg hbody (hcs.isPlain hplain) (hcs.ne_nil hq)]
  exact interleaves_iff.mp hcs

/-- A query with a value in half of its lists. -/
def mixed : Query where
  terms := ["1:30".toList]
  allowTags := ["x y".toList]
  ruleOutFolders := ["a:b/c".toList]
  phrases := ["p /q/".toList]
  patterns := ["r \"s".toList]
  contents := ["z".toList]

/-- The query written as a text. -/
def mixedText : Text :=
  "TAG:\"x y\"  1:30 \"p /q/\" -folder:\"a:b/c\"\t/r \"s/ Content:\"z\" ".toList

theorem isPlain_mixed : mixed.IsPlain where
  terms := List.forall_mem_singleton.mpr
    ⟨by decide, by simpa using (by decide : "1:30".toList.any Text.isBlank = false), by decide,
      by decide, not_startsOperator (by decide)⟩
  phrases := List.forall_mem_singleton.mpr (by decide)
  patterns := List.forall_mem_singleton.mpr (by decide)
  contents := List.forall_mem_singleton.mpr (by decide)
  allowed := by
    intro f
    cases f with
    | tag => exact List.forall_mem_singleton.mpr ⟨by decide, by decide⟩
    | _ => exact fun v hv => absurd hv List.not_mem_nil
  ruledOut := by
    intro f
    cases f with
    | folder => exact List.forall_mem_singleton.mpr ⟨by decide, by decide⟩
    | _ => exact fun v hv => absurd hv List.not_mem_nil

theorem isRendering_mixed : IsRendering mixed mixedText := by
  have hblank : IsGap [' '] := by decide
  have hbody := Renders.cons (.allow (k := "TAG".toList) (f := .tag) "x y".toList rfl)
    (show IsGap [' ', ' '] by decide) (by decide) <| .cons (.term "1:30".toList) hblank (by decide) <|
    .cons (.phrase "p /q/".toList) hblank (by decide) <|
    .cons (.ruleOut (k := "folder".toList) (f := .folder) "a:b/c".toList rfl)
      (show IsGap ['\t'] by decide) (by decide) <|
    .cons (.pattern "r \"s".toList) hblank (by decide) <|
    .cons (.content (k := "Content".toList) "z".toList rfl) hblank (by decide) <|
    .nil (show IsGap [] by decide)
  exact ⟨_, [], _, interleaves_iff.mpr rfl, by decide, hbody, rfl⟩

theorem parse_of_isRendering_mixed :
    mixed.hasCriteria = true ∧ mixed.IsPlain ∧ IsRendering mixed mixedText ∧
      parse mixedText = mixed :=
  ⟨by decide, isPlain_mixed, isRendering_mixed,
    parse_of_isRendering (by decide) isPlain_mixed isRendering_mixed⟩

end Query

end TreeSieve
