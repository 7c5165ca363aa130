import Mathlib.Data.List.Permutation
import TreeSieve.Proofs.Path
import TreeSieve.Proofs.Query.Division

/-!
# Proofs — Query — Joining

What is put behind a finished query text leaves the text as it was read.

A closing mark is looked for in all that is left of a text, so what comes behind could close a mark
that had no partner before.  Only tokens that begin with such a mark are open (`Token.isOpen`); a piece
that is not open may stand in front of any longer rest (`Stands.append`), so a text without open tokens
divides as before, whatever follows behind a blank (`Divides.append`).

* `tokens_append_blank`: the tokens, and the lists of the query, are those of the two texts one after
  the other.
-/

namespace TreeSieve.Query

open Criterion (between)

/-- Whether a token begins with a mark that has no partner: a term that begins with a mark of phrases
or patterns, or an operator whose value begins with the only quotation mark in it. -/
def Token.isOpen : Token → Bool
  | term t => t.head? = some '"' || t.head? = some '/'
  | operator t =>
    match Text.cut? ':' t with
    | some (_, '"' :: v) => !v.contains '"'
    | _ => false
  | phrase _ | pattern _ => false

/-- A text in which no token is open. -/
def IsFinished (t : Text) : Prop := ∀ token ∈ tokens t, token.isOpen = false

/-- The lists of two queries, each of the first with that of the second behind it. -/
def append (q r : Query) : Query where
  terms := q.terms ++ r.terms
  allowPaths := q.allowPaths ++ r.allowPaths
  ruleOutPaths := q.ruleOutPaths ++ r.ruleOutPaths
  allowFolders := q.allowFolders ++ r.allowFolders
  ruleOutFolders := q.ruleOutFolders ++ r.ruleOutFolders
  allowFiles := q.allowFiles ++ r.allowFiles
  ruleOutFiles := q.ruleOutFiles ++ r.ruleOutFiles
  allowTags := q.allowTags ++ r.allowTags
  ruleOutTags := q.ruleOutTags ++ r.ruleOutTags
  contents := q.contents ++ r.contents
  phrases := q.phrases ++ r.phrases
  patterns := q.patterns ++ r.patterns
  isBlank := q.isBlank && r.isBlank

variable {a b t v rest : Text} {w : Char} {p : Piece} {ps qs : List Piece}

/-! ### Pieces in front of a longer rest -/

theorem Follows.append (h : Follows rest) (hw : Text.isBlank w = true) (b : Text) :
    Follows (rest ++ w :: b) := by
  cases rest with
  | nil => rintro _ ⟨⟩; exact hw
  | cons c rest => exact h

theorem IsWord.append (h : IsWord t rest) (hw : Text.isBlank w = true) (b : Text) :
    IsWord t (rest ++ w :: b) :=
  ⟨h.noBlank, h.follows.append hw b⟩

/-- What follows is a blank or nothing, so no mark. -/
theorem Follows.head?_ne (h : Follows rest) (hc : Text.isBlank w = false) :
    rest.head? ≠ some w := by
  intro hw
  rw [h w hw] at hc
  exact Bool.noConfusion hc

theorem cut?_colon_head {head : Text} (h : IsOperatorHead head) (value : Text) :
    ∃ key, Text.cut? ':' (head ++ value) = some (key, value) := by
  obtain ⟨k, -, hk, rfl | rfl⟩ := h
  · have hcolon : ':' ∉ k := fun hm => Bool.false_ne_true (hk ':' hm)
    exact ⟨k, by rw [List.append_assoc]; exact Text.cut?_append hcolon value⟩
  · have hcolon : ':' ∉ '-' :: k := by
      rw [List.mem_cons, not_or]
      exact ⟨by decide, fun hm => Bool.false_ne_true (hk ':' hm)⟩
    exact ⟨'-' :: k, by rw [List.append_assoc]; exact Text.cut?_append hcolon value⟩

theorem IsValue.append (h : IsValue v rest) (hopen : ∀ u, v = '"' :: u → '"' ∈ u)
    (hw : Text.isBlank w = true) (b : Text) : IsValue v (rest ++ w :: b) := by
  cases h with
  | quoted hv => exact .quoted hv
  | word hv hquote =>
    refine .word (hv.append hw b) fun u hu => ?_
    cases v with
    | nil =>
      have hhead := (hv.follows.append hw b).head?_ne (show Text.isBlank '"' = false by decide)
      exact absurd (congrArg List.head? hu) hhead
    | cons c v =>
      obtain ⟨rfl, -⟩ := List.cons.inj hu
      exact absurd (List.mem_append_left rest (hopen v rfl)) (hquote _ rfl)

/-- **A piece that is not open** may stand in front of a rest that goes on behind a blank. -/
theorem Stands.append (h : Stands p rest) (hopen : ∀ token ∈ p.token?, token.isOpen = false)
    (hw : Text.isBlank w = true) (b : Text) : Stands p (rest ++ w :: b) := by
  cases h with
  | blank hc => exact .blank hc
  | emptyQuotes => exact .emptyQuotes
  | phrase ht => exact .phrase ht
  | pattern ht => exact .pattern ht
  | @operator head value _ hhead hvalue =>
    refine .operator hhead (hvalue.append (fun u hu => ?_) hw b)
    subst hu
    have hclosed := hopen _ rfl
    obtain ⟨key, hcut⟩ := cut?_colon_head hhead ('"' :: u)
    simpa [Token.isOpen, hcut] using hclosed
  | @term t _ hne hword hoperator hquote hslash =>
    have hclosed : t.head? ≠ some '"' ∧ t.head? ≠ some '/' := by
      simpa [Token.isOpen] using hopen _ rfl
    obtain ⟨c, t, rfl⟩ := List.exists_cons_of_ne_nil hne
    refine .term hne (hword.append hw b) hoperator (fun u hu => ?_) fun u hu => ?_
    · exact absurd (congrArg some (List.cons.inj hu).1) hclosed.1
    · exact absurd (congrArg some (List.cons.inj hu).1) hclosed.2

/-! ### Texts one after the other -/

/-- A finished text divides as before when a blank and another text come behind it. -/
theorem Divides.append (ha : Divides a ps)
    (hopen : ∀ token ∈ ps.filterMap Piece.token?, token.isOpen = false)
    (hw : Text.isBlank w = true) (hb : Divides b qs) :
    Divides (a ++ w :: b) (ps ++ .blank w :: qs) := by
  induction ha with
  | nil => exact .cons (.blank hw) hb
  | @cons p rest ps hp _ ih =>
    have hhead : ∀ token ∈ p.token?, token.isOpen = false := fun token htoken =>
      hopen token (List.mem_filterMap.mpr ⟨p, List.mem_cons_self, htoken⟩)
    have htail : ∀ token ∈ ps.filterMap Piece.token?, token.isOpen = false := fun token htoken => by
      obtain ⟨p', hp', h⟩ := List.mem_filterMap.mp htoken
      exact hopen token (List.mem_filterMap.mpr ⟨p', List.mem_cons_of_mem p hp', h⟩)
    rw [List.append_assoc]
    exact .cons (hp.append hhead hw b) (ih htail)

theorem pieces_append_blank (ha : IsFinished a) (hw : Text.isBlank w = true) (b : Text) :
    pieces (a ++ w :: b) = pieces a ++ .blank w :: pieces b :=
  ((divides_pieces a).append ha hw (divides_pieces b)).eq_pieces.symm

theorem ofCriteria_append (cs ds : List Criterion) :
    ofCriteria (cs ++ ds) = (ofCriteria cs).append (ofCriteria ds) := by
  simp only [ofCriteria, append, List.filterMap_append, Bool.and_false]

theorem parse_of_trim_eq_nil (h : Text.trim t = []) : parse t = blank :=
  if_pos (List.isEmpty_iff.mpr h)

theorem parse_of_trim_ne_nil (h : Text.trim t ≠ []) : parse t = ofCriteria (criteria t) :=
  if_neg fun hempty => h (List.isEmpty_iff.mp hempty)

/-- A text of blanks has no criteria. -/
theorem criteria_eq_nil (h : Text.trim t = []) : criteria t = [] := by
  have hgap := criteria_gap (Text.isBlank_of_trim_eq_nil h) []
  rwa [List.append_nil, criteria_nil] at hgap

/-- A text is blank when both texts around the blank are. -/
theorem trim_append_blank (hw : Text.isBlank w = true) :
    Text.trim (a ++ w :: b) = [] ↔ Text.trim a = [] ∧ Text.trim b = [] := by
  simp only [Text.trim_eq_nil_iff, List.forall_mem_append, List.forall_mem_cons, hw, true_and]

/-- **What is put behind a finished text** with a blank between changes nothing that was read before:
the tokens are those of the one text and then those of the other, and so are the values in each list of
the query. -/
theorem tokens_append_blank (ha : IsFinished a) (hw : Text.isBlank w = true) (b : Text) :
    tokens (a ++ w :: b) = tokens a ++ tokens b ∧
      parse (a ++ w :: b) = (parse a).append (parse b) := by
  have htokens : tokens (a ++ w :: b) = tokens a ++ tokens b := by
    rw [tokens, pieces_append_blank ha hw, List.filterMap_append]
    rfl
  have hcriteria : criteria (a ++ w :: b) = criteria a ++ criteria b := by
    rw [criteria, htokens, List.filterMap_append]
    rfl
  refine ⟨htokens, ?_⟩
  by_cases hta : Text.trim a = []
  · by_cases htb : Text.trim b = []
    · rw [parse_of_trim_eq_nil hta, parse_of_trim_eq_nil htb,
        parse_of_trim_eq_nil ((trim_append_blank hw).mpr ⟨hta, htb⟩)]
      rfl
    · rw [parse_of_trim_eq_nil hta, parse_of_trim_ne_nil htb,
        parse_of_trim_ne_nil fun h => htb ((trim_append_blank hw).mp h).2, hcriteria,
        criteria_eq_nil hta]
      rfl
  · rw [parse_of_trim_ne_nil hta, parse_of_trim_ne_nil fun h => hta ((trim_append_blank hw).mp h).1,
      hcriteria, ofCriteria_append]
    by_cases htb : Text.trim b = []
    · rw [parse_of_trim_eq_nil htb, criteria_eq_nil htb]
      rfl
    · rw [parse_of_trim_ne_nil htb]

/-- A text with a value in quotation marks, a phrase, and an operator without a value at its end. -/
def finishedText : Text := "tag:\"x y\" \"p\"q -folder:".toList

theorem tokens_append_blank_finishedText :
    IsFinished finishedText ∧ Text.isBlank ' ' = true ∧
      tokens (finishedText ++ ' ' :: "a\"b /\"".toList) =
        tokens finishedText ++ tokens "a\"b /\"".toList ∧
      parse (finishedText ++ ' ' :: "a\"b /\"".toList) =
        (parse finishedText).append (parse "a\"b /\"".toList) := by
  have htokens : tokens finishedText = [.operator "tag:\"x y\"".toList, .phrase ['p'], .term ['q'],
      .operator "-folder:".toList] := by
    cbv
  have hfinished : IsFinished finishedText := by
    rw [IsFinished, htokens]
    decide
  exact ⟨hfinished, by decide, tokens_append_blank hfinished (by decide) _⟩

end TreeSieve.Query
