import TreeSieve.Proofs.Query.Reading

/-!
# Proofs — Query — Division

How a query text divides into pieces.

Whether a piece may stand in front of what is left of a text is a matter of characters alone
(`Stands`): a phrase ends at the next quotation mark, a pattern at the next slash, a word at the next
blank, and a mark begins a term only when it has no partner.  A text divides into pieces when each of
them may stand in front of the rest (`Divides`).

* `nextPiece_eq_iff`: the piece that is read is the only one that may stand there.
* `divides_uniquely`: **a text divides in exactly one way**, and its tokens are those of this
  division.
-/

namespace TreeSieve.Query

open Criterion (StartsOperator IsPlainBetween between)

variable {c : Char} {t cs v rest : Text} {p : Piece} {ps : List Piece}

/-! ### Where pieces may stand -/

/-- Letters and a colon, with a minus sign before them or without. -/
def IsOperatorHead (h : Text) : Prop :=
  ∃ k : Text, k ≠ [] ∧ (∀ c ∈ k, Text.isAsciiLetter c = true) ∧
    (h = k ++ [':'] ∨ h = '-' :: k ++ [':'])

/-- A text without blanks, in front of a blank or of nothing. -/
structure IsWord (t rest : Text) : Prop where
  noBlank : ∀ c ∈ t, Text.isBlank c = false
  follows : Follows rest

/-- The value of an operator: a text between quotation marks, or a word. It is a word only when no
quotation mark begins it, or when that has no partner in all that is left. -/
inductive IsValue : (value rest : Text) → Prop
  | quoted {v rest : Text} (hv : '"' ∉ v) : IsValue (between '"' v) rest
  | word {v rest : Text} (hv : IsWord v rest) (hquote : ∀ u, v ++ rest = '"' :: u → '"' ∉ u) :
      IsValue v rest

/-- A piece may stand in front of the rest of a text. -/
inductive Stands : Piece → (rest : Text) → Prop
  | blank {c : Char} {rest : Text} (hc : Text.isBlank c = true) : Stands (.blank c) rest
  | emptyQuotes {rest : Text} : Stands .emptyQuotes rest
  | operator {head value rest : Text} (hhead : IsOperatorHead head) (hvalue : IsValue value rest) :
      Stands (.token (.operator (head ++ value))) rest
  | phrase {t rest : Text} (ht : IsPlainBetween '"' t) : Stands (.token (.phrase t)) rest
  | pattern {t rest : Text} (ht : IsPlainBetween '/' t) : Stands (.token (.pattern t)) rest
  | term {t rest : Text} (hne : t ≠ []) (hword : IsWord t rest) (hoperator : ¬ StartsOperator t)
      (hquote : ∀ u, t ++ rest = '"' :: u → '"' ∉ u)
      (hslash : ∀ u, t ++ rest = '/' :: u → '/' ∉ u ∨ u.head? = some '/') :
      Stands (.token (.term t)) rest

/-- A text divides into pieces, each of which may stand in front of those behind it. -/
inductive Divides : Text → List Piece → Prop
  | nil : Divides [] []
  | cons {p : Piece} {rest : Text} {ps : List Piece} (hp : Stands p rest) (h : Divides rest ps) :
      Divides (p.text ++ rest) (p :: ps)

/-- Nothing of a text is lost, and nothing stands in another place. -/
theorem Divides.flatMap_text (h : Divides t ps) : ps.flatMap Piece.text = t := by
  induction h with
  | nil => rfl
  | cons _ _ ih => rw [List.flatMap_cons, ih]

/-! ### The piece that is read may stand there -/

/-- A word ends before the next blank. -/
theorem isWord_word (t : Text) : IsWord (word t).1 (word t).2 where
  noBlank c hc := by simpa using List.mem_takeWhile_imp hc
  follows c hc := by simpa using Text.head?_dropWhile t c hc

/-- The value of an operator is a quoted text, or goes up to the next blank. -/
theorem isValue_operatorValue (t : Text) : IsValue (operatorValue t).1 (operatorValue t).2 := by
  unfold operatorValue
  split
  · next u =>
    split
    · next v rest h => exact .quoted (Text.cut?_eq_some h).2
    · next h =>
      refine .word (isWord_word _) fun w hw => ?_
      rw [append_word] at hw
      cases hw
      exact Text.not_mem_of_cut?_eq_none h
  · next hquote =>
    refine .word (isWord_word _) fun w hw => ?_
    rw [append_word] at hw
    exact absurd hw (hquote w)

/-- What starts an operator still does with more behind it. -/
theorem startsOperator_append (h : StartsOperator t) (rest : Text) :
    StartsOperator (t ++ rest) := by
  obtain ⟨k, hne, hk, h⟩ := h
  have hprefix : t <+: t ++ rest := List.prefix_append t rest
  exact ⟨k, hne, hk, h.imp (·.trans hprefix) (·.trans hprefix)⟩

theorem stands_termPiece (hc : Text.isBlank c = false) (hhead : operatorHead? (c :: cs) = none)
    (hquote : c = '"' → '"' ∉ cs) (hslash : c = '/' → '/' ∉ cs ∨ cs.head? = some '/') :
    Stands (termPiece c cs).1 (termPiece c cs).2 := by
  have happend : c :: (word cs).1 ++ (word cs).2 = c :: cs := congrArg (c :: ·) (append_word cs)
  refine .term (List.cons_ne_nil _ _)
    ⟨List.forall_mem_cons.mpr ⟨hc, (isWord_word cs).noBlank⟩, (isWord_word cs).follows⟩
    (fun hop => not_startsOperator hhead (happend ▸ startsOperator_append hop (word cs).2))
    (fun u hu => ?_) fun u hu => ?_
  · rw [termPiece, happend] at hu
    cases hu
    exact hquote rfl
  · rw [termPiece, happend] at hu
    cases hu
    exact hslash rfl

/-- **The next piece** stands at the start of what is left. -/
theorem stands_nextPiece (c : Char) (cs : Text) :
    Stands (nextPiece c cs).1 (nextPiece c cs).2 := by
  unfold nextPiece
  split
  · next hc => exact .blank hc
  · next hc =>
    have hc : Text.isBlank c = false := by simpa using hc
    split
    · next head rest h => exact .operator (operatorHead?_eq_some h) (isValue_operatorValue rest)
    · next hhead =>
      split
      · next hmark =>
        split
        · next rest h =>
          split
          · exact .emptyQuotes
          · next hquote =>
            refine stands_termPiece hc hhead (fun h => absurd h hquote) fun hslash => .inr ?_
            rw [(Text.cut?_eq_some h).1, hslash]
            rfl
        · next v rest hv h =>
          have hbetween : IsPlainBetween c v := ⟨fun hnil => hv (by rw [hnil]), (Text.cut?_eq_some h).2⟩
          split
          · next hquote => exact .phrase (hquote ▸ hbetween)
          · next hquote =>
            have hslash : c = '/' := by simpa [hquote] using hmark
            exact .pattern (hslash ▸ hbetween)
        · next h =>
          have hnone := Text.not_mem_of_cut?_eq_none h
          exact stands_termPiece hc hhead (fun hquote => hquote ▸ hnone)
            fun hslash => .inl (hslash ▸ hnone)
      · next hmark =>
        have hmark : ¬ (c = '"' ∨ c = '/') := by simpa using hmark
        exact stands_termPiece hc hhead (fun hquote => absurd (.inl hquote) hmark)
          fun hslash => absurd (.inr hslash) hmark

/-! ### No other piece may stand there -/

theorem isHead_of_isOperatorHead {h : Text} (hh : IsOperatorHead h) : IsHead h := by
  obtain ⟨k, hne, hk, rfl | rfl⟩ := hh
  · exact isHead_keyword hne hk
  · exact isHead_minus_keyword hne hk

/-- Only one value can follow an operator. -/
theorem IsValue.operatorValue (h : IsValue v rest) : operatorValue (v ++ rest) = (v, rest) := by
  cases h with
  | quoted hv => exact operatorValue_between hv rest
  | word hv hquote =>
    rw [← word_append hv.noBlank hv.follows]
    unfold Query.operatorValue
    split
    · next u hu => rw [Text.cut?_of_not_mem (hquote u hu)]
    · rfl

/-- An operator is found before all else. -/
theorem nextPiece_of_isOperatorHead {head value : Text} (hhead : IsOperatorHead head)
    (hvalue : IsValue value rest) (h : head ++ value ++ rest = c :: cs) :
    nextPiece c cs = (.token (.operator (head ++ value)), rest) := by
  obtain ⟨⟨x, xs, rfl, hx⟩, happend⟩ := isHead_of_isOperatorHead hhead
  simp only [List.cons_append, List.append_assoc, List.cons.injEq] at h
  obtain ⟨rfl, rfl⟩ := h
  have hread : operatorHead? (x :: (xs ++ (value ++ rest))) = some (x :: xs, value ++ rest) :=
    happend (value ++ rest)
  simp only [nextPiece, hx, hread, hvalue.operatorValue, Bool.false_eq_true, if_false]

/-- What begins no operator, phrase or pattern is a term up to the next blank. -/
theorem nextPiece_of_isWord (hword : IsWord (c :: t) rest) (hoperator : ¬ StartsOperator (c :: t))
    (hquote : c = '"' → '"' ∉ t ++ rest)
    (hslash : c = '/' → '/' ∉ t ++ rest ∨ (t ++ rest).head? = some '/') :
    nextPiece c (t ++ rest) = (.token (.term (c :: t)), rest) := by
  obtain ⟨hc, ht⟩ := List.forall_mem_cons.mp hword.noBlank
  have hhead : operatorHead? (c :: (t ++ rest)) = none :=
    operatorHead?_eq_none hoperator hword.follows
  have hterm : termPiece c (t ++ rest) = (.token (.term (c :: t)), rest) := by
    rw [termPiece, word_append ht hword.follows]
  simp only [nextPiece, hc, hhead, Bool.false_eq_true, if_false]
  split
  · next hmark =>
    rcases (by simpa using hmark : c = '"' ∨ c = '/') with rfl | rfl
    · rw [Text.cut?_of_not_mem (hquote rfl)]
      exact hterm
    · rcases hslash rfl with hnone | hnext
      · rw [Text.cut?_of_not_mem hnone]
        exact hterm
      · obtain ⟨u, hu⟩ := List.head?_eq_some_iff.mp hnext
        rw [hu] at hterm ⊢
        exact hterm
  · exact hterm

/-- **Only one piece** can stand at the start of a text. -/
theorem nextPiece_of_stands (hp : Stands p rest) (h : p.text ++ rest = c :: cs) :
    nextPiece c cs = (p, rest) := by
  cases hp with
  | blank hc =>
    obtain ⟨rfl, rfl⟩ := List.cons.inj h
    rw [nextPiece, if_pos hc]
    rfl
  | emptyQuotes =>
    obtain ⟨rfl, rfl⟩ := List.cons.inj h
    rfl
  | operator hhead hvalue => exact nextPiece_of_isOperatorHead hhead hvalue h
  | phrase ht =>
    obtain ⟨rfl, rfl⟩ := List.cons.inj h
    exact nextPiece_between (.inl rfl) ht rest
  | pattern ht =>
    obtain ⟨rfl, rfl⟩ := List.cons.inj h
    exact nextPiece_between (.inr rfl) ht rest
  | @term t _ hne hword hoperator hquote hslash =>
    obtain ⟨x, t, rfl⟩ := List.exists_cons_of_ne_nil hne
    obtain ⟨rfl, rfl⟩ := List.cons.inj h
    exact nextPiece_of_isWord hword hoperator (fun hx => hquote _ (by rw [hx]; rfl))
      fun hx => hslash _ (by rw [hx]; rfl)

/-- **The piece that is read** at the start of a text is the only one that may stand there. -/
theorem nextPiece_eq_iff :
    nextPiece c cs = (p, rest) ↔ p.text ++ rest = c :: cs ∧ Stands p rest := by
  constructor
  · intro h
    have happend := append_nextPiece c cs
    have hstands := stands_nextPiece c cs
    rw [h] at happend hstands
    exact ⟨happend, hstands⟩
  · rintro ⟨h, hp⟩
    exact nextPiece_of_stands hp h

/-! ### The division of a text -/

/-- No piece is empty. -/
theorem Stands.text_ne_nil (hp : Stands p rest) : p.text ≠ [] := by
  cases hp with
  | blank | emptyQuotes | phrase | pattern => exact List.cons_ne_nil _ _
  | operator hhead =>
    obtain ⟨⟨x, xs, rfl, -⟩, -⟩ := isHead_of_isOperatorHead hhead
    exact List.cons_ne_nil _ _
  | term hne => exact hne

/-- The pieces divide the text. -/
theorem divides_pieces (t : Text) : Divides t (pieces t) := by
  fun_induction pieces t with
  | case1 => exact .nil
  | case2 c cs ih =>
    have h := Divides.cons (stands_nextPiece c cs) ih
    rwa [append_nextPiece] at h

/-- Nothing but the pieces divides the text. -/
theorem Divides.eq_pieces (h : Divides t ps) : ps = pieces t := by
  induction h with
  | nil => rw [pieces]
  | @cons p rest ps hp _ ih =>
    obtain ⟨c, cs, hcs⟩ := List.exists_cons_of_ne_nil
      (List.append_ne_nil_of_left_ne_nil hp.text_ne_nil rest)
    rw [hcs, pieces, nextPiece_eq_iff.mpr ⟨hcs, hp⟩, ih]

/-- **A text divides into pieces in exactly one way.**  Put together again the pieces are the text,
so that none of it is lost, doubled or moved; and the tokens among them, in their order, are those
that are read. -/
theorem divides_uniquely (t : Text) :
    ∃ ps, Divides t ps ∧ ps.flatMap Piece.text = t ∧ tokens t = ps.filterMap Piece.token? ∧
      ∀ qs, Divides t qs → qs = ps :=
  ⟨pieces t, divides_pieces t, (divides_pieces t).flatMap_text, rfl, fun _ h => h.eq_pieces⟩

example : tokens "-tag:\"a b\"c \"\"/ //".toList =
    [.operator "-tag:\"a b\"".toList, .term ['c'], .pattern [' '], .term ['/']] := by
  cbv

end TreeSieve.Query
