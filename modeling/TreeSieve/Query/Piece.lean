import TreeSieve.Text.Blank
import TreeSieve.Text.Letter

/-!
# Query — Piece

A query text is cut into pieces: blanks, dropped pairs `""`, and tokens.  At the start of a token an
operator (`-key:value`) is tried first, then a quoted phrase, then a pattern between slashes; all
else up to the next blank is a term.  A quotation mark or slash without a partner begins a term.

Each piece and what is left behind it are the text before (`append_nextPiece`): nothing is lost.
-/

namespace TreeSieve.Query

/-- A token of a query text. Phrases and patterns are kept without their delimiters, operators whole. -/
inductive Token where
  | term (t : Text)
  | phrase (t : Text)
  | pattern (t : Text)
  | operator (t : Text)
  deriving DecidableEq, Repr

/-- A piece of a query text. -/
inductive Piece where
  | blank (c : Char)
  | emptyQuotes
  | token (t : Token)
  deriving DecidableEq, Repr

namespace Token

/-- The text of a token without its delimiters. -/
def value : Token → Text
  | term t | phrase t | pattern t | operator t => t

/-- The text that a token covers. -/
def text : Token → Text
  | term t | operator t => t
  | phrase t => '"' :: t ++ ['"']
  | pattern t => '/' :: t ++ ['/']

end Token

namespace Piece

/-- The text that a piece covers. -/
def text : Piece → Text
  | blank c => [c]
  | emptyQuotes => ['"', '"']
  | token t => t.text

/-- The token of a piece, if it is one. -/
def token? : Piece → Option Token
  | token t => some t
  | _ => none

end Piece

/-- The text up to the next blank, and the rest. -/
def word (t : Text) : Text × Text :=
  (t.takeWhile (! Text.isBlank ·), t.dropWhile (! Text.isBlank ·))

/-- The keyword of an operator with its colon, and the rest: letters and a colon. -/
def keyword? (t : Text) : Option (Text × Text) :=
  let letters := t.takeWhile Text.isAsciiLetter
  match t.dropWhile Text.isAsciiLetter with
  | ':' :: rest => if letters.isEmpty then none else some (letters ++ [':'], rest)
  | _ => none

/-- The head of an operator, `key:` or `-key:`, and the rest. -/
def operatorHead? : Text → Option (Text × Text)
  | '-' :: t => (keyword? t).map fun (k, rest) => ('-' :: k, rest)
  | t => keyword? t

/-- The value of an operator and the rest: a quoted text if it is closed, else a word. -/
def operatorValue (t : Text) : Text × Text :=
  match t with
  | '"' :: u =>
    match Text.cut? '"' u with
    | some (v, rest) => ('"' :: v ++ ['"'], rest)
    | none => word t
  | _ => word t

/-- The term that starts with `c`, and the rest. -/
def termPiece (c : Char) (cs : Text) : Piece × Text :=
  (.token (.term (c :: (word cs).1)), (word cs).2)

/-- The piece at the start of the text `c :: cs`, and the rest. -/
def nextPiece (c : Char) (cs : Text) : Piece × Text :=
  if Text.isBlank c then (.blank c, cs)
  else match operatorHead? (c :: cs) with
    | some (head, rest) =>
      (.token (.operator (head ++ (operatorValue rest).1)), (operatorValue rest).2)
    | none =>
      if c = '"' || c = '/' then
        match Text.cut? c cs with
        | some ([], rest) => if c = '"' then (.emptyQuotes, rest) else termPiece c cs
        | some (v, rest) => (.token (if c = '"' then .phrase v else .pattern v), rest)
        | none => termPiece c cs
      else termPiece c cs

/-! ### Nothing is lost -/

theorem append_cut? {sep : Char} {t a b : Text} (h : Text.cut? sep t = some (a, b)) :
    a ++ sep :: b = t := by
  induction t generalizing a b with
  | nil => simp [Text.cut?] at h
  | cons c cs ih =>
    simp only [Text.cut?] at h
    split at h
    · next hc => cases h; simp [hc]
    · obtain ⟨⟨a', b'⟩, hab, h'⟩ := Option.map_eq_some_iff.1 h
      cases h'
      simp [ih hab]

theorem append_word (t : Text) : (word t).1 ++ (word t).2 = t := List.takeWhile_append_dropWhile

theorem append_keyword? {t k rest : Text} (h : keyword? t = some (k, rest)) : k ++ rest = t := by
  simp only [keyword?] at h
  split at h
  · next r hr =>
    split at h
    · cases h
    · cases h
      have := List.takeWhile_append_dropWhile (p := Text.isAsciiLetter) (l := t)
      rw [hr] at this
      simpa using this
  · cases h

theorem append_operatorHead? {t k rest : Text} (h : operatorHead? t = some (k, rest)) :
    k ++ rest = t := by
  unfold operatorHead? at h
  split at h
  · obtain ⟨⟨k', r'⟩, hk, h'⟩ := Option.map_eq_some_iff.1 h
    cases h'
    simp [append_keyword? hk]
  · exact append_keyword? h

theorem append_operatorValue (t : Text) : (operatorValue t).1 ++ (operatorValue t).2 = t := by
  unfold operatorValue
  split
  · next u =>
    split
    · next v rest h => simp [append_cut? h]
    · exact append_word _
  · exact append_word _

/-- A piece and the rest are the text. -/
theorem append_nextPiece (c : Char) (cs : Text) :
    (nextPiece c cs).1.text ++ (nextPiece c cs).2 = c :: cs := by
  have hterm : (termPiece c cs).1.text ++ (termPiece c cs).2 = c :: cs := by
    simp [termPiece, Piece.text, Token.text, append_word]
  unfold nextPiece
  split
  · rfl
  · split
    · next head rest h =>
      have hv := append_operatorValue rest
      simp only [Piece.text, Token.text, List.append_assoc, hv, append_operatorHead? h]
    · split
      · next hc =>
        split
        · next rest h =>
          split
          · next hq => subst hq; simp [Piece.text, ← append_cut? h]
          · exact hterm
        · next v rest _ h =>
          rw [← append_cut? h]
          split
          · next hq => subst hq; simp [Piece.text, Token.text]
          · next hq =>
            have hs : c = '/' := by simpa [hq] using hc
            subst hs; simp [Piece.text, Token.text]
        · exact hterm
      · exact hterm

theorem text_nextPiece_ne_nil (c : Char) (cs : Text) : (nextPiece c cs).1.text ≠ [] := by
  unfold nextPiece
  split
  · simp [Piece.text]
  · split
    · next head rest h =>
      have : head ≠ [] := by
        unfold operatorHead? at h
        split at h
        · obtain ⟨⟨k', r'⟩, _, h'⟩ := Option.map_eq_some_iff.1 h
          cases h'; simp
        · simp only [keyword?] at h
          split at h
          · split at h
            · cases h
            · cases h; simp
          · cases h
      simp [Piece.text, Token.text, this]
    · split
      · split
        · split <;> simp [termPiece, Piece.text, Token.text]
        · split <;> simp [Piece.text, Token.text]
        · simp [termPiece, Piece.text, Token.text]
      · simp [termPiece, Piece.text, Token.text]

/-- The rest behind a piece is shorter than the text. -/
theorem length_nextPiece_lt (c : Char) (cs : Text) : (nextPiece c cs).2.length < (c :: cs).length := by
  have h := congrArg List.length (append_nextPiece c cs)
  have := List.length_pos_iff.2 (text_nextPiece_ne_nil c cs)
  simp only [List.length_append] at h
  omega

/-- The pieces of a text, from first to last. -/
def pieces : Text → List Piece
  | [] => []
  | c :: cs => (nextPiece c cs).1 :: pieces (nextPiece c cs).2
termination_by t => t.length
decreasing_by exact length_nextPiece_lt c cs

/-- The tokens of a text, from first to last. -/
def tokens (t : Text) : List Token := (pieces t).filterMap (·.token?)

end TreeSieve.Query
