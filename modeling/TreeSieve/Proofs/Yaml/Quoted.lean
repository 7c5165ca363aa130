import TreeSieve.Proofs.Numerals
import TreeSieve.Proofs.Yaml.Writing

/-!
# Proofs — Yaml — Quoted

Scalars in quotation marks read as the texts they were written for.

What is left of such a scalar reads as a text wherever it stands (`Quotes`).  There is one lemma for
each thing that is written: the closing mark, a character as it stands, an apostrophe written twice, an
escape, a run of spaces, line breaks, a fold.  Each puts its part in front of what reads as the rest.

* `Folds.quotes`, `Spells.quotes`: a text reads as itself in each way to write it.
* `scanQuoted_single`, `scanQuoted_double`: a scalar in quotation marks is a token with its text.
-/

namespace TreeSieve.Yaml

open Number

variable {double : Bool} {c : Char} {s t u v rest : Text} {i n k : Nat}

/-- What is left of a scalar in quotation marks reads as a text, up to `rest`; the place behind it is on
the same line or a later one. -/
def Quotes (double : Bool) (u t rest : Text) : Prop :=
  ∀ i n k, ∃ i' n' k', n ≤ n' ∧ ∀ fuel, u.length < fuel →
    scanQuotedText double fuel ⟨u, i, n, k⟩ = .ok (t, ⟨rest, i', n', k'⟩)

/-- The text in front of one that is read. -/
def before (s : Text) (x : Scans (Text × Place)) : Scans (Text × Place) :=
  x.map fun r => (s ++ r.1, r.2)

/-- One step of the reading puts a text in front of what the rest reads as. -/
theorem Quotes.of_step (h : Quotes double u t rest) (hlen : u.length < v.length)
    (hstep : ∀ i n k, ∃ i' n' k', n ≤ n' ∧ ∀ fuel, v.length ≤ fuel →
      scanQuotedText double (fuel + 1) ⟨v, i, n, k⟩ =
        before s (scanQuotedText double fuel ⟨u, i', n', k'⟩)) :
    Quotes double v (s ++ t) rest := by
  intro i n k
  obtain ⟨i', n', k', hn, hscan⟩ := hstep i n k
  obtain ⟨i'', n'', k'', hn', hread⟩ := h i' n' k'
  refine ⟨i'', n'', k'', Nat.le_trans hn hn', fun fuel hfuel => ?_⟩
  obtain ⟨fuel, rfl⟩ : ∃ m, fuel = m + 1 := ⟨fuel - 1, by omega⟩
  rw [hscan fuel (by omega), hread fuel (by omega)]
  rfl

theorem andThen_eq (s : Text) (x : Scans (Text × Place)) :
    (do let (t', p) ← x; return (s ++ t', p)) = before s x := by
  cases x <;> rfl

/-! ### Steps -/

theorem quotes_close_double : Quotes true ('"' :: rest) [] rest := by
  intro i n k
  refine ⟨i + 1, n, k + 1, Nat.le_refl n, fun fuel hfuel => ?_⟩
  obtain ⟨fuel, rfl⟩ : ∃ m, fuel = m + 1 := ⟨fuel - 1, by omega⟩
  rfl

theorem quotes_close_single (h : rest.head? ≠ some '\'') : Quotes false ('\'' :: rest) [] rest := by
  intro i n k
  refine ⟨i + 1, n, k + 1, Nat.le_refl n, fun fuel hfuel => ?_⟩
  obtain ⟨fuel, rfl⟩ : ∃ m, fuel = m + 1 := ⟨fuel - 1, by omega⟩
  simp [scanQuotedText, h]
  rfl

/-- An apostrophe that is written twice. -/
theorem Quotes.apostrophe (h : Quotes false u t rest) :
    Quotes false ('\'' :: '\'' :: u) ('\'' :: t) rest := by
  refine h.of_step (s := ['\'']) (by rw [List.length_cons, List.length_cons]; omega) fun i n k =>
    ⟨i + 2, n, k + 2, Nat.le_refl n, ?_⟩
  intro fuel hfuel
  simp only [scanQuotedText, andThen_eq]
  rfl

/-- A character that stands for itself between the marks. -/
def isOrdinary (double : Bool) (c : Char) : Bool :=
  Style.isClear c && c ≠ ' ' && (if double then c ≠ '"' && c ≠ '\\' else c ≠ '\'')

theorem Quotes.ordinary (h : Quotes double u t rest) (hc : isOrdinary double c = true) :
    Quotes double (c :: u) (c :: t) rest := by
  simp only [isOrdinary, Bool.and_eq_true, decide_eq_true_eq] at hc
  obtain ⟨⟨hclear, hspace⟩, hmark⟩ := hc
  have htab : c ≠ '\t' := Text.ne_of_test hclear (by decide)
  refine h.of_step (s := [c]) (by simp) fun i n k => ⟨i + 1, n, k + 1, Nat.le_refl n, ?_⟩
  intro fuel hfuel
  have hbreak : Place.lineBreak? ⟨c :: u, i, n, k⟩ = none :=
    Place.lineBreak?_starts (starts_cons_of_isClear hclear hspace)
  cases double <;>
    · simp only [Bool.false_eq_true, if_false, if_true, Bool.and_eq_true, decide_eq_true_eq] at hmark
      simp only [scanQuotedText, andThen_eq, hbreak, Place.step_clear hclear, hmark, hspace, htab,
        decide_false, Bool.false_and, Bool.and_false, Bool.or_self, Bool.not_true,
        Bool.false_eq_true, if_false]

/-- A run of spaces. -/
theorem Quotes.spaces (h : Quotes double u t rest) (hne : u ≠ []) (hu : Starts u) (m : Nat) :
    Quotes double (List.replicate m ' ' ++ u) (List.replicate m ' ' ++ t) rest := by
  obtain ⟨c, v, rfl⟩ : ∃ c v, u = c :: v := List.exists_cons_of_ne_nil hne
  obtain ⟨hspace, htab, hbreak⟩ := hu.cons_ne
  cases m with
  | zero => exact h
  | succ m =>
    refine h.of_step (by simp) fun i n k =>
      ⟨i + (m + 1), n, k + (m + 1), Nat.le_refl n, fun fuel hfuel => ?_⟩
    have hspan := span_spaces (q := fun c => c = ' ' || c = '\t') (i := i) (n := n) (k := k) rfl
      (u := c :: v) (by simp [hspace, htab]) (m + 1)
    rw [List.replicate_succ, List.cons_append] at hspan ⊢
    rw [scanQuotedText]
    simp only [andThen_eq, hspan, Place.next?, List.head?_cons, hbreak, Char.reduceEq, decide_false,
      decide_true, Bool.false_and, Bool.true_or, Bool.false_eq_true, if_false, if_true]

/-- Line breaks: of several the first one goes, and a single one is a space. -/
theorem Quotes.breaks (h : Quotes double u t rest) (hu : Starts u) {indent : Nat} (hs : 0 < indent)
    (m : Nat) :
    Quotes double ('\n' :: gap m indent u) (foldBreaks '\n' (List.replicate m '\n') ++ t) rest := by
  refine h.of_step (by rw [List.length_cons, length_gap]; omega) fun i n k =>
    ⟨i + 1 + m + indent, n + 1 + m, indent, by omega, fun fuel hfuel => ?_⟩
  have hfuel' : m < fuel := by
    simp only [List.length_cons, length_gap] at hfuel
    omega
  have hgap := scanQuotedBreaks_gap (i := i + 1) (n := n + 1) hu hs hfuel'
  cases double <;>
    · rw [scanQuotedText]
      simp only [andThen_eq, Place.lineBreak?_feed, hgap, Char.reduceEq, decide_false,
        Bool.false_and, Bool.or_self, Bool.false_eq_true, if_false]
      rfl

/-! ### Escapes -/

theorem toNat_lt (c : Char) : c.toNat < 0x110000 := by
  rcases c.valid with h | h
  · exact Nat.lt_trans h (by decide)
  · exact h.2

theorem scanQuotedText_backslash (fuel : Nat) :
    scanQuotedText true (fuel + 1) ⟨'\\' :: u, i, n, k⟩ =
      (scanEscape fuel ⟨u, i + 1, n, k + 1⟩).bind fun r =>
        before r.1 (scanQuotedText true fuel r.2) := by
  rw [scanQuotedText]
  simp only [andThen_eq, Char.reduceEq, decide_false, decide_true, Bool.false_and,
    Bool.true_and, Bool.false_eq_true, if_false, if_true]
  rw [Place.step_clear (by decide)]
  rfl

/-- A new line that a backslash takes away again. -/
theorem Quotes.fold (h : Quotes true u t rest) (hu : Starts u) {indent : Nat} (hs : 0 < indent) :
    Quotes true ('\\' :: newLine indent ++ u) t rest := by
  refine h.of_step (s := [])
    (by simp only [newLine, List.length_append, List.length_cons]; omega) fun i n k =>
    ⟨i + 1 + 1 + 0 + indent, n + 1 + 0, indent, by omega, fun fuel hfuel => ?_⟩
  have hgap := scanQuotedBreaks_gap (i := i + 1 + 1) (n := n + 1) hu hs
    (by simp only [newLine, List.length_append, List.length_cons] at hfuel; omega : 0 < fuel)
  have hescape : scanEscape fuel ⟨newLine indent ++ u, i + 1, n, k + 1⟩ =
      scanQuotedBreaks fuel ⟨gap 0 indent u, i + 1 + 1, n + 1, 0⟩ := rfl
  rw [List.cons_append, scanQuotedText_backslash, hescape, hgap]
  rfl

/-- A short escape. -/
theorem Quotes.shortEscape (h : Quotes true u t rest) {l : Char} (hl : Style.isClear l = true)
    (hc : shortEscape? l = some c.toNat) : Quotes true ('\\' :: l :: u) (c :: t) rest := by
  refine h.of_step (s := [c]) (by rw [List.length_cons, List.length_cons]; omega) fun i n k =>
    ⟨i + 1 + 1, n, k + 1 + 1, Nat.le_refl n, ?_⟩
  intro fuel hfuel
  rw [scanQuotedText_backslash]
  simp only [scanEscape, hc, Place.step_clear hl, Char.ofNat_toNat]
  rfl

/-- An escape by number. -/
theorem Quotes.numberEscape (h : Quotes true u t rest) {l : Char} (hl : Style.isClear l = true)
    (hshort : shortEscape? l = none) {width : Nat} (hwidth : escapeDigits? l = some width)
    (hpos : 0 < width) (hc : c.toNat < Nat.pow 16 width) :
    Quotes true ('\\' :: l :: capitalHex width c.toNat ++ u) (c :: t) rest := by
  have hlen := length_capitalHex hpos hc
  refine h.of_step (s := [c])
    (by simp only [List.length_append, List.length_cons]; omega) fun i n k =>
    ⟨i + 1 + (width + 1), n, k + 1 + (width + 1), Nat.le_refl n, fun fuel hfuel => ?_⟩
  have hchar : charOfNumber c.toNat = .ok c := by
    rw [charOfNumber, if_pos (toNat_lt c), Char.ofNat_toNat]
  -- the digits are as many as are read, so none of what follows is taken for one
  have htake : (capitalHex width c.toNat ++ u).take width = capitalHex width c.toNat :=
    List.take_left' hlen
  have hdigits : (capitalHex width c.toNat).all isHexDigit = true :=
    List.all_eq_true.2 fun d hd => isHexDigit_of_mem_capitalHex hd
  have hskip : Place.skip (width + 1) ⟨l :: (capitalHex width c.toNat ++ u), i + 1, n, k + 1⟩ =
      ⟨u, i + 1 + (width + 1), n, k + 1 + (width + 1)⟩ := by
    have hclear : AreClear (l :: capitalHex width c.toNat) :=
      List.forall_mem_cons.2 ⟨hl, fun d hd => isClear_of_mem_capitalHex hd⟩
    have h := Place.skip_clear (u := u) (i := i + 1) (n := n) (k := k + 1) hclear
    rwa [List.length_cons, hlen] at h
  rw [List.cons_append, List.cons_append, scanQuotedText_backslash]
  simp only [scanEscape, hshort, hwidth, List.drop_succ_cons, List.drop_zero, htake, hlen, hdigits,
    decide_true, Bool.and_self, if_true, ofDigits_capitalHex, hchar, hskip]
  rfl

theorem shortEscape?_of_escapeLetter? {l : Char} (h : escapeLetter? c = some l) :
    Style.isClear l = true ∧ shortEscape? l = some c.toNat := by
  unfold escapeLetter? at h
  split at h <;> cases h
  all_goals
    next hc => exact ⟨by decide, by rw [hc]; rfl⟩

/-- A character as an escape. -/
theorem Quotes.escape (h : Quotes true u t rest) (c : Char) :
    Quotes true (escape c ++ u) (c :: t) rest := by
  rw [Yaml.escape]
  split
  · next l hl =>
    obtain ⟨hclear, hshort⟩ := shortEscape?_of_escapeLetter? hl
    exact h.shortEscape hclear hshort
  · have hc : c.toNat < Nat.pow 16 8 := Nat.lt_trans (toNat_lt c) (by decide)
    split
    · next hx => exact h.numberEscape (by decide) rfl rfl (by decide) hx
    · split
      · next hu => exact h.numberEscape (by decide) rfl rfl (by decide) hu
      · exact h.numberEscape (by decide) rfl rfl (by decide) hc

/-! ### Scalars -/

theorem isOrdinary_of_needsNoEscape (hc : needsNoEscape c = true) (hspace : c ≠ ' ') :
    isOrdinary true c = true := by
  simp only [needsNoEscape, Bool.and_eq_true, decide_eq_true_eq] at hc
  simp [isOrdinary, hc, hspace]

theorem Spells.starts {indent : Nat} (h : Spells indent t u) (hu : u.head? ≠ some ' ') :
    Starts (u ++ '"' :: rest) := by
  cases h with
  | nil => exact starts_cons.2 (by decide)
  | @char c t u hc h =>
    simp only [needsNoEscape, Bool.and_eq_true] at hc
    exact starts_cons_of_isClear hc.1.1 (by simpa using hu)
  | escape c h =>
    rw [List.append_assoc]
    obtain ⟨v, hv⟩ := List.head?_eq_some_iff.1 (head?_escape_append c (_ ++ '"' :: rest))
    rw [hv]
    exact starts_cons.2 (by decide)
  | space h => exact starts_cons.2 (by decide)
  | fold hu h => exact starts_cons.2 (by decide)

/-- A text with escapes reads as itself. Spaces before it are read along, since a run of spaces is
read in one go. -/
theorem Spells.quotes_spaces {indent : Nat} (hs : 0 < indent) (h : Spells indent t u) (m : Nat) :
    Quotes true (List.replicate m ' ' ++ (u ++ '"' :: rest)) (List.replicate m ' ' ++ t) rest := by
  induction h generalizing m with
  | nil =>
    exact quotes_close_double.spaces (List.cons_ne_nil _ _) (starts_cons.2 (by decide)) m
  | @char c t u hc h ih =>
    -- a space goes to the run before it
    by_cases hspace : c = ' '
    · subst hspace
      have hrun := ih (m + 1)
      rwa [List.replicate_succ', List.append_assoc, List.append_assoc] at hrun
    · have hordinary := isOrdinary_of_needsNoEscape hc hspace
      exact ((ih 0).ordinary hordinary).spaces (List.cons_ne_nil _ _)
        ((Spells.char hc h).starts (by simpa using hspace)) m
  | @escape c t u h ih =>
    have hstarts : Starts (Yaml.escape c ++ u ++ '"' :: rest) :=
      (Spells.escape c h).starts (by rw [head?_escape_append]; decide)
    rw [List.append_assoc] at hstarts ⊢
    exact ((ih 0).escape c).spaces (by rw [← List.append_assoc]; simp) hstarts m
  | @space t u h ih =>
    exact ((ih 0).shortEscape (by decide) rfl).spaces (List.cons_ne_nil _ _)
      (starts_cons.2 (by decide)) m
  | @fold t u hu h ih =>
    rw [List.append_assoc]
    exact ((ih 0).fold (h.starts hu) hs).spaces (List.cons_ne_nil _ _)
      (starts_cons.2 (by decide)) m

/-- A text without escapes reads as itself. -/
theorem Folds.quotes {indent : Nat} (hs : 0 < indent) (h : Folds true indent t u)
    (hrest : rest.head? ≠ some '\'') : Quotes false (u ++ '\'' :: rest) t rest := by
  have hclose : Starts ('\'' :: rest) := starts_cons.2 (by decide)
  induction h with
  | nil => exact quotes_close_single hrest
  | @char c t u hc hspace hquote h ih =>
    exact ih.ordinary (by simpa [isOrdinary, hc, hspace] using hquote)
  | apostrophe hquoted h ih => exact ih.apostrophe
  | spaces m ht h ih =>
    rw [List.append_assoc]
    exact ih.spaces (by simp) (h.starts ht fun _ => hclose) (m + 1)
  | fold hne ht h ih =>
    have hbreaks := ih.breaks (h.starts ht fun _ => hclose) hs 0
    rwa [newLine, List.cons_append, List.cons_append, List.append_assoc]
  | feeds m ht h ih =>
    have hbreaks := ih.breaks (h.starts ht fun _ => hclose) hs (m + 1)
    rw [List.cons_append]
    simpa [gap, foldBreaks] using hbreaks

/-- A scalar in apostrophes is a token with its text. -/
theorem scanQuoted_single {indent : Nat} (hs : 0 < indent) (ht : Style.needsEscapes t = false)
    (hrest : rest.head? ≠ some '\'') (column : Nat) :
    ∃ i' n' k', n ≤ n' ∧
      scanQuoted ⟨'\'' :: (writeFolded true indent none column t ++ '\'' :: rest), i, n, k⟩ =
        .ok (.scalar false t, ⟨rest, i', n', k'⟩) := by
  have hfolds := folds_writeFolded true indent none column t ht (by simp) (by simp)
  obtain ⟨i', n', k', hn, hread⟩ := hfolds.quotes hs hrest (i + 1) n (k + 1)
  refine ⟨i', n', k', hn, ?_⟩
  rw [scanQuoted, Place.step_clear (by decide)]
  simp only [Place.next?, List.head?_cons, Option.some.injEq, Char.reduceEq, decide_false]
  rw [hread _ (by rw [List.length_cons]; omega)]
  rfl

/-- A scalar in quotation marks is a token with its text. -/
theorem scanQuoted_double {indent : Nat} (hs : 0 < indent) (hw : indent < lineWidth) (column : Nat) :
    ∃ i' n' k', n ≤ n' ∧
      scanQuoted ⟨'"' :: (writeEscaped indent true false column t ++ '"' :: rest), i, n, k⟩ =
        .ok (.scalar false t, ⟨rest, i', n', k'⟩) := by
  have hquotes : Quotes true (writeEscaped indent true false column t ++ '"' :: rest) t rest :=
    (spells_writeEscaped hw true false column t).quotes_spaces hs 0
  obtain ⟨i', n', k', hn, hread⟩ := hquotes (i + 1) n (k + 1)
  refine ⟨i', n', k', hn, ?_⟩
  rw [scanQuoted, Place.step_clear (by decide)]
  simp only [Place.next?, List.head?_cons, decide_true]
  rw [hread _ (by rw [List.length_cons]; omega)]
  rfl

end TreeSieve.Yaml
