import TreeSieve.Yaml.Lexer
import TreeSieve.Proofs.Yaml.Place

/-!
# Proofs — Yaml — Lines

How a written document is cut into tokens, line by line.

`Cut` says what a text is cut into where no key is pending, in terms of the margins and the column only,
and `CutLines` what it is cut into from the start of a line on, where lines without tokens may come
first.

* `CutLines.run_eq`, `CutLines.run_feed`: on a new line keys that are pending are dropped, and the
  document is cut as if there were none.
* `CutLines.exists_gap`: the line breaks and spaces that a plain scalar leaves behind.
* `Cut.endBlock`, `Cut.nil`: a block ends before a line that is set in less, and at the end of the text.
-/

namespace TreeSieve.Yaml

variable {c : Char} {u v w : Text} {i n k m inset column margin count fuel : Nat}
  {margins : List Nat} {allowed : Bool} {tokens out : List Token} {awaited? : Option Nat}

namespace Lexer

/-! ### Blanks -/

/-- A text begins with a token, or ends. -/
structure Opens (u : Text) : Prop where
  starts : Starts u
  noHash : u.head? ≠ some '#'

theorem opens_nil : Opens [] := ⟨starts_nil, by simp⟩

theorem opens_cons (hc : Style.isClear c = true) (hspace : c ≠ ' ') (hhash : c ≠ '#') :
    Opens (c :: u) :=
  ⟨starts_cons_of_isClear hc hspace, by simpa using hhash⟩

variable {l : Lexer}

theorem skipBlank_opens (hp : l.place = ⟨List.replicate m ' ' ++ u, i, n, k⟩) (hu : Opens u) :
    skipBlank (fuel + 1) l = { l with place := ⟨u, i + m, n, k + m⟩ } := by
  rw [skipBlank, hp, skipSpaces_spaces hu.starts.head_ne]
  simp only [Place.next?, hu.noHash, if_false, Place.lineBreak?_starts hu.starts]

theorem skipBlank_feed (hp : l.place = ⟨'\n' :: u, i, n, k⟩) : skipBlank (fuel + 1) l =
    skipBlank fuel { l with place := ⟨u, i + 1, n + 1, 0⟩, keyAllowed := l.keyAllowed || !l.inFlow } := by
  rw [skipBlank, hp]
  rfl

/-- What is cut next: blanks are skipped, and keys that are out of date are dropped. -/
def settle (l : Lexer) : Scans Lexer := (skipBlank (l.place.rest.length + 1) l).dropStale

/-- The cutting where no key is pending, outside of brackets. -/
def fresh (p : Place) (tokens : List Token) (count margin : Nat) (margins : List Nat)
    (allowed : Bool) : Lexer :=
  { place := p, tokens, count, margin, margins, keyAllowed := allowed }

/-- All keys that are pending may be dropped on a line. -/
def Droppable (l : Lexer) (line : Nat) : Prop :=
  ∀ x ∈ l.keys, x.2.required = false ∧ x.2.line < line

theorem droppable_fresh {p : Place} {line : Nat} :
    (fresh p tokens count margin margins allowed).Droppable line := fun _ hx => by cases hx

theorem dropStale_of_droppable (h : l.Droppable l.place.line) :
    l.dropStale = .ok { l with keys := [] } := by
  have hany : l.keys.any (fun x => l.isStale x.2 && x.2.required) = false :=
    List.any_eq_false.2 fun x hx => by simp [(h x hx).1]
  have hfilter : l.keys.filter (fun x => !l.isStale x.2) = [] :=
    List.filter_eq_nil_iff.2 fun x hx => by simp [isStale, Nat.ne_of_lt (h x hx).2]
  rw [dropStale]
  simp only [hany, hfilter, Bool.false_eq_true, if_false]

theorem settle_opens (hp : l.place = ⟨List.replicate m ' ' ++ u, i, n, k⟩) (hu : Opens u)
    (hdepth : l.depth = 0) (hkeys : l.Droppable n) :
    settle l = .ok (fresh ⟨u, i + m, n, k + m⟩ l.tokens l.count l.margin l.margins l.keyAllowed) := by
  rw [settle, skipBlank_opens hp hu, dropStale_of_droppable hkeys, fresh, hdepth]

theorem settle_fresh (hu : Opens u) : settle (fresh ⟨u, i, n, k⟩ tokens count margin margins allowed) =
    .ok (fresh ⟨u, i, n, k⟩ tokens count margin margins allowed) :=
  settle_opens (m := 0) (u := u) (i := i) (n := n) (k := k) rfl hu rfl droppable_fresh

/-! ### Blank lines and comments -/

/-- A comment is skipped up to its line feed. -/
theorem skipBlank_comment (hp : l.place = ⟨'#' :: (w ++ '\n' :: u), i, n, k⟩) (hw : AreClear w) :
    skipBlank (fuel + 1) l = skipBlank (fuel + 1)
      { l with place := ⟨'\n' :: u, i + (w.length + 1), n, k + (w.length + 1)⟩ } := by
  have hline : Place.skipLine ⟨'#' :: (w ++ '\n' :: u), i, n, k⟩ =
      ⟨'\n' :: u, i + (w.length + 1), n, k + (w.length + 1)⟩ := by
    have hclear : AreClear ('#' :: w) := List.forall_mem_cons.2 ⟨by decide, hw⟩
    have h := Place.span_clear (u := '\n' :: u) (i := i) (n := n) (k := k) (q := (! isBreak ·)) hclear
      (fun c hc => by simp [Style.isBreak_of_isClear (hclear c hc)]) (by simp; decide)
    exact congrArg Prod.snd h
  have hspaces : Place.skipSpaces ⟨'#' :: (w ++ '\n' :: u), i, n, k⟩ =
      ⟨'#' :: (w ++ '\n' :: u), i, n, k⟩ := rfl
  rw [skipBlank, hp, hspaces]
  simp only [Place.next?, List.head?_cons, if_true, hline, Place.lineBreak?_feed]
  exact (skipBlank_feed (l := { l with place := ⟨'\n' :: u, _, n, _⟩ }) rfl).symm

/-- A line without a token: it is empty or a comment. -/
inductive IsNote : Text → Prop
  | empty : IsNote []
  | comment {w : Text} (hw : AreClear w) : IsNote ('#' :: w)

/-- Lines without tokens, and a line that is set in. -/
def between (notes : List Text) (inset : Nat) (u : Text) : Text :=
  notes.flatMap (· ++ ['\n']) ++ (List.replicate inset ' ' ++ u)

theorem between_cons (note : Text) (notes : List Text) :
    between (note :: notes) inset u = note ++ '\n' :: between notes inset u := by
  simp [between]

/-- Lines without tokens are skipped, and a key may begin behind them. -/
theorem skipBlank_between {notes : List Text} (hnotes : ∀ note ∈ notes, IsNote note)
    (hp : l.place = ⟨between notes inset u, i, n, 0⟩) (hu : Opens u) (hkey : l.keyAllowed = true)
    (hfuel : notes.length < fuel) : ∃ i' n', n ≤ n' ∧
      skipBlank fuel l = { l with place := ⟨u, i', n', inset⟩ } := by
  induction notes generalizing fuel i n l with
  | nil =>
    obtain ⟨fuel, rfl⟩ : ∃ m, fuel = m + 1 := ⟨fuel - 1, by omega⟩
    exact ⟨i + inset, n, Nat.le_refl n, by rw [skipBlank_opens hp hu, Nat.zero_add]⟩
  | cons note notes ih =>
    obtain ⟨fuel, rfl⟩ : ∃ m, fuel = m + 1 := ⟨fuel - 1, by omega⟩
    obtain ⟨hnote, hnotes⟩ := List.forall_mem_cons.1 hnotes
    rw [List.length_cons] at hfuel
    rw [between_cons] at hp
    -- what both kinds of lines come to: a line feed, and the lines behind it
    have hfeed {l : Lexer} {i k : Nat} (hp : l.place = ⟨'\n' :: between notes inset u, i, n, k⟩)
        (hkey : l.keyAllowed = true) : ∃ i' n', n ≤ n' ∧
          skipBlank (fuel + 1) l = { l with place := ⟨u, i', n', inset⟩ } := by
      obtain ⟨i', n', hn, hskip⟩ := ih (l := { l with place := ⟨between notes inset u, i + 1, n + 1, 0⟩ })
        hnotes rfl hkey (by omega : notes.length < fuel)
      refine ⟨i', n', by omega, ?_⟩
      rw [skipBlank_feed hp]
      simpa [hkey] using hskip
    cases hnote with
    | empty => exact hfeed hp hkey
    | comment hw =>
      rw [skipBlank_comment hp hw]
      exact hfeed rfl hkey

theorem length_lt_between (notes : List Text) : notes.length < (between notes inset u).length + 1 := by
  induction notes with
  | nil => exact Nat.succ_pos _
  | cons note notes ih =>
    rw [between_cons, List.length_append, List.length_cons, List.length_cons]
    omega

theorem settle_between {notes : List Text} (hnotes : ∀ note ∈ notes, IsNote note)
    (hp : l.place = ⟨between notes inset u, i, n, 0⟩) (hu : Opens u) (hkey : l.keyAllowed = true)
    (hdepth : l.depth = 0) (hkeys : l.Droppable n) : ∃ i' n',
      settle l = .ok (fresh ⟨u, i', n', inset⟩ l.tokens l.count l.margin l.margins true) := by
  obtain ⟨i', n', hn, hskip⟩ := skipBlank_between hnotes hp hu hkey
    (by rw [hp]; exact length_lt_between notes : notes.length < l.place.rest.length + 1)
  refine ⟨i', n', ?_⟩
  rw [settle, hskip, dropStale_of_droppable, fresh]
  · simp only [hdepth, hkey]
  · intro x hx
    obtain ⟨hrequired, hline⟩ := hkeys x hx
    exact ⟨hrequired, Nat.lt_of_lt_of_le hline hn⟩

/-! ### Steps -/

/-- The tokens from a place on where blanks are skipped and blocks have ended. -/
def runFrom (fuel : Nat) (awaited? : Option Nat) (l : Lexer) : List Token :=
  match l.place.rest with
  | [] =>
    match (l.endBlocks 0).dropKey with
    | .error f => l.broken awaited? f
    | .ok l => (.streamEnd :: l.tokens).reverse
  | c :: _ =>
    match l.next c with
    | .error f => l.broken awaited? f
    | .ok l => run fuel l.awaited? l

theorem run_of_settle {l e : Lexer} (h : settle l = .ok e) :
    run (fuel + 1) awaited? l = runFrom fuel awaited? (e.endBlocks (e.place.column + 1)) := by
  rw [settle] at h
  rw [run, h]
  rfl

theorem runFrom_of_next {l l' : Lexer} (hrest : l.place.rest = c :: v) (hnext : l.next c = .ok l') :
    runFrom fuel awaited? l = run fuel l'.awaited? l' := by
  simp only [runFrom, hrest, hnext]

/-- A token behind which no key is pending. -/
theorem runFrom_of_fresh {p : Place} {l : Lexer} (hrest : l.place.rest = c :: v)
    (hnext : l.next c = .ok (fresh p tokens count margin margins allowed)) :
    runFrom fuel awaited? l = run fuel none (fresh p tokens count margin margins allowed) :=
  runFrom_of_next hrest hnext

/-- Behind a line feed the document is cut from the next line on, and a key may begin there. -/
theorem run_of_feed {l : Lexer} (hp : l.place = ⟨'\n' :: v, i, n, k⟩) (hdepth : l.depth = 0) :
    run (fuel + 1) awaited? l =
      run (fuel + 1) awaited? { l with place := ⟨v, i + 1, n + 1, 0⟩, keyAllowed := true } := by
  have hallowed : (l.keyAllowed || !l.inFlow) = true := by simp [inFlow, hdepth]
  have hsettle : settle l = settle { l with place := ⟨v, i + 1, n + 1, 0⟩, keyAllowed := true } := by
    rw [settle, settle, hp, List.length_cons, skipBlank_feed hp, hallowed]
  rw [run, run, ← settle, ← settle, hsettle]
  rfl

theorem endBlocks_of_le (h : l.margin ≤ m) : l.endBlocks m = l := by
  have hnot : ¬ m < l.margin := Nat.not_lt.2 h
  rw [endBlocks]
  split
  · rfl
  · simp [List.takeWhile, List.dropWhile, hnot]

end Lexer

open Lexer

/-- What is left of a document is cut into tokens, wherever it stands and whatever came before, also when
a token is awaited. -/
def Cut (u : Text) (allowed : Bool) (column margin : Nat) (margins : List Nat) (out : List Token) :
    Prop :=
  ∀ awaited? i n count tokens fuel, u.length < fuel →
    run fuel awaited? (fresh ⟨u, i, n, column⟩ tokens count margin margins allowed) = tokens.reverse ++ out

/-- What settles like a text that is cut is cut likewise. -/
theorem Cut.run_eq (h : Cut u allowed column margin margins out) (hu : Opens u) {l : Lexer}
    (hl : settle l = .ok (fresh ⟨u, i, n, column⟩ tokens count margin margins allowed))
    (hfuel : u.length < fuel) : run fuel awaited? l = tokens.reverse ++ out := by
  obtain ⟨fuel, rfl⟩ : ∃ m, fuel = m + 1 := ⟨fuel - 1, by omega⟩
  rw [run_of_settle hl, ← run_of_settle (settle_fresh hu), h _ _ _ _ _ _ hfuel]

/-- A line feed before what is left; a key may begin behind it. -/
theorem Cut.behind_feed (h : Cut v true 0 margin margins out) :
    Cut ('\n' :: v) allowed column margin margins out := by
  intro awaited? i n count tokens fuel hfuel
  obtain ⟨fuel, rfl⟩ : ∃ m, fuel = m + 1 := ⟨fuel - 1, by omega⟩
  rw [run_of_feed rfl rfl]
  exact h _ _ _ _ _ _ (Nat.lt_of_succ_lt hfuel)

/-- Lines without tokens before what is left. -/
theorem Cut.behind_notes {notes : List Text} (h : Cut u true inset margin margins out) (hu : Opens u)
    (hnotes : ∀ note ∈ notes, IsNote note) :
    Cut (between notes inset u) true 0 margin margins out := by
  intro awaited? i n count tokens fuel hfuel
  obtain ⟨i', n', hsettle⟩ := settle_between (l := fresh ⟨between notes inset u, i, n, 0⟩ tokens count
    margin margins true) hnotes rfl hu rfl rfl droppable_fresh
  refine h.run_eq hu hsettle ?_
  simp only [between, List.length_append] at hfuel
  omega

theorem Cut.behind_spaces (h : Cut u allowed (column + m) margin margins out) (hu : Opens u) :
    Cut (List.replicate m ' ' ++ u) allowed column margin margins out := by
  intro awaited? i n count tokens fuel hfuel
  rw [List.length_append] at hfuel
  exact h.run_eq hu (settle_opens rfl hu rfl droppable_fresh) (by omega)

/-! ### Lines -/

/-- What is left of a document from the start of a line on is cut into tokens. The line with the first
token is set in less than the margin, so that no scalar before it goes on there. -/
structure CutLines (v : Text) (margin : Nat) (margins : List Nat) (out : List Token) : Prop where
  eq_between : ∃ notes inset u, v = between notes inset u ∧ (∀ note ∈ notes, IsNote note) ∧ Opens u ∧
    (0 < inset ∨ Place.atSeparator ⟨u, 0, 0, 0⟩ = false) ∧ inset < margin ∧
    Cut u true inset margin margins out

/-- A document is cut from the start of a line on, whatever keys are pending from lines before. -/
theorem CutLines.run_eq (h : CutLines v margin margins out) {l : Lexer}
    (hp : l.place = ⟨v, i, n, 0⟩) (hkey : l.keyAllowed = true) (hdepth : l.depth = 0)
    (hkeys : l.Droppable n) (hmargin : l.margin = margin) (hmargins : l.margins = margins)
    (hfuel : v.length < fuel) : run fuel awaited? l = l.tokens.reverse ++ out := by
  obtain ⟨notes, inset, u, rfl, hnotes, hu, -, -, hcut⟩ := h
  obtain ⟨i', n', hsettle⟩ := settle_between hnotes hp hu hkey hdepth hkeys
  rw [hmargin, hmargins] at hsettle
  refine hcut.run_eq hu hsettle ?_
  simp only [between, List.length_append] at hfuel
  omega

/-- A document is cut from the end of a line on. -/
theorem CutLines.run_feed (h : CutLines v margin margins out) {l : Lexer}
    (hp : l.place = ⟨'\n' :: v, i, n, k⟩) (hdepth : l.depth = 0) (hkeys : l.Droppable (n + 1))
    (hmargin : l.margin = margin) (hmargins : l.margins = margins) (hfuel : v.length < fuel) :
    run fuel awaited? l = l.tokens.reverse ++ out := by
  obtain ⟨fuel, rfl⟩ : ∃ m, fuel = m + 1 := ⟨fuel - 1, by omega⟩
  rw [run_of_feed hp hdepth]
  exact h.run_eq rfl rfl hdepth hkeys hmargin hmargins hfuel

theorem CutLines.cut (h : CutLines v margin margins out) : Cut v true 0 margin margins out :=
  fun _ _ _ _ _ _ hfuel => h.run_eq rfl rfl rfl droppable_fresh rfl rfl hfuel

theorem CutLines.cut_feed (h : CutLines v margin margins out) :
    Cut ('\n' :: v) allowed column margin margins out := h.cut.behind_feed

/-- A line that begins with a token. -/
theorem Cut.line (h : Cut u true inset margin margins out) (hu : Opens u)
    (hmark : 0 < inset ∨ Place.atSeparator ⟨u, 0, 0, 0⟩ = false) (hinset : inset < margin) :
    CutLines (List.replicate inset ' ' ++ u) margin margins out :=
  ⟨[], inset, u, rfl, by simp, hu, hmark, hinset, h⟩

/-- A line without a token. -/
theorem CutLines.note (h : CutLines v margin margins out) (hw : IsNote w) :
    CutLines (w ++ '\n' :: v) margin margins out := by
  obtain ⟨notes, inset, u, rfl, hnotes, h⟩ := h
  exact ⟨w :: notes, inset, u, (between_cons w notes).symm, List.forall_mem_cons.2 ⟨hw, hnotes⟩, h⟩

/-- Empty lines and spaces are left behind by a plain scalar: what follows is cut from there on. -/
theorem CutLines.exists_gap (h : CutLines v margin margins out) :
    ∃ feeds inset u, v = gap feeds inset u ∧ Starts u ∧
      (0 < inset ∨ Place.atSeparator ⟨u, 0, 0, 0⟩ = false) ∧ inset < margin ∧
      ∀ (l : Lexer) awaited? i n fuel, l.place = ⟨u, i, n, inset⟩ → l.keyAllowed = true → l.depth = 0 →
        l.Droppable n → l.margin = margin → l.margins = margins → u.length < fuel →
        run fuel awaited? l = l.tokens.reverse ++ out := by
  obtain ⟨notes, inset, u, rfl, hnotes, hu, hmark, hinset, hcut⟩ := h
  induction notes with
  | nil =>
    refine ⟨0, inset, u, rfl, hu.starts, hmark, hinset, ?_⟩
    intro l awaited? i n fuel hp hkey hdepth hkeys hmargin hmargins hfuel
    have hsettle := settle_opens (m := 0) (u := u) (i := i) (n := n) (k := inset) hp hu hdepth hkeys
    rw [hkey, hmargin, hmargins] at hsettle
    exact hcut.run_eq hu hsettle hfuel
  | cons note notes ih =>
    obtain ⟨hnote, hrest⟩ := List.forall_mem_cons.1 hnotes
    cases hnote with
    | empty =>
      obtain ⟨feeds, inset', u', heq, h⟩ := ih hrest
      exact ⟨feeds + 1, inset', u', by rw [between_cons, heq, gap_succ]; rfl, h⟩
    | @comment w hw =>
      -- a comment is no part of the scalar, which leaves it to the lexer
      have hlines : CutLines (between (('#' :: w) :: notes) inset u) margin margins out :=
        ⟨_, inset, u, rfl, hnotes, hu, hmark, hinset, hcut⟩
      refine ⟨0, 0, between (('#' :: w) :: notes) inset u, rfl, ?_, .inr ?_, by omega, ?_⟩
      · rw [between_cons]
        exact starts_cons.2 (by decide)
      · rw [between_cons]
        rfl
      · intro l awaited? i n fuel hp hkey hdepth hkeys hmargin hmargins hfuel
        exact hlines.run_eq hp hkey hdepth hkeys hmargin hmargins hfuel

/-! ### Ends -/

/-- At the end of the text the outermost block ends. -/
theorem Cut.nil (hpos : 0 < margin) (hmargin : margin ≤ column + 1) :
    Cut [] allowed column margin [0] [.blockEnd, .streamEnd] := by
  intro awaited? i n count tokens fuel hfuel
  obtain ⟨fuel, rfl⟩ : ∃ m, fuel = m + 1 := ⟨fuel - 1, by omega⟩
  rw [run_of_settle (settle_fresh opens_nil), endBlocks_of_le hmargin]
  simp [runFrom, fresh, endBlocks, inFlow, dropKey, List.takeWhile, List.dropWhile, hpos]

/-- A block ends before a line that is set in less. -/
theorem Cut.endBlock (h : Cut u allowed column m margins out) (hu : Opens u) (hm : m ≤ column + 1)
    (hmargin : column + 1 < margin) :
    Cut u allowed column margin (m :: margins) (.blockEnd :: out) := by
  intro awaited? i n count tokens fuel hfuel
  obtain ⟨fuel, rfl⟩ : ∃ m, fuel = m + 1 := ⟨fuel - 1, by omega⟩
  have hends : (fresh ⟨u, i, n, column⟩ tokens count margin (m :: margins) allowed).endBlocks
      (column + 1) = fresh ⟨u, i, n, column⟩ (.blockEnd :: tokens) (count + 1) m margins allowed := by
    simp [fresh, endBlocks, inFlow, List.takeWhile, List.dropWhile, hmargin, Nat.not_lt.2 hm]
  have hrun := h awaited? i n (count + 1) (.blockEnd :: tokens) (fuel + 1) hfuel
  rw [run_of_settle (settle_fresh hu), endBlocks_of_le hm, List.reverse_cons, List.append_assoc] at hrun
  exact (run_of_settle (settle_fresh hu)).trans ((congrArg _ hends).trans hrun)

end TreeSieve.Yaml
