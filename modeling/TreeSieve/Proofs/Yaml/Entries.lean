import TreeSieve.Proofs.Yaml.Lines
import TreeSieve.Proofs.Yaml.Plain
import TreeSieve.Proofs.Yaml.Quoted

/-!
# Proofs — Yaml — Entries

What stands on the lines of a written document: keys with their values, and members of lists.

Each lemma is about one thing on a line and puts its tokens in front of those of what follows: a key with
its colon, which may begin a block (`Cut.key`, `Cut.startKey`), a dash (`Cut.dash`), a list without members
(`Cut.emptyList`), and scalars.

* `Cut.word`: the value of a key that is a single word.
* `Cut.scalar`: any text, as it is written for a member of a list.
-/

namespace TreeSieve.Yaml

open Lexer

variable {c : Char} {s t u v w : Text} {i n k m feeds inset column margin count fuel : Nat}
  {margins : List Nat} {allowed : Bool} {tokens out : List Token} {awaited? : Option Nat}

/-! ### Keys -/

/-- A character that begins a plain scalar, given what follows. -/
structure BeginsPlain (c : Char) (v : Text) : Prop where
  isClear : Style.isClear c = true
  ne_space : c ≠ ' '
  noMark : c ∉ Style.startMarks
  second : c = '?' ∨ c = ':' ∨ c = '-' → endsWord v.head? = false

theorem BeginsPlain.opens (h : BeginsPlain c v) : Opens (c :: v) :=
  opens_cons h.isClear h.ne_space fun hc => h.noMark (by rw [hc]; decide)

theorem BeginsPlain.beginsPlain (h : BeginsPlain c v) : beginsPlain false c v.head? = true := by
  have hword : endsWord (some c) = false :=
    starts_cons.1 (starts_cons_of_isClear (u := []) h.isClear h.ne_space)
  rw [Lexer.beginsPlain, hword]
  by_cases hc : c = '?' ∨ c = ':' ∨ c = '-'
  · have hsecond := h.second hc
    rcases hc with rfl | rfl | rfl <;> simp [hsecond]
  · -- the marks that the lexer knows are those of the writer, and the three that need a blank behind them
    have hmarks : ("-?:,[]\x7b\x7d#&*!|>'\"%@\x60".toList.all fun d =>
        decide (d ∈ Style.startMarks ∨ d = '?' ∨ d = ':' ∨ d = '-')) = true := by decide
    have hcontains : ("-?:,[]\x7b\x7d#&*!|>'\"%@\x60".toList.contains c) = false := by
      rw [List.contains_eq_mem, decide_eq_false_iff_not]
      exact fun hmem => (of_decide_eq_true (List.all_eq_true.1 hmarks c hmem)).elim h.noMark hc
    rw [hcontains]
    rfl

/-- A character that begins a plain scalar is read as one. -/
theorem next_plain {l : Lexer} (hdepth : l.depth = 0) (hrest : l.place.rest = c :: v)
    (h : BeginsPlain c v) (hline : l.place.column = 0 → c ≠ '-' ∧ c ≠ '.') : l.next c = l.plain := by
  have hne (d : Char) (hd : d ∈ Style.startMarks) : c ≠ d := fun hc => h.noMark (hc ▸ hd)
  have hflow : l.inFlow = false := by simp [inFlow, hdepth]
  have hmarks : c ≠ '%' ∧ c ≠ '[' ∧ c ≠ '\x7b' ∧ c ≠ ']' ∧ c ≠ '\x7d' ∧ c ≠ ',' ∧ c ≠ '*' ∧ c ≠ '&' ∧
      c ≠ '!' ∧ c ≠ '|' ∧ c ≠ '>' ∧ c ≠ '\'' ∧ c ≠ '"' := by
    refine ⟨?_, ?_, ?_, ?_, ?_, ?_, ?_, ?_, ?_, ?_, ?_, ?_, ?_⟩ <;> exact hne _ (by decide)
  have hsecond : l.place.second? = v.head? := by rw [Place.second?, hrest]; rfl
  have hspaced (d : Char) (hd : d = '?' ∨ d = ':' ∨ d = '-') :
      (decide (c = d) && endsWord v.head?) = false := by
    by_cases hc : c = d
    · rw [h.second (hc ▸ hd), Bool.and_false]
    · rw [decide_eq_false hc, Bool.false_and]
  have hsep : (decide (l.place.column = 0) && l.place.atSeparator) = false := by
    by_cases hcolumn : l.place.column = 0
    · obtain ⟨hminus, hpoint⟩ := hline hcolumn
      simp [Place.atSeparator, hrest, hminus.symm, hpoint.symm]
    · rw [decide_eq_false hcolumn, Bool.false_and]
  simp only [next, hmarks, hflow, hsecond, h.beginsPlain, hsep, hspaced '-' (by simp),
    hspaced '?' (by simp), hspaced ':' (by simp), decide_false, Bool.false_and, Bool.false_or,
    Bool.or_self, Bool.false_eq_true, if_false, if_true]

/-- Whether a character is an ASCII letter or digit or an underscore. -/
def isWordChar (c : Char) : Bool := Text.isAsciiLetter c || Text.isAsciiDigit c || c = '_'

/-- A text of letters, digits and underscores. -/
structure IsWord (s : Text) : Prop where
  ne_nil : s ≠ []
  isWordChar : ∀ c ∈ s, isWordChar c = true

instance (s : Text) : Decidable (IsWord s) :=
  decidable_of_iff (s ≠ [] ∧ s.all isWordChar = true) ⟨fun h => ⟨h.1, List.all_eq_true.1 h.2⟩,
    fun h => ⟨h.ne_nil, List.all_eq_true.2 h.isWordChar⟩⟩

theorem isClear_of_isWordChar (hc : isWordChar c = true) : Style.isClear c = true := by
  rw [Style.isClear_iff]
  simp only [isWordChar, Text.isAsciiLetter, Text.isAsciiDigit, Bool.or_eq_true, Bool.and_eq_true,
    decide_eq_true_eq, Char.le_def, UInt32.le_iff_toNat_le] at hc
  rcases hc with ((h | h) | h) | rfl
  · change 97 ≤ c.toNat ∧ c.toNat ≤ 122 at h
    omega
  · change 65 ≤ c.toNat ∧ c.toNat ≤ 90 at h
    omega
  · change 48 ≤ c.toNat ∧ c.toNat ≤ 57 at h
    omega
  · decide

theorem beginsPlain_of_isWordChar (hc : isWordChar c = true) (v : Text) : BeginsPlain c v where
  isClear := isClear_of_isWordChar hc
  ne_space := Text.ne_of_test hc (by decide)
  noMark hmem := by
    have hmarks : (Style.startMarks.all fun d => isWordChar d = false) = true := by decide
    exact Text.ne_of_test hc (of_decide_eq_true (List.all_eq_true.1 hmarks c hmem)) rfl
  second h := by
    rcases h with rfl | rfl | rfl <;> cases hc

theorem IsWord.opens (h : IsWord s) : Opens (s ++ v) := by
  obtain ⟨c, s, rfl⟩ := List.exists_cons_of_ne_nil h.ne_nil
  exact (beginsPlain_of_isWordChar (h.isWordChar c List.mem_cons_self) _).opens

theorem IsWord.not_mem (h : IsWord s) {d : Char} (hd : Yaml.isWordChar d = false) : d ∉ s :=
  fun hmem => Text.ne_of_test (h.isWordChar d hmem) hd rfl

/-- The cutting between a name and its colon: a key is pending. -/
def pendingKey (s v : Text) (i n column : Nat) (tokens : List Token) (count margin : Nat)
    (margins : List Nat) : Lexer :=
  { fresh ⟨':' :: v, i + s.length, n, column + s.length⟩ (.scalar true s :: tokens) (count + 1) margin
      margins false with
    keys := [(0, ⟨count, margin = column + 1, i, n, column⟩)] }

/-- A name is cut off, and may be a key. -/
theorem runFrom_name (hs : IsWord s) (hv : endsWord v.head? = true) :
    runFrom fuel awaited? (fresh ⟨s ++ ':' :: v, i, n, column⟩ tokens count margin margins true) =
      run fuel (pendingKey s v i n column tokens count margin margins).awaited?
        (pendingKey s v i n column tokens count margin margins) := by
  have hclear : AreClear s := fun c hc => isClear_of_isWordChar (hs.isWordChar c hc)
  have hscan (fuel : Nat) : scanPlainText false margin (fuel + 1) [] false ⟨s ++ ':' :: v, i, n, column⟩ =
      (s, false, ⟨':' :: v, i + s.length, n, column + s.length⟩) :=
    scanPlainText_key hclear (hs.not_mem (by decide)) (hs.not_mem (by decide)) hs.ne_nil
      (fun h => hs.not_mem (d := '#') (by decide) (List.mem_of_mem_head? h)) hv
  have hplain : (fresh ⟨s ++ ':' :: v, i, n, column⟩ tokens count margin margins true).plain =
      .ok (pendingKey s v i n column tokens count margin margins) := by
    simp [Lexer.plain, noteKey, dropKey, fresh, inFlow, put, hscan, pendingKey, bind, Except.bind,
      pure, Except.pure]
  obtain ⟨c, s, rfl⟩ := List.exists_cons_of_ne_nil hs.ne_nil
  have hc := hs.isWordChar c List.mem_cons_self
  refine runFrom_of_next (c := c) (v := s ++ ':' :: v) rfl ?_
  rw [next_plain rfl rfl (beginsPlain_of_isWordChar hc _) ?_, hplain]
  exact fun _ => ⟨Text.ne_of_test hc (by decide), Text.ne_of_test hc (by decide)⟩

/-- Behind its name a key is known by its colon. -/
theorem run_pendingKey (hs : s.length ≤ 1024) (hv : endsWord v.head? = true)
    (hmargin : margin ≤ column + 1) :
    run (fuel + 1) awaited? (pendingKey s v i n column tokens count margin margins) =
      run fuel none (if margin < column + 1 then
        fresh ⟨v, i + s.length + 1, n, column + s.length + 1⟩
          (.value :: .scalar true s :: .key :: .blockMappingStart :: tokens) (count + 4) (column + 1)
          (margin :: margins) false
      else fresh ⟨v, i + s.length + 1, n, column + s.length + 1⟩
          (.value :: .scalar true s :: .key :: tokens) (count + 3) margin margins false) := by
  have hopens : Opens (':' :: v) := opens_cons (by decide) (by decide) (by decide)
  have hsettle : settle (pendingKey s v i n column tokens count margin margins) =
      .ok (pendingKey s v i n column tokens count margin margins) := by
    have hskip : skipBlank ((':' :: v).length + 1) (pendingKey s v i n column tokens count margin margins) =
        pendingKey s v i n column tokens count margin margins :=
      skipBlank_opens (m := 0) (i := i + s.length) (n := n) (k := column + s.length) rfl hopens
    have hlen : ¬ 1024 < s.length := Nat.not_lt.2 hs
    refine (congrArg dropStale hskip).trans ?_
    simp [dropStale, isStale, pendingKey, fresh, hlen]
  rw [run_of_settle hsettle, endBlocks_of_le (Nat.le_trans hmargin (by simp [pendingKey, fresh]))]
  have hvalue : (pendingKey s v i n column tokens count margin margins).next ':' =
      (pendingKey s v i n column tokens count margin margins).value := by
    have hsep : Place.atSeparator ⟨':' :: v, i + s.length, n, column + s.length⟩ = false := rfl
    simp [next, pendingKey, fresh, inFlow, Place.second?, hv, hsep]
  have hmove : Place.skip 1 ⟨':' :: v, i + s.length, n, column + s.length⟩ =
      ⟨v, i + s.length + 1, n, column + s.length + 1⟩ := Place.skip_one (by decide)
  -- the tokens of the key go in front of its name, and behind it there is none yet
  have hcount : count + 1 - count = 1 := by omega
  have hcount' : count + 1 + 1 - count = 2 := by omega
  split
  · next hstart =>
    refine runFrom_of_fresh (c := ':') (v := v) rfl (hvalue.trans ?_)
    simp [Lexer.value, pendingKey, fresh, insertAt, startBlock, put, move, inFlow, hstart, hmove,
      hcount, hcount']
  · next hstart =>
    refine runFrom_of_fresh (c := ':') (v := v) rfl (hvalue.trans ?_)
    simp [Lexer.value, pendingKey, fresh, insertAt, startBlock, put, move, inFlow, hstart, hmove,
      hcount]

/-- A key of the block around. -/
theorem Cut.key (h : Cut v false (column + s.length + 1) (column + 1) margins out) (hs : IsWord s)
    (hlen : s.length ≤ 1024) (hv : endsWord v.head? = true) :
    Cut (s ++ ':' :: v) true column (column + 1) margins (.key :: .scalar true s :: .value :: out) := by
  intro awaited? i n count tokens fuel hfuel
  have hpos : 0 < s.length := List.length_pos_iff.2 hs.ne_nil
  have hle : column + 1 ≤ column + 1 := Nat.le_refl _
  rw [List.length_append, List.length_cons] at hfuel
  obtain ⟨fuel, rfl⟩ : ∃ m, fuel = m + 2 := ⟨fuel - 2, by omega⟩
  rw [run_of_settle (settle_fresh hs.opens), endBlocks_of_le hle, runFrom_name hs hv,
    run_pendingKey hlen hv hle, if_neg (Nat.lt_irrefl _), h _ _ _ _ _ _ (by omega)]
  simp

/-- A key of a block that begins with it. -/
theorem Cut.startKey (h : Cut v false (column + s.length + 1) (column + 1) (margin :: margins) out)
    (hs : IsWord s) (hlen : s.length ≤ 1024) (hv : endsWord v.head? = true) (hmargin : margin ≤ column) :
    Cut (s ++ ':' :: v) true column margin margins
      (.blockMappingStart :: .key :: .scalar true s :: .value :: out) := by
  intro awaited? i n count tokens fuel hfuel
  have hpos : 0 < s.length := List.length_pos_iff.2 hs.ne_nil
  have hle : margin ≤ column + 1 := by omega
  rw [List.length_append, List.length_cons] at hfuel
  obtain ⟨fuel, rfl⟩ : ∃ m, fuel = m + 2 := ⟨fuel - 2, by omega⟩
  rw [run_of_settle (settle_fresh hs.opens), endBlocks_of_le hle, runFrom_name hs hv,
    run_pendingKey hlen hv hle, if_pos (by omega), h _ _ _ _ _ _ (by omega)]
  simp

/-! ### Values -/

theorem IsWord.isPlain (h : IsWord s) : IsPlain s := by
  have hlast (d : Char) (hd : Yaml.isWordChar d = false) : s.getLast? ≠ some d :=
    fun heq => h.not_mem hd (List.mem_of_getLast? heq)
  have hhead (d : Char) (hd : Yaml.isWordChar d = false) : s.head? ≠ some d :=
    fun heq => h.not_mem hd (List.mem_of_mem_head? heq)
  refine ⟨⟨h.not_mem (by decide), hlast ' ' (by decide), ?_⟩, h.ne_nil, hhead ' ' (by decide),
    hhead '#' (by decide)⟩
  rw [Style.holdsMark, decide_eq_false (hlast ':' (by decide)), Bool.or_false]
  refine Style.someNeighbours_eq_false fun a ha b hb => ?_
  have hcolon : a ≠ ':' := Text.ne_of_test (h.isWordChar a ha) (by decide)
  have hspace : a ≠ ' ' := Text.ne_of_test (h.isWordChar a ha) (by decide)
  simp [hcolon, hspace]

/-- The key that is pending at a scalar where one may begin. -/
def scalarKeys (allowed : Bool) (i n column count : Nat) : List (Nat × PossibleKey) :=
  if allowed then [(0, ⟨count, false, i, n, column⟩)] else []

theorem noteKey_fresh (hmargin : margin ≤ column) :
    (fresh ⟨u, i, n, column⟩ tokens count margin margins allowed).noteKey =
      .ok { fresh ⟨u, i, n, column⟩ tokens count margin margins allowed with
        keys := scalarKeys allowed i n column count } := by
  have hne : margin ≠ column + 1 := by omega
  cases allowed with
  | false => rfl
  | true =>
    simp [noteKey, fresh, dropKey, scalarKeys, hne, inFlow, bind, Except.bind, pure, Except.pure]

/-- The key that is pending at a scalar is dropped on a later line. -/
theorem droppable_scalarKeys {l : Lexer} (hkeys : l.keys = scalarKeys allowed i n column count)
    (hn : n < k) : l.Droppable k := by
  intro x hx
  rw [hkeys, scalarKeys] at hx
  split at hx
  · rw [List.mem_singleton.1 hx]
    exact ⟨rfl, hn⟩
  · cases hx

/-- A plain scalar that is not the name of a key, in any way to write it. -/
theorem Cut.plain {indent : Nat} (h : CutLines v margin margins out)
    (hu : Folds false indent t u) (ht : IsPlain t)
    (hbegins : ∃ c w, u ++ '\n' :: v = c :: w ∧ BeginsPlain c w) (hpos : 0 < margin)
    (hindent : margin ≤ indent) (hcolumn : margin ≤ column) :
    Cut (u ++ '\n' :: v) allowed column margin margins (.scalar true t :: out) := by
  intro awaited? i n count tokens fuel hfuel
  obtain ⟨fuel, rfl⟩ : ∃ m, fuel = m + 1 := ⟨fuel - 1, by omega⟩
  -- the scalar takes the line breaks behind it along, so the document is cut from behind them on
  obtain ⟨feeds, inset, v, rfl, hv, hmark, hinset, hrun⟩ := h.exists_gap
  obtain ⟨i', n', hn, hscan⟩ := hu.scanPlainText feeds (i := i) (n := n) ht hindent
    (by omega) hv hmark hinset hcolumn (Nat.lt_succ_self _)
  obtain ⟨c, w, hcw, hbegins⟩ := hbegins
  have hplain : (fresh ⟨u ++ '\n' :: gap feeds inset v, i, n, column⟩ tokens count margin margins
      allowed).plain = .ok { fresh ⟨v, i', n', inset⟩ (.scalar true t :: tokens) (count + 1) margin
        margins true with keys := scalarKeys allowed i n column count } := by
    rw [Lexer.plain, noteKey_fresh hcolumn]
    simp only [bind, Except.bind, pure, Except.pure, fresh, inFlow, put, Nat.lt_irrefl, decide_false,
      hscan]
  have hrest : (fresh ⟨u ++ '\n' :: gap feeds inset v, i, n, column⟩ tokens count margin margins
      allowed).place.rest = c :: w := hcw
  have hsettle : settle (fresh ⟨c :: w, i, n, column⟩ tokens count margin margins allowed) =
      .ok (fresh ⟨c :: w, i, n, column⟩ tokens count margin margins allowed) :=
    settle_fresh hbegins.opens
  rw [← hcw] at hsettle
  rw [run_of_settle hsettle, endBlocks_of_le (Nat.le_succ_of_le hcolumn), runFrom_of_next hrest
    ((next_plain rfl hrest hbegins ?_).trans hplain)]
  · have hlen : v.length < fuel := by
      simp only [List.length_append, List.length_cons, length_gap] at hfuel
      omega
    rw [hrun _ _ i' n' fuel rfl rfl rfl (droppable_scalarKeys rfl hn) rfl rfl hlen]
    simp [fresh]
  · intro hzero
    change column = 0 at hzero
    omega

/-- A single word as the value of a key. -/
theorem Cut.word (h : CutLines v margin margins out) (hs : IsWord s) (hpos : 0 < margin)
    (hcolumn : margin ≤ column + 1) :
    Cut (' ' :: s ++ '\n' :: v) allowed column margin margins (.scalar true s :: out) := by
  have hfolds : Folds false margin s s := .refl fun c hc =>
    ⟨isClear_of_isWordChar (hs.isWordChar c hc), Text.ne_of_test (hs.isWordChar c hc) (by decide)⟩
  have hbegins : ∃ c w, s ++ '\n' :: v = c :: w ∧ BeginsPlain c w := by
    obtain ⟨c, s, rfl⟩ := List.exists_cons_of_ne_nil hs.ne_nil
    exact ⟨c, _, rfl, beginsPlain_of_isWordChar (hs.isWordChar c List.mem_cons_self) _⟩
  have hcut : Cut (s ++ '\n' :: v) allowed (column + 1) margin margins (.scalar true s :: out) :=
    Cut.plain h hfolds hs.isPlain hbegins hpos (Nat.le_refl _) hcolumn
  exact hcut.behind_spaces (m := 1) hs.opens

/-- A scalar in quotation marks that is not the name of a key. -/
theorem Cut.quoted (h : CutLines v margin margins out) {q : Char} (hq : q = '\'' ∨ q = '"')
    (hcolumn : margin ≤ column) (hlen : v.length ≤ u.length)
    (hscan : ∀ i n, ∃ i' n' k', n ≤ n' ∧ scanQuoted ⟨q :: u, i, n, column⟩ =
      .ok (.scalar false t, ⟨'\n' :: v, i', n', k'⟩)) :
    Cut (q :: u) allowed column margin margins (.scalar false t :: out) := by
  intro awaited? i n count tokens fuel hfuel
  obtain ⟨fuel, rfl⟩ : ∃ m, fuel = m + 1 := ⟨fuel - 1, by omega⟩
  obtain ⟨i', n', k', hn, hscan⟩ := hscan i n
  have hopens : Opens (q :: u) := by
    rcases hq with rfl | rfl <;> exact opens_cons (by decide) (by decide) (by decide)
  have hword : (fresh ⟨q :: u, i, n, column⟩ tokens count margin margins allowed).word scanQuoted =
      .ok { fresh ⟨'\n' :: v, i', n', k'⟩ (.scalar false t :: tokens) (count + 1) margin
        margins false with keys := scalarKeys allowed i n column count } := by
    rw [Lexer.word, noteKey_fresh hcolumn]
    simp only [bind, Except.bind, pure, Except.pure, fresh, put, hscan]
  have hnext : (fresh ⟨q :: u, i, n, column⟩ tokens count margin margins allowed).next q =
      (fresh ⟨q :: u, i, n, column⟩ tokens count margin margins allowed).word scanQuoted := by
    rcases hq with rfl | rfl <;> simp [next, fresh, inFlow, Place.atSeparator]
  rw [run_of_settle (settle_fresh hopens), endBlocks_of_le (Nat.le_succ_of_le hcolumn),
    runFrom_of_next rfl (hnext.trans hword), h.run_feed (i := i') (n := n') (k := k') rfl rfl
      (droppable_scalarKeys rfl (Nat.lt_succ_of_le hn)) rfl rfl
      (by simp only [List.length_cons] at hfuel; omega)]
  simp [fresh]

theorem isPlain_of_canBePlain (h : Style.canBePlain t = true) :
    Style.needsEscapes t = false ∧ IsPlain t := by
  simp only [Style.canBePlain, Bool.and_eq_true, Bool.not_eq_true', decide_eq_true_eq] at h
  obtain ⟨⟨⟨⟨⟨⟨hescapes, hfeed⟩, hfirst⟩, hlast⟩, hstart⟩, hmark⟩, -⟩ := h
  refine ⟨hescapes, ⟨⟨by simpa using hfeed, hlast, hmark⟩, ?_, hfirst, ?_⟩⟩
  · rintro rfl
    cases hstart
  · intro hd
    obtain ⟨v, rfl⟩ := List.head?_eq_some_iff.1 hd
    cases hstart

/-- What is written of a text that can stand alone begins a plain scalar. -/
theorem Folds.exists_begins {indent : Nat} (hu : Folds false indent t u)
    (h : Style.canBePlain t = true) (v : Text) :
    ∃ c w, u ++ '\n' :: v = c :: w ∧ BeginsPlain c w := by
  have hplain := (isPlain_of_canBePlain h).2
  simp only [Style.canBePlain, Bool.and_eq_true, Bool.not_eq_true'] at h
  have hstart := h.1.1.2
  cases hu with
  | nil => exact absurd rfl hplain.ne_nil
  | @char c t u hc hspace hquote hu =>
    simp only [Style.startsMarked, Bool.or_eq_false_iff, Bool.and_eq_false_imp, decide_eq_true_eq,
      Bool.or_eq_true, List.contains_eq_mem, decide_eq_false_iff_not] at hstart
    obtain ⟨⟨⟨hmark, hsecond⟩, -⟩, -⟩ := hstart
    refine ⟨c, u ++ '\n' :: v, rfl, hc, hspace, hmark, fun hc => ?_⟩
    have hends := hsecond (or_assoc.2 hc)
    have hne : t ≠ [] := by
      rintro rfl
      cases hends
    have hhead : t.head? ≠ some ' ' := by
      intro hd
      rw [hd] at hends
      cases hends
    have hstarts := hu.starts (v := '\n' :: v) (hplain.toGoesPlain.of_cons.startsRun hhead)
      fun h => absurd h hne
    obtain ⟨d, w, hd⟩ := List.exists_cons_of_ne_nil (by simp : u ++ '\n' :: v ≠ [])
    rw [hd] at hstarts ⊢
    exact hstarts d rfl
  | apostrophe hquoted => cases hquoted
  | spaces => exact absurd rfl hplain.noSpaceFirst
  | fold => exact absurd rfl hplain.noSpaceFirst
  | feeds => exact absurd List.mem_cons_self hplain.noFeed

/-- What is written of a text begins with a token. -/
theorem opens_writeScalar (column indent : Nat) (t v : Text) :
    Opens (writeScalar column indent t ++ '\n' :: v) := by
  rw [writeScalar, Style.ofText]
  by_cases hplain : Style.canBePlain t = true
  · have hfolds := folds_writeFolded false indent none column t (isPlain_of_canBePlain hplain).1
      (by simp) (by simp)
    obtain ⟨c, w, heq, hbegins⟩ := hfolds.exists_begins hplain v
    rw [if_pos hplain]
    exact heq ▸ hbegins.opens
  · have hquote : Opens ('\'' :: (writeFolded true indent none (column + 1) t ++ ['\''] ++ '\n' :: v)) :=
      opens_cons (by decide) (by decide) (by decide)
    have hquotes : Opens ('"' :: (writeEscaped indent true false (column + 1) t ++ ['"'] ++ '\n' :: v)) :=
      opens_cons (by decide) (by decide) (by decide)
    rw [if_neg hplain]
    by_cases hescapes : Style.needsEscapes t = true
    · rw [if_pos hescapes]
      exact hquotes
    · rw [if_neg hescapes]
      exact hquote

/-- Any text, as it is written. -/
theorem Cut.scalar {indent : Nat} (h : CutLines v margin margins out) (hpos : 0 < margin)
    (hindent : margin ≤ indent) (hwidth : indent < lineWidth) (hcolumn : margin ≤ column) (t : Text) :
    Cut (writeScalar column indent t ++ '\n' :: v) allowed column margin margins
      (.scalar (Style.ofText t = .plain) t :: out) := by
  have hfeed : ('\n' :: v).head? ≠ some '\'' := by simp
  rw [writeScalar, Style.ofText]
  by_cases hplain : Style.canBePlain t = true
  · obtain ⟨hescapes, ht⟩ := isPlain_of_canBePlain hplain
    have hfolds := folds_writeFolded false indent none column t hescapes (by simp) (by simp)
    simp only [hplain, if_true, decide_true]
    exact Cut.plain h hfolds ht (hfolds.exists_begins hplain v) hpos hindent hcolumn
  · by_cases hescapes : Style.needsEscapes t = true
    · simp only [hplain, hescapes, Bool.false_eq_true, if_false, if_true, reduceCtorEq, decide_false]
      rw [List.cons_append, List.cons_append, List.append_assoc]
      exact Cut.quoted h (.inr rfl) hcolumn
        (by simp only [List.length_append, List.length_cons]; omega)
        fun i n => scanQuoted_double (by omega) hwidth (column + 1)
    · simp only [hplain, hescapes, Bool.false_eq_true, if_false, reduceCtorEq, decide_false]
      rw [List.cons_append, List.cons_append, List.append_assoc]
      exact Cut.quoted h (.inl rfl) hcolumn
        (by simp only [List.length_append, List.length_cons]; omega)
        fun i n => scanQuoted_single (by omega) (by simpa using hescapes) hfeed (column + 1)

/-! ### Lists -/

/-- A list without members. -/
theorem Cut.emptyList (h : CutLines v margin margins out) (hcolumn : margin ≤ column + 1) :
    Cut ('[' :: ']' :: '\n' :: v) false column margin margins
      (.flowSequenceStart :: .flowSequenceEnd :: out) := by
  intro awaited? i n count tokens fuel hfuel
  obtain ⟨fuel, rfl⟩ : ∃ m, fuel = m + 2 := ⟨fuel - 2, by rw [List.length_cons] at hfuel; omega⟩
  -- between the brackets a key may begin, and blocks do not end
  let inside : Lexer :=
    { fresh ⟨']' :: '\n' :: v, i + 1, n, column + 1⟩ (.flowSequenceStart :: tokens) (count + 1) margin
        margins true with depth := 1 }
  have hopen : (fresh ⟨'[' :: ']' :: '\n' :: v, i, n, column⟩ tokens count margin margins false).next
      '[' = .ok inside := by
    have hmove : Place.skip 1 ⟨'[' :: ']' :: '\n' :: v, i, n, column⟩ =
        ⟨']' :: '\n' :: v, i + 1, n, column + 1⟩ := Place.skip_one (by decide)
    simp [next, openFlow, noteKey, fresh, Place.atSeparator, put, move, hmove, inside, bind,
      Except.bind, pure, Except.pure]
  have hclose : inside.next ']' =
      .ok (fresh ⟨'\n' :: v, i + 1 + 1, n, column + 1 + 1⟩
        (.flowSequenceEnd :: .flowSequenceStart :: tokens) (count + 1 + 1) margin margins false) := by
    have hmove : Place.skip 1 ⟨']' :: '\n' :: v, i + 1, n, column + 1⟩ =
        ⟨'\n' :: v, i + 1 + 1, n, column + 1 + 1⟩ := Place.skip_one (by decide)
    simp [next, closeFlow, dropKey, fresh, put, move, hmove, inside, bind, Except.bind, pure,
      Except.pure]
  have hopens : Opens (']' :: '\n' :: v) := opens_cons (by decide) (by decide) (by decide)
  have hsettle : settle inside = .ok inside :=
    (congrArg dropStale (skipBlank_opens (m := 0) (l := inside) rfl hopens)).trans
      (dropStale_of_droppable fun _ hx => by cases hx)
  have hstays : inside.endBlocks (inside.place.column + 1) = inside := rfl
  rw [run_of_settle (settle_fresh (opens_cons (by decide) (by decide) (by decide))),
    endBlocks_of_le hcolumn, runFrom_of_next rfl hopen, run_of_settle hsettle, hstays,
    runFrom_of_next rfl hclose, h.cut_feed _ _ _ _ _ _ (by simp only [List.length_cons] at hfuel ⊢; omega)]
  simp

/-- A dash before a member of a list in the block around. -/
theorem Cut.dash (h : Cut v true (column + 1) (column + 1) margins out)
    (hv : endsWord v.head? = true) (hcolumn : 0 < column) :
    Cut ('-' :: v) true column (column + 1) margins (.blockEntry :: out) := by
  intro awaited? i n count tokens fuel hfuel
  obtain ⟨fuel, rfl⟩ : ∃ m, fuel = m + 1 := ⟨fuel - 1, by omega⟩
  have hopens : Opens ('-' :: v) := opens_cons (by decide) (by decide) (by decide)
  have hle : column + 1 ≤ column + 1 := Nat.le_refl _
  have hdash : (fresh ⟨'-' :: v, i, n, column⟩ tokens count (column + 1) margins true).next '-' =
      .ok (fresh ⟨v, i + 1, n, column + 1⟩ (.blockEntry :: tokens) (count + 1) (column + 1) margins
        true) := by
    have hmove : Place.skip 1 ⟨'-' :: v, i, n, column⟩ = ⟨v, i + 1, n, column + 1⟩ :=
      Place.skip_one (by decide)
    have hne : column ≠ 0 := by omega
    simp [next, blockEntry, startBlock, dropKey, fresh, inFlow, put, move, hmove, hne, hv,
      Place.second?, bind, Except.bind, pure, Except.pure]
  rw [run_of_settle (settle_fresh hopens), endBlocks_of_le hle, runFrom_of_next rfl hdash,
    h _ _ _ _ _ _ (by simp only [List.length_cons] at hfuel; omega)]
  simp

end TreeSieve.Yaml
