import TreeSieve.Yaml.Scalar
import TreeSieve.Yaml.Style
import TreeSieve.Proofs.Parts
import TreeSieve.Proofs.Text

/-!
# Proofs — Numerals

Numbers as digits and back.  The digits of a number stand for it (`Number.ofDigits_toDigits`), and a
numeral of ASCII digits is read as the number these stand for.

* `Yaml.intValue_ofNat`: a number that is not too long is read back from its numeral.
* `Yaml.Tag.ofPlain_ofNat`: its numeral needs no tag.
* `Yaml.ofDigits_capitalHex`: the digits of an escape stand for the number of the character.
-/

namespace TreeSieve

namespace Number

variable {b n : Nat} {c : Char} {t : Text}

/-! ### Digits -/

/-- A digit is read as the number that it was written for. -/
theorem digitValue_digitChar {d : Nat} (h : d < 16) : digitValue d.digitChar = d := by
  decide +revert

/-- A digit at the end adds to the number before it, one place higher. -/
theorem ofDigits_append (b : Nat) (s : Text) (c : Char) :
    ofDigits b (s ++ [c]) = ofDigits b s * b + digitValue c := by
  rw [ofDigits, List.foldl_append, List.foldl_cons, List.foldl_nil, ofDigits]

/-- The digits of a number stand for it. -/
theorem ofDigits_toDigits (hb : 1 < b) (hb' : b ≤ 16) (n : Nat) :
    ofDigits b (Nat.toDigits b n) = n := by
  induction n using Nat.strongRecOn with
  | _ n ih =>
    rcases Nat.lt_or_ge n b with h | h
    · rw [Nat.toDigits_of_lt_base h, ofDigits, List.foldl_cons, List.foldl_nil, Nat.zero_mul,
        Nat.zero_add, digitValue_digitChar (by omega)]
    · -- the last digit stands for the remainder, those before it for the quotient
      have hmod : n % b < b := Nat.mod_lt n (by omega)
      rw [Nat.toDigits_of_base_le hb h, ofDigits_append, digitValue_digitChar (by omega),
        ih _ (Nat.div_lt_self (by omega) hb), Nat.div_add_mod']

/-- The characters of a text are digits of ASCII. -/
def AreDigits (t : Text) : Prop := ∀ c ∈ t, Text.isAsciiDigit c = true

/-- Digits do not begin with a sign. -/
theorem AreDigits.ne_sign (h : AreDigits (c :: t)) : c ≠ '-' ∧ c ≠ '+' :=
  ⟨Text.ne_of_test (h c List.mem_cons_self) (by decide),
    Text.ne_of_test (h c List.mem_cons_self) (by decide)⟩

/-- A number is written with digits alone. -/
theorem areDigits_ofNat (n : Nat) : AreDigits (Text.ofNat n) := by
  intro c hc
  have h := Nat.isDigit_of_mem_toDigits (by decide) (by decide) hc
  rw [Char.isDigit, Bool.and_eq_true, decide_eq_true_eq, decide_eq_true_eq] at h
  rw [Text.isAsciiDigit, Bool.and_eq_true, decide_eq_true_eq, decide_eq_true_eq]
  exact h

/-- Only the numeral of zero begins with a zero. -/
theorem head?_ofNat_ne (h : 0 < n) : (Text.ofNat n).head? ≠ some '0' := by
  induction n using Nat.strongRecOn with
  | _ n ih =>
    rw [Text.ofNat]
    rcases Nat.lt_or_ge n 10 with hn | hn
    · have hsmall : ∀ m < 10, 0 < m → [m.digitChar].head? ≠ some '0' := by decide
      rw [Nat.toDigits_of_lt_base hn]
      exact hsmall n hn h
    · have hdiv := ih _ (Nat.div_lt_self h (by decide : 1 < 10)) (Nat.div_pos hn (by decide))
      rw [Nat.toDigits_of_base_le (by decide) hn, List.head?_append]
      obtain ⟨d, hd⟩ := Option.ne_none_iff_exists'.1
        (mt List.head?_eq_none_iff.1 (Nat.toDigits_ne_nil (n := n / 10) (b := 10)))
      rw [Text.ofNat, hd] at hdiv
      rwa [hd, Option.some_or]

/-- The digits of ASCII by their numbers. -/
theorem isAsciiDigit_iff : Text.isAsciiDigit c = true ↔ 48 ≤ c.toNat ∧ c.toNat ≤ 57 := by
  simp only [Text.isAsciiDigit, Bool.and_eq_true, decide_eq_true_eq, Char.le_def,
    UInt32.le_iff_toNat_le]
  rfl

/-! ### Numerals of ASCII digits -/

theorem isDecimal_of_isAsciiDigit (h : Text.isAsciiDigit c = true) : Text.isDecimal c = true := by
  have hlt : c.toNat < 128 := by
    have := isAsciiDigit_iff.1 h
    omega
  rw [Text.isDecimal, if_pos hlt, h]

theorem decimalValue_of_isAsciiDigit (h : Text.isAsciiDigit c = true) :
    Text.decimalValue c = digitValue c := by
  obtain ⟨hlo, hhi⟩ := isAsciiDigit_iff.1 h
  rw [Text.decimalValue, digitValue, if_pos h, Text.decimalTable,
    List.find?_cons_of_pos (by simp; omega)]
  exact Nat.mod_eq_of_lt (by simp; omega)

theorem go_eq_some (h : AreDigits t) (n : Nat) :
    ofUnderscored?.go n t = some (t.foldl (fun n d => n * 10 + digitValue d) n) := by
  induction t generalizing n with
  | nil => rfl
  | cons c t ih =>
    obtain ⟨hc, ht⟩ := List.forall_mem_cons.1 h
    have hmark : c ≠ '_' := Text.ne_of_test hc (by decide)
    rw [ofUnderscored?.go, if_pos (isDecimal_of_isAsciiDigit hc),
      decimalValue_of_isAsciiDigit hc, ih ht, List.foldl_cons]
    exact fun _ _ h => absurd h hmark

/-- Digits without underscores are read as their number. -/
theorem ofUnderscored?_eq_some (h : AreDigits t) (hne : t ≠ []) :
    ofUnderscored? t = some (ofDigits 10 t) := by
  cases t with
  | nil => exact absurd rfl hne
  | cons c t =>
    obtain ⟨hc, ht⟩ := List.forall_mem_cons.1 h
    rw [ofUnderscored?, if_pos (isDecimal_of_isAsciiDigit hc), go_eq_some ht,
      decimalValue_of_isAsciiDigit hc, ofDigits, List.foldl_cons, Nat.zero_mul, Nat.zero_add]

/-- There is no blank around digits. -/
theorem dropAround_of_areDigits (h : AreDigits t) : Text.dropAround Text.isSpace t = t := by
  have hspace : ∀ c ∈ t, Text.isSpace c = false := by
    intro c hc
    obtain ⟨hlo, hhi⟩ := isAsciiDigit_iff.1 (h c hc)
    simp [Text.isSpace, Text.isBlank, CharTable.has, Text.blankTable]
    omega
  have hdrop (s : Text) (hs : ∀ c ∈ s, Text.isSpace c = false) : s.dropWhile Text.isSpace = s := by
    cases s with
    | nil => rfl
    | cons c s => rw [List.dropWhile_cons_of_neg (by simp [hs c])]
  rw [Text.dropAround, hdrop t hspace, Text.dropEndWhile,
    hdrop _ fun c hc => hspace c (List.mem_reverse.1 hc), List.reverse_reverse]

/-- A numeral of ASCII digits that is not too long is read as the number they stand for. -/
theorem readInt?_eq_some (h : AreDigits t) (hne : t ≠ []) (hlen : t.length ≤ digitLimit) :
    readInt? t = some (ofDigits 10 t : Int) := by
  have hcount : t.countP Text.isDecimal = t.length :=
    List.countP_eq_length.2 fun c hc => isDecimal_of_isAsciiDigit (h c hc)
  rw [readInt?, dropAround_of_areDigits h, hcount, if_neg (by omega)]
  cases t with
  | nil => exact absurd rfl hne
  | cons c t =>
    obtain ⟨hminus, hplus⟩ := h.ne_sign
    simp [hminus, hplus, ofUnderscored?_eq_some h hne]

end Number

namespace Yaml

open Number

variable {n : Nat} {c : Char} {t : Text}

/-! ### Numerals of documents -/

theorem splitSign_of_areDigits (h : AreDigits t) : splitSign t = (false, t) := by
  cases t with
  | nil => rfl
  | cons c t =>
    obtain ⟨hminus, hplus⟩ := h.ne_sign
    simp [splitSign, hminus, hplus]

theorem not_mem_of_areDigits (h : AreDigits t) (hc : Text.isAsciiDigit c = false) : c ∉ t :=
  fun hmem => Text.ne_of_test (h c hmem) hc rfl

/-- A numeral that does not begin with a zero is read in base ten. -/
theorem intValue_of_areDigits (h : AreDigits t) (hne : t ≠ []) (hzero : t.head? ≠ some '0')
    (hlen : t.length ≤ digitLimit) : intValue t = .ok (.int (ofDigits 10 t)) := by
  have hfilter : t.filter (· ≠ '_') = t :=
    List.filter_eq_self.2 fun c hc => decide_eq_true (Text.ne_of_test (h c hc) (by decide))
  have hten : tenNumber t = .ok (ofDigits 10 t : Int) := by
    simp only [tenNumber, readInt?_eq_some h hne hlen]
  have hparts : Text.parts ':' t = [t] :=
    Text.parts_of_not_mem (not_mem_of_areDigits h (by decide))
  rw [intValue, hfilter, splitSign_of_areDigits h]
  cases t with
  | nil => exact absurd rfl hne
  | cons c t =>
    have hc : c ≠ '0' := fun hc => hzero (by rw [hc]; rfl)
    have hmap : (Text.parts ':' (c :: t)).mapM tenNumber = .ok [(ofDigits 10 (c :: t) : Int)] := by
      rw [hparts, List.mapM_cons, hten]
      rfl
    simp [hc, hmap, bind, Except.bind, pure, Except.pure]

/-- A number that is not too long is read back from its numeral. -/
theorem intValue_ofNat (hlen : (Text.ofNat n).length ≤ digitLimit) :
    intValue (Text.ofNat n) = .ok (.int n) := by
  rcases Nat.eq_zero_or_pos n with rfl | h
  · rfl
  · rw [intValue_of_areDigits (areDigits_ofNat n) Nat.toDigits_ne_nil (head?_ofNat_ne h) hlen,
      Text.ofNat, ofDigits_toDigits (by decide) (by decide)]

namespace Tag

theorem unsigned_of_areDigits (h : AreDigits t) : unsigned t = t := by
  cases t with
  | nil => rfl
  | cons c t =>
    obtain ⟨hminus, hplus⟩ := h.ne_sign
    simp [unsigned, hminus, hplus]

/-- A numeral is none of some words that hold other characters. -/
theorem any_words_of_areDigits (h : AreDigits t) {words : List String}
    (hwords : ∀ w ∈ words, w.toList.any (! Text.isAsciiDigit ·) = true) :
    words.any (fun w => decide (t = w.toList)) = false := by
  refine List.any_eq_false.2 fun w hw heq => ?_
  obtain ⟨c, hc, hd⟩ := List.any_eq_true.1 (hwords w hw)
  rw [← of_decide_eq_true heq] at hc
  simp [h c hc] at hd

/-- Digits alone are no floating-point number. -/
theorem isFloat_of_areDigits (h : AreDigits t) : isFloat t = false := by
  have hpoint : '.' ∉ t := not_mem_of_areDigits h (by decide)
  simp only [isFloat, unsigned_of_areDigits h, Text.cut?_of_not_mem hpoint,
    any_words_of_areDigits h (by decide : ∀ w ∈ [".inf", ".Inf", ".INF"], _),
    any_words_of_areDigits h (by decide : ∀ w ∈ [".nan", ".NaN", ".NAN"], _), Bool.or_false]

/-- **Digits are an integer** unless a zero leads them. -/
theorem isInt_of_areDigits (h : AreDigits t) (hne : t ≠ []) (hzero : t.head? ≠ some '0') :
    isInt t = true := by
  have hparts : Text.parts ':' t = [t] :=
    Text.parts_of_not_mem (not_mem_of_areDigits h (by decide))
  have hrun : isRun 10 t = true := by
    rw [isRun, Bool.and_eq_true, List.all_eq_true]
    refine ⟨by simpa using hne, fun c hc => ?_⟩
    have hlt := isAsciiDigit_iff.1 (h c hc)
    have hvalue : digitValue c < 10 := by
      rw [digitValue, if_pos (h c hc)]
      show c.toNat - 48 < 10
      omega
    simp [isBaseDigit, hvalue]
  rw [isInt, unsigned_of_areDigits h]
  cases t with
  | nil => exact absurd rfl hne
  | cons c t =>
    have hc : c ≠ '0' := fun hc => hzero (by rw [hc]; rfl)
    have hdigit := h c List.mem_cons_self
    simp [hc, hparts, isDecimalForm, hdigit, hrun]

/-- The numeral of a number needs no tag. -/
theorem ofPlain_ofNat (n : Nat) : ofPlain (Text.ofNat n) = .int := by
  rcases Nat.eq_zero_or_pos n with rfl | hn
  · decide
  · have h := areDigits_ofNat n
    rw [ofPlain, any_words_of_areDigits h (by decide), isFloat_of_areDigits h,
      isInt_of_areDigits h Nat.toDigits_ne_nil (head?_ofNat_ne hn)]
    rfl

end Tag

/-! ### Numbers of escapes -/

/-- Each figure of a number to base sixteen is one of the sixteen. -/
theorem exists_digitChar (hc : c ∈ Nat.toDigits 16 n) : ∃ d < 16, c = d.digitChar := by
  induction n using Nat.strongRecOn with
  | _ n ih =>
    rcases Nat.lt_or_ge n 16 with h | h
    · rw [Nat.toDigits_of_lt_base h, List.mem_singleton] at hc
      exact ⟨n, h, hc⟩
    · rw [Nat.toDigits_of_base_le (by decide) h, List.mem_append, List.mem_singleton] at hc
      rcases hc with hc | rfl
      · exact ih _ (Nat.div_lt_self (by omega) (by decide)) hc
      · exact ⟨n % 16, Nat.mod_lt _ (by decide), rfl⟩

theorem exists_digitChar_of_mem_capitalHex {width : Nat} (hc : c ∈ capitalHex width n) :
    ∃ d < 16, c = d.digitChar.toUpper := by
  obtain ⟨a, ha, rfl⟩ := List.mem_map.1 hc
  rcases List.mem_append.1 ha with h | h
  · rw [List.eq_of_mem_replicate h]
    exact ⟨0, by decide, rfl⟩
  · obtain ⟨d, hd, rfl⟩ := exists_digitChar h
    exact ⟨d, hd, rfl⟩

/-- An escape is written with figures that it is read by. -/
theorem isHexDigit_of_mem_capitalHex {width : Nat} (hc : c ∈ capitalHex width n) :
    isHexDigit c = true := by
  have hdigits : ∀ d < 16, isHexDigit d.digitChar.toUpper = true := by decide
  obtain ⟨d, hd, rfl⟩ := exists_digitChar_of_mem_capitalHex hc
  exact hdigits d hd

theorem isClear_of_mem_capitalHex {width : Nat} (hc : c ∈ capitalHex width n) :
    Style.isClear c = true := by
  have hdigits : ∀ d < 16, Style.isClear d.digitChar.toUpper = true := by decide
  obtain ⟨d, hd, rfl⟩ := exists_digitChar_of_mem_capitalHex hc
  exact hdigits d hd

/-- A number that is not too large fills the width exactly. -/
theorem length_capitalHex {width : Nat} (hwidth : 0 < width) (h : n < Nat.pow 16 width) :
    (capitalHex width n).length = width := by
  have hlen := (Nat.length_toDigits_le_iff (by decide) hwidth).2 h
  simp only [capitalHex, Text.hex, List.length_map, List.length_append, List.length_replicate]
  omega

/-- Capital letters stand for the same digits. -/
theorem foldl_toUpper (ht : ∀ c ∈ t, ∃ d < 16, c = d.digitChar) (m : Nat) :
    (t.map Char.toUpper).foldl (fun n d => n * 16 + digitValue d) m =
      t.foldl (fun n d => n * 16 + digitValue d) m := by
  have hdigits : ∀ d < 16, digitValue d.digitChar.toUpper = digitValue d.digitChar := by decide
  induction t generalizing m with
  | nil => rfl
  | cons c t ih =>
    obtain ⟨⟨d, hd, rfl⟩, htail⟩ := List.forall_mem_cons.1 ht
    rw [List.map_cons, List.foldl_cons, List.foldl_cons, hdigits d hd, ih htail]

/-- A number is read back from its figures, whatever the width. -/
theorem ofDigits_capitalHex (width n : Nat) : ofDigits 16 (capitalHex width n) = n := by
  have hzeros (m : Nat) : ((List.replicate m '0').map Char.toUpper).foldl
      (fun n d => n * 16 + digitValue d) 0 = 0 := by
    rw [List.map_replicate]
    induction m with
    | zero => rfl
    | succ m ih => exact ih
  rw [capitalHex, Text.hex, ofDigits, List.map_append, List.foldl_append, hzeros,
    foldl_toUpper fun c hc => exists_digitChar hc]
  exact ofDigits_toDigits (by decide) (by decide) n

end Yaml

end TreeSieve
