import Mathlib.Data.List.TakeWhile
import TreeSieve.Text.Blank
import TreeSieve.Text.Casing
import TreeSieve.Text.Utf8

/-!
# Proofs — Text

What is done to texts as they come in changes nothing when it is done again.

* `trim_trim`: a text without blanks at its ends stays as it is.
* `lowerFrom_eq_self`: a text in lower case stays as it is; no image of a capital is a capital
  (`isLower_of_mem_lowerFrom`).
* `decode_encode`: a text of ASCII is read back from its bytes.
-/

namespace TreeSieve.Text

variable {c d : Char} {t before after : Text} {n : Nat}

/-- Characters are told apart by a test that one of them passes. -/
theorem ne_of_test {p : Char → Bool} (hc : p c = true) (hd : p d = false) : c ≠ d := by
  rintro rfl
  rw [hc] at hd
  cases hd

/-! ### Ends -/

theorem dropWhile_eq_self {p : Char → Bool} {t : Text} (h : ∀ c ∈ t.head?, p c = false) :
    t.dropWhile p = t := by
  cases t with
  | nil => rfl
  | cons c t => exact List.dropWhile_cons_of_neg (by rw [h c rfl]; exact Bool.false_ne_true)

/-- A text is left as it is when neither of its ends passes the test. -/
theorem dropAround_eq_self {p : Char → Bool} {t : Text} (hfirst : ∀ c ∈ t.head?, p c = false)
    (hlast : ∀ c ∈ t.getLast?, p c = false) : dropAround p t = t := by
  have hrev : ∀ c ∈ t.reverse.head?, p c = false := by rwa [List.head?_reverse]
  rw [dropAround, dropWhile_eq_self hfirst, dropEndWhile, dropWhile_eq_self hrev,
    List.reverse_reverse]

/-- A text without blanks at its ends is left as it is. -/
theorem trim_eq_self {t : Text} (hfirst : ∀ c ∈ t.head?, isBlank c = false)
    (hlast : ∀ c ∈ t.getLast?, isBlank c = false) : trim t = t :=
  dropAround_eq_self hfirst hlast

/-- A text of which nothing is left without the blanks at its ends has nothing but blanks. -/
theorem isBlank_of_trim_eq_nil {t : Text} (h : trim t = []) : ∀ c ∈ t, isBlank c = true := by
  have hrest : ∀ c ∈ t.dropWhile isBlank, isBlank c = true := fun c hc =>
    List.dropWhile_eq_nil_iff.mp (List.reverse_eq_nil_iff.mp h) c (List.mem_reverse.mpr hc)
  intro c hc
  rw [← List.takeWhile_append_dropWhile (p := isBlank) (l := t)] at hc
  rcases List.mem_append.mp hc with hc | hc
  · exact List.mem_takeWhile_imp hc
  · exact hrest c hc

theorem head?_dropWhile {p : Char → Bool} (t : Text) : ∀ c ∈ (t.dropWhile p).head?, p c = false := by
  intro c hc
  have h := List.head?_dropWhile_not p t
  rw [Option.mem_def] at hc
  rw [hc] at h
  simpa using h

/-- The start of a text that passes a test, by what follows it. -/
theorem takeWhile_eq_iff {p : Char → Bool} {text : Text} : text.takeWhile p = t ↔
    (∀ c ∈ t, p c = true) ∧ ∃ rest, text = t ++ rest ∧ ∀ c ∈ rest.head?, p c = false := by
  constructor
  · rintro rfl
    exact ⟨fun c hc => List.mem_takeWhile_imp hc, text.dropWhile p,
      List.takeWhile_append_dropWhile.symm, head?_dropWhile text⟩
  · rintro ⟨ht, rest, rfl, hrest⟩
    have hnil : rest.takeWhile p = [] := by
      cases rest with
      | nil => rfl
      | cons c rest => exact List.takeWhile_cons_of_neg (by simp [hrest c rfl])
    rw [List.takeWhile_append_of_pos ht, hnil, List.append_nil]

/-- The end of a trimmed text is no blank. -/
theorem getLast?_trim (t : Text) : ∀ c ∈ (trim t).getLast?, isBlank c = false := by
  rw [trim, dropAround, dropEndWhile, List.getLast?_reverse]
  exact head?_dropWhile _

/-- The start of a trimmed text is no blank. -/
theorem head?_trim (t : Text) : ∀ c ∈ (trim t).head?, isBlank c = false := by
  intro c hc
  obtain ⟨rest, hrest⟩ : trim t <+: t.dropWhile isBlank := by
    rw [trim, dropAround, dropEndWhile, ← List.reverse_suffix, List.reverse_reverse]
    exact List.dropWhile_suffix _
  refine head?_dropWhile t c ?_
  rw [← hrest, List.head?_append, Option.mem_def.1 hc]
  rfl

theorem trim_trim (t : Text) : trim (trim t) = trim t := trim_eq_self (head?_trim t) (getLast?_trim t)

/-! ### Ordered sets -/

theorem mem_insertSorted {u : Text} {ts : List Text} : u ∈ insertSorted t ts ↔ u = t ∨ u ∈ ts := by
  induction ts with
  | nil => simp [insertSorted]
  | cons v ts ih =>
    rw [insertSorted]
    split
    · next htv => simp [htv]
    · split
      · exact List.mem_cons
      · rw [List.mem_cons, ih, List.mem_cons, or_left_comm]

theorem mem_sortedSet {ts : List Text} : t ∈ sortedSet ts ↔ t ∈ ts := by
  induction ts with
  | nil => exact Iff.rfl
  | cons u ts ih =>
    have hcons : sortedSet (u :: ts) = insertSorted u (sortedSet ts) := rfl
    rw [hcons, mem_insertSorted, ih, List.mem_cons]

/-! ### Capitals -/

namespace CapitalRun

variable {r s : CapitalRun}

/-- The last image of a run. -/
def lastImage (r : CapitalRun) : Nat := r.image + (r.last - r.first)

/-- No image of a run is a capital of another one: they lie apart, or every other code point is an image
and the ones between are the capitals. -/
def misses (r s : CapitalRun) : Bool :=
  r.lastImage.blt s.first || s.last.blt r.image
    || ((r.step == 2 || r.first == r.last) && s.step == 2 && (r.image + s.first) % 2 == 1)

/-- All images of a run lie outside an interval. -/
def avoids (r : CapitalRun) (lo hi : Nat) : Bool := r.lastImage < lo || hi < r.image

theorem lower_mem (h : r.has n = true) : r.image ≤ r.lower n ∧ r.lower n ≤ r.lastImage := by
  simp only [has, Bool.and_eq_true, decide_eq_true_eq] at h
  simp only [lower, lastImage]
  omega

theorem lower_of_avoids {lo hi : Nat} (hr : r.avoids lo hi = true) (h : r.has n = true) :
    r.lower n < lo ∨ hi < r.lower n := by
  have hmem := lower_mem h
  simp only [avoids, Bool.or_eq_true, decide_eq_true_eq] at hr
  omega

theorem has_lower_of_misses (hrs : r.misses s = true) (h : r.has n = true) :
    s.has (r.lower n) = false := by
  have hmem := lower_mem h
  simp only [has, Bool.and_eq_true, decide_eq_true_eq, beq_iff_eq] at h
  simp only [misses, Bool.or_eq_true, Bool.and_eq_true, Nat.blt_eq, beq_iff_eq] at hrs
  simp only [has, Bool.and_eq_false_iff, decide_eq_false_iff_not, beq_eq_false_iff_ne]
  rcases hrs with (hbefore | hbehind) | ⟨⟨hr, hs⟩, hodd⟩
  · exact .inl (.inl (by omega))
  · exact .inl (.inr (by omega))
  · by_cases hfirst : s.first ≤ r.lower n
    · -- every other code point is a capital, and the image is one of those between
      refine .inr ?_
      rw [hs]
      rcases hr with hr | hr
      · rw [hr] at h
        simp only [lower] at hfirst ⊢
        omega
      · simp only [lower] at hfirst ⊢
        omega
    · exact .inl (.inl hfirst)

end CapitalRun

/-- All capitals, with the one that has a mark of its own in lower case. -/
def allCapitals : List CapitalRun := ⟨0x130, 0x130, 1, 0x69⟩ :: capitalRuns

theorem misses_of_mem {r s : CapitalRun} (hr : r ∈ capitalRuns) (hs : s ∈ allCapitals) :
    r.misses s = true := by
  have hall : (capitalRuns.all fun r => allCapitals.all r.misses) = true := by decide +kernel
  exact List.all_eq_true.1 (List.all_eq_true.1 hall r hr) s hs

theorem lowerCode_of_not_has (h : ∀ s ∈ allCapitals, s.has n = false) : lowerCode n = n := by
  have hruns : ∀ s ∈ capitalRuns, s.has n = false := fun s hs => h s (List.mem_cons_of_mem _ hs)
  have hascii : ¬(0x41 ≤ n ∧ n ≤ 0x5A) := by
    have := hruns ⟨0x41, 0x5A, 1, 0x61⟩ List.mem_cons_self
    simpa [CapitalRun.has, Nat.mod_one] using this
  have hdotted : n ≠ 0x130 := by
    rintro rfl
    exact absurd (h _ List.mem_cons_self) (by decide)
  have hfind : capitalRuns.find? (·.has n) = none :=
    List.find?_eq_none.2 fun s hs => by rw [hruns s hs]; exact Bool.false_ne_true
  rw [lowerCode, hfind]
  simp [hascii, hdotted]

/-- What the lower-case code point of a code point is. -/
theorem lowerCode_cases (n : Nat) : lowerCode n = n ∨ (0x61 ≤ lowerCode n ∧ lowerCode n ≤ 0x7A) ∨
    ∃ r ∈ capitalRuns, r.has n = true ∧ lowerCode n = r.lower n := by
  rw [lowerCode]
  split
  · split
    · next h =>
      simp only [Bool.and_eq_true, decide_eq_true_eq] at h
      exact .inr (.inl (by omega))
    · exact .inl rfl
  · split
    · exact .inr (.inl (by decide))
    · cases hfind : capitalRuns.find? (·.has n) with
      | none => exact .inl rfl
      | some r =>
        exact .inr (.inr ⟨r, List.mem_of_find?_eq_some hfind, by simpa using List.find?_some hfind, rfl⟩)

/-- The lower case of a code point is in lower case. -/
theorem lowerCode_lowerCode (n : Nat) : lowerCode (lowerCode n) = lowerCode n := by
  rcases lowerCode_cases n with h | h | ⟨r, hr, hn, h⟩
  · rw [h, h]
  · have hsmall : lowerCode n < 128 := by omega
    rw [lowerCode, if_pos hsmall, if_neg (by simp; omega)]
  · rw [h]
    exact lowerCode_of_not_has fun s hs => CapitalRun.has_lower_of_misses (misses_of_mem hr hs) hn

theorem isValidChar_lowerCode (c : Char) : (lowerCode c.toNat).isValidChar := by
  have hvalid : (capitalRuns.all fun r => r.lastImage < 0xD800 ||
      (0xDFFF < r.image && r.lastImage < 0x110000)) = true := by decide +kernel
  rcases lowerCode_cases c.toNat with h | h | ⟨r, hr, hn, h⟩
  · rw [h]
    exact c.valid
  · exact .inl (by omega)
  · have hmem := CapitalRun.lower_mem hn
    have hr := List.all_eq_true.1 hvalid r hr
    simp only [Bool.or_eq_true, Bool.and_eq_true, decide_eq_true_eq] at hr
    rw [h, Nat.isValidChar]
    omega

theorem toNat_lowerChar (c : Char) : (lowerChar c).toNat = lowerCode c.toNat := by
  rw [lowerChar, Char.ofNat, dif_pos (isValidChar_lowerCode c)]
  rfl

/-- The lower case of what is no blank is none. -/
theorem isBlank_lowerChar (hc : isBlank c = false) : isBlank (lowerChar c) = false := by
  have hruns : (capitalRuns.all fun r => blankTable.all fun b => r.avoids b.1 b.2) = true := by
    decide +kernel
  rw [isBlank, toNat_lowerChar]
  rcases lowerCode_cases c.toNat with h | h | ⟨r, hr, hn, h⟩
  · rw [h]
    exact hc
  · simp [CharTable.has, blankTable]
    omega
  · rw [h, CharTable.has, List.any_eq_false]
    intro b hb
    have := CapitalRun.lower_of_avoids (List.all_eq_true.1 (List.all_eq_true.1 hruns r hr) b hb) hn
    simp
    omega

/-! ### Lower case -/

/-- A character that is in lower case. -/
structure IsLower (c : Char) : Prop where
  ne_sigma : c ≠ 'Σ'
  ne_dotted : c ≠ 'İ'
  lowerChar_eq : lowerChar c = c

theorem isLower_lowerChar (c : Char) : IsLower (lowerChar c) := by
  have hfix : lowerCode (lowerChar c).toNat = (lowerChar c).toNat := by
    rw [toNat_lowerChar, lowerCode_lowerCode]
  refine ⟨?_, ?_, ?_⟩
  · intro h
    rw [h] at hfix
    exact absurd hfix (by decide +kernel)
  · intro h
    rw [h] at hfix
    exact absurd hfix (by decide)
  · rw [lowerChar, hfix, Char.ofNat_toNat]

theorem isLower_of_mem_lowerAt (h : d ∈ lowerAt before c after) : IsLower d := by
  have hmarks : IsLower 'ς' ∧ IsLower 'σ' ∧ IsLower 'i' ∧ IsLower (Char.ofNat 0x307) := by
    refine ⟨⟨?_, ?_, ?_⟩, ⟨?_, ?_, ?_⟩, ⟨?_, ?_, ?_⟩, ⟨?_, ?_, ?_⟩⟩ <;> decide +kernel
  rw [lowerAt] at h
  split at h
  · rw [List.mem_singleton] at h
    split at h
    · exact h ▸ hmarks.1
    · exact h ▸ hmarks.2.1
  · split at h
    · simp only [List.mem_cons, List.not_mem_nil, or_false] at h
      rcases h with rfl | rfl
      · exact hmarks.2.2.1
      · exact hmarks.2.2.2
    · rw [List.mem_singleton] at h
      exact h ▸ isLower_lowerChar c

theorem isLower_of_mem_lowerFrom (h : d ∈ lowerFrom before t) : IsLower d := by
  induction t generalizing before with
  | nil => cases h
  | cons c t ih =>
    rw [lowerFrom, List.mem_append] at h
    exact h.elim isLower_of_mem_lowerAt ih

theorem lowerFrom_eq_self (h : ∀ c ∈ t, IsLower c) : lowerFrom before t = t := by
  induction t generalizing before with
  | nil => rfl
  | cons c t ih =>
    obtain ⟨⟨hsigma, hdotted, hlower⟩, ht⟩ := List.forall_mem_cons.1 h
    rw [lowerFrom, lowerAt, if_neg hsigma, if_neg hdotted, hlower, ih ht]
    rfl

theorem isBlank_of_mem_lowerAt (hc : isBlank c = false) (h : d ∈ lowerAt before c after) :
    isBlank d = false := by
  rw [lowerAt] at h
  split at h
  · rw [List.mem_singleton.1 h]
    split <;> decide
  · split at h
    · simp only [List.mem_cons, List.not_mem_nil, or_false] at h
      rcases h with rfl | rfl <;> decide
    · rw [List.mem_singleton.1 h]
      exact isBlank_lowerChar hc

theorem lowerAt_ne_nil : lowerAt before c after ≠ [] := by
  rw [lowerAt]
  split
  · simp
  · split <;> simp

/-- The end of a text in lower case is no blank when the text does not end with one. -/
theorem getLast?_lower (ht : ∀ c ∈ t.getLast?, isBlank c = false) :
    ∀ c ∈ (lower t).getLast?, isBlank c = false := by
  suffices ∀ before, ∀ c ∈ (lowerFrom before t).getLast?, isBlank c = false from this []
  -- a sigma is lowered by what stands before it, so the claim is for all that may
  induction t with
  | nil => exact fun before c hc => by cases hc
  | cons d t ih =>
    intro before c hc
    rw [lowerFrom] at hc
    cases t with
    | nil =>
      rw [lowerFrom, List.append_nil] at hc
      exact isBlank_of_mem_lowerAt (ht d rfl) (List.mem_of_getLast? hc)
    | cons e t =>
      have hne : lowerFrom (d :: before) (e :: t) ≠ [] := by
        rw [lowerFrom]
        exact List.append_ne_nil_of_left_ne_nil lowerAt_ne_nil _
      rw [List.getLast?_append, List.getLast?_eq_some_getLast hne, Option.some_or] at hc
      rw [← List.getLast?_eq_some_getLast hne] at hc
      exact ih (fun c hc => ht c (by rwa [List.getLast?_cons_cons])) _ c hc

/-! ### Bytes -/

namespace Utf8

/-- A text of ASCII is read back from its bytes. -/
theorem decode_encode (h : ∀ c ∈ t, c.toNat < 128) : decode (encode t) = .ok t := by
  suffices ∀ i, decodeFrom i (encode t) = .ok t from this 0
  induction t with
  | nil =>
    intro i
    rw [encode, List.flatMap_nil, decodeFrom]
  | cons c t ih =>
    intro i
    obtain ⟨hc, ht⟩ := List.forall_mem_cons.1 h
    have hbyte : (UInt8.ofNat c.toNat).toNat = c.toNat := by
      rw [UInt8.toNat_ofNat']
      omega
    have hchar : encodeChar c = [UInt8.ofNat c.toNat] := if_pos hc
    have hnext : next (UInt8.ofNat c.toNat) (encode t) = (.ok c, 0) := by
      rw [next, hbyte, tails, if_pos hc]
      simp [met, assemble, Char.ofNat_toNat]
    rw [encode, List.flatMap_cons, hchar, List.singleton_append, decodeFrom, ← encode, hnext]
    simp [ih ht, Except.map]

end Utf8

/-- A text without carriage returns has plain line breaks. -/
theorem plainBreaks_eq_self (h : ∀ c ∈ t, c ≠ '\r') : plainBreaks t = t := by
  induction t with
  | nil => rfl
  | cons c t ih =>
    obtain ⟨hc, ht⟩ := List.forall_mem_cons.1 h
    rw [plainBreaks, ih ht]
    exact fun heq => hc heq

end TreeSieve.Text
