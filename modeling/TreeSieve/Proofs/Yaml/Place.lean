import TreeSieve.Yaml.Lexeme
import TreeSieve.Yaml.Style
import TreeSieve.Proofs.Text

/-!
# Proofs — Yaml — Place

How places move over written text.  What is written consists of clear characters, which take one column
each, and of gaps: some line feeds and the spaces that set in the next line (`gap`).

* `Place.span_clear`: a run of clear characters is left behind in one go.
* `scanQuotedBreaks_gap`, `scanPlainBreaks_gap`: of a gap the line feeds are kept, and the place
  behind it stands at the column to which the line is set in.
-/

namespace TreeSieve.Yaml

variable {c : Char} {u w : Text} {i n k : Nat}

/-! ### Clear characters -/

/-- All characters of a text are clear. -/
def AreClear (w : Text) : Prop := ∀ c ∈ w, Style.isClear c = true

theorem areClear_of_all (h : w.all Style.isClear = true) : AreClear w := List.all_eq_true.1 h

namespace Style

/-- The clear characters are those of ASCII that can be seen, and the space. -/
theorem isClear_iff : isClear c = true ↔ 32 ≤ c.toNat ∧ c.toNat ≤ 126 := by
  simp only [isClear, Bool.and_eq_true, decide_eq_true_eq, Char.le_def, UInt32.le_iff_toNat_le]
  rfl

theorem isBreak_of_isClear (h : isClear c = true) : isBreak c = false := by
  rw [isClear_iff] at h
  simp only [isBreak, Bool.or_eq_false_iff, decide_eq_false_iff_not]
  refine ⟨⟨⟨⟨?_, ?_⟩, ?_⟩, ?_⟩, ?_⟩ <;> rintro rfl <;> exact absurd h (by decide)

end Style

/-- A text goes on with something other than blanks and line breaks, or ends. -/
def Starts (u : Text) : Prop := ∀ c ∈ u.head?, endsWord (some c) = false

theorem starts_nil : Starts [] := by simp [Starts]

theorem starts_cons : Starts (c :: u) ↔ endsWord (some c) = false := by simp [Starts]

/-- What begins with a clear character that is no space is a start. -/
theorem starts_cons_of_isClear (h : Style.isClear c = true) (hc : c ≠ ' ') : Starts (c :: u) := by
  have ht : c ≠ '\t' := Text.ne_of_test h (by decide)
  simp [starts_cons, endsWord, hc, ht, Style.isBreak_of_isClear h]

theorem Starts.cons_ne (h : Starts (c :: u)) : c ≠ ' ' ∧ c ≠ '\t' ∧ isBreak c = false := by
  simpa [starts_cons, endsWord, and_assoc] using h

namespace Place

/-- A clear character takes one column. -/
theorem step_clear (h : Style.isClear c = true) :
    step ⟨c :: u, i, n, k⟩ = ⟨u, i + 1, n, k + 1⟩ := by
  have hm : c ≠ '\uFEFF' := Text.ne_of_test h (by decide)
  simp [step, Style.isBreak_of_isClear h, hm]

theorem skip_one (h : Style.isClear c = true) :
    skip 1 ⟨c :: u, i, n, k⟩ = ⟨u, i + 1, n, k + 1⟩ := step_clear h

/-- Clear characters take one column each. -/
theorem skip_clear (hw : AreClear w) :
    skip w.length ⟨w ++ u, i, n, k⟩ = ⟨u, i + w.length, n, k + w.length⟩ := by
  induction w generalizing i k with
  | nil => rfl
  | cons c w ih =>
    obtain ⟨hc, hw⟩ := List.forall_mem_cons.1 hw
    rw [List.cons_append, List.length_cons, skip, step_clear hc, ih hw]
    congr 1 <;> omega

/-- A run of clear characters ends with the first that fails the test. -/
theorem span_clear {q : Char → Bool} (hw : AreClear w) (hq : ∀ c ∈ w, q c = true)
    (hu : ∀ c ∈ u.head?, q c = false) :
    span ⟨w ++ u, i, n, k⟩ q = (w, ⟨u, i + w.length, n, k + w.length⟩) := by
  have hrun : (w ++ u).takeWhile q = w := Text.takeWhile_eq_iff.mpr ⟨hq, u, rfl, hu⟩
  simp only [span, hrun, skip_clear hw]

theorem lineBreak?_feed :
    lineBreak? ⟨'\n' :: u, i, n, k⟩ = some ('\n', ⟨u, i + 1, n + 1, 0⟩) := rfl

theorem lineBreak?_of_not_isBreak (hu : ∀ c ∈ u.head?, isBreak c = false) :
    lineBreak? ⟨u, i, n, k⟩ = none := by
  cases u with
  | nil => rfl
  | cons c u =>
    have hc := hu c rfl
    have hends : c ≠ '\u2028' ∧ c ≠ '\u2029' ∧ c ≠ '\r' := by
      refine ⟨?_, ?_, ?_⟩ <;> rintro rfl <;> exact absurd hc (by decide)
    rw [lineBreak?]
    simp [hends, hc]

/-- No line break stands where something starts. -/
theorem lineBreak?_starts (hu : Starts u) : lineBreak? ⟨u, i, n, k⟩ = none :=
  lineBreak?_of_not_isBreak fun c hc => by
    have hends := hu c hc
    simp only [endsWord, Bool.or_eq_false_iff] at hends
    exact hends.2

end Place

/-! ### Gaps -/

/-- Line feeds and spaces before a text. -/
def gap (feeds spaces : Nat) (u : Text) : Text :=
  List.replicate feeds '\n' ++ (List.replicate spaces ' ' ++ u)

theorem gap_succ {feeds spaces : Nat} : gap (feeds + 1) spaces u = '\n' :: gap feeds spaces u := rfl

theorem length_gap {feeds spaces : Nat} : (gap feeds spaces u).length = feeds + spaces + u.length := by
  simp only [gap, List.length_append, List.length_replicate]
  omega

theorem areClear_spaces (m : Nat) : AreClear (List.replicate m ' ') := by
  intro c hc
  rw [List.eq_of_mem_replicate hc]
  decide

/-- The spaces of a gap are left behind. -/
theorem span_spaces {q : Char → Bool} (hq : q ' ' = true) (hu : ∀ c ∈ u.head?, q c = false) (m : Nat) :
    Place.span ⟨List.replicate m ' ' ++ u, i, n, k⟩ q =
      (List.replicate m ' ', ⟨u, i + m, n, k + m⟩) := by
  have h := Place.span_clear (i := i) (n := n) (k := k) (areClear_spaces m)
    (fun c hc => by rw [List.eq_of_mem_replicate hc, hq]) hu
  rwa [List.length_replicate] at h

/-- Exactly the spaces in front are skipped. -/
theorem skipSpaces_spaces (hu : ∀ c ∈ u.head?, c ≠ ' ') (m : Nat) :
    Place.skipSpaces ⟨List.replicate m ' ' ++ u, i, n, k⟩ = ⟨u, i + m, n, k + m⟩ := by
  rw [Place.skipSpaces, span_spaces rfl (fun c hc => by simpa using hu c hc)]

theorem Starts.head_ne (h : Starts u) : ∀ c ∈ u.head?, c ≠ ' ' := by
  intro c hc
  have := h c hc
  rintro rfl
  cases this

/-- No mark between documents stands in a gap. -/
theorem atSeparator_gap {feeds spaces : Nat} (h : 0 < feeds + spaces) :
    Place.atSeparator ⟨gap feeds spaces u, i, n, k⟩ = false := by
  cases feeds with
  | succ feeds => rfl
  | zero =>
    cases spaces with
    | succ spaces => rfl
    | zero => exact absurd h (Nat.lt_irrefl _)

/-- The same where there may be no gap, and no mark stands behind it. -/
theorem atSeparator_gap_of_not {feeds spaces : Nat}
    (hmark : 0 < spaces ∨ Place.atSeparator ⟨u, 0, 0, 0⟩ = false) :
    Place.atSeparator ⟨gap feeds spaces u, i, n, k⟩ = false := by
  rcases Nat.eq_zero_or_pos (feeds + spaces) with h | h
  · obtain ⟨rfl, rfl⟩ : feeds = 0 ∧ spaces = 0 := by omega
    exact hmark.resolve_left (Nat.lt_irrefl 0)
  · exact atSeparator_gap h

/-- A gap in a quoted text is read as its line feeds. -/
theorem scanQuotedBreaks_gap {feeds spaces fuel : Nat} (hu : Starts u) (hs : 0 < spaces)
    (hfuel : feeds < fuel) :
    scanQuotedBreaks fuel ⟨gap feeds spaces u, i, n, 0⟩ =
      .ok (List.replicate feeds '\n', ⟨u, i + feeds + spaces, n + feeds, spaces⟩) := by
  induction feeds generalizing fuel i n with
  | zero =>
    obtain ⟨fuel, rfl⟩ : ∃ m, fuel = m + 1 := ⟨fuel - 1, by omega⟩
    have hblank : ∀ c ∈ u.head?, (decide (c = ' ') || decide (c = '\t')) = false := by
      intro c hc
      have := hu c hc
      simp only [endsWord, Bool.or_eq_false_iff] at this
      simp [this.1]
    rw [scanQuotedBreaks, atSeparator_gap (by omega), if_neg (by simp), gap]
    simp only [List.replicate_zero, List.nil_append]
    rw [span_spaces rfl hblank]
    simp [Place.lineBreak?_starts hu]
  | succ feeds ih =>
    obtain ⟨fuel, rfl⟩ : ∃ m, fuel = m + 1 := ⟨fuel - 1, by omega⟩
    rw [scanQuotedBreaks, atSeparator_gap (by omega), if_neg (by simp), gap_succ]
    have hspan : Place.span ⟨'\n' :: gap feeds spaces u, i, n, 0⟩ (fun c => c = ' ' || c = '\t') =
        ([], ⟨'\n' :: gap feeds spaces u, i, n, 0⟩) := rfl
    simp only [hspan, Place.lineBreak?_feed, ih (by omega : feeds < fuel)]
    simp only [bind, Except.bind, pure, Except.pure, Except.ok.injEq, Prod.mk.injEq,
      List.replicate_succ, true_and, Place.mk.injEq, and_true]
    omega

/-- A gap in a plain text is read as its line feeds. -/
theorem scanPlainBreaks_gap {feeds spaces fuel : Nat} (hu : Starts u)
    (hmark : 0 < spaces ∨ Place.atSeparator ⟨u, 0, 0, 0⟩ = false) (hfuel : feeds < fuel) :
    scanPlainBreaks fuel ⟨gap feeds spaces u, i, n, 0⟩ =
      (some (List.replicate feeds '\n'), ⟨u, i + feeds + spaces, n + feeds, spaces⟩) := by
  induction feeds generalizing fuel i n with
  | zero =>
    obtain ⟨fuel, rfl⟩ : ∃ m, fuel = m + 1 := ⟨fuel - 1, by omega⟩
    rw [scanPlainBreaks, gap]
    simp only [List.replicate_zero, List.nil_append]
    rw [skipSpaces_spaces hu.head_ne]
    simp [Place.lineBreak?_starts hu]
  | succ feeds ih =>
    obtain ⟨fuel, rfl⟩ : ∃ m, fuel = m + 1 := ⟨fuel - 1, by omega⟩
    have hskip : Place.skipSpaces ⟨'\n' :: gap feeds spaces u, i, n, 0⟩ =
        ⟨'\n' :: gap feeds spaces u, i, n, 0⟩ := rfl
    have hline : Place.atSeparator ⟨gap feeds spaces u, i + 1, n + 1, 0⟩ = false :=
      atSeparator_gap_of_not hmark
    rw [scanPlainBreaks, gap_succ, hskip]
    simp only [Place.lineBreak?_feed, hline, ih (by omega : feeds < fuel)]
    simp [List.replicate_succ]
    omega

end TreeSieve.Yaml
