import TreeSieve.Proofs.Glob.Reading

/-!
# Proofs — Glob — Sets

How the text of a set is read.  What stands between the brackets of a set goes into the regular
expression as it stands, where a minus sign between two characters makes a range of them, unless it has
a backslash before it (`Mark`, `members`).

* `readSetNode_marks`: the members of a set are those of its marks, up to the closing bracket behind
  them; there is no set when that is missing, or when a range goes backwards.
-/

namespace TreeSieve.Glob

open Regex (Node SetItem)

/-! ### Marks -/

/-- A character between the brackets of a set, as it is written. -/
inductive Mark where
  | bare (c : Char)
  /-- Behind a backslash. -/
  | escaped (c : Char)
  deriving DecidableEq, Repr

namespace Mark

/-- The character that a mark stands for. -/
def char : Mark → Char
  | bare c | escaped c => c

/-- How a mark is written. -/
def text : Mark → Text
  | bare c => [c]
  | escaped c => ['\\', c]

/-- The mark of a character in the body of a set, where a backslash is doubled. -/
def ofBody (c : Char) : Mark := if c = '\\' then escaped c else bare c

/-- The mark of a character of a name that a set before it takes in. -/
def ofName (c : Char) : Mark := if isSpecial c then escaped c else bare c

/-- A mark that stands for its character. -/
def IsPlain : Mark → Prop
  | bare c => c ≠ '\\'
  | escaped c => isSpecial c = true

/-- A mark that stands for its character and does not close a set. -/
def IsInner (m : Mark) : Prop := m.IsPlain ∧ m ≠ bare ']'

end Mark

/-- Marks as they are written. -/
def marksText (ms : List Mark) : Text := ms.flatMap Mark.text

/-- The members that marks stand for; a bare minus sign between two others makes a range of them. There
are none when a range goes backwards. -/
def members : List Mark → Option (List SetItem)
  | [] => some []
  | [m, .bare '-'] => some [.one m.char.toNat, .one '-'.toNat]
  | m :: .bare '-' :: m' :: ms =>
    if m.char.toNat ≤ m'.char.toNat then
      (members ms).map (.range m.char.toNat m'.char.toNat :: ·)
    else none
  | m :: ms => (members ms).map (.one m.char.toNat :: ·)

section

variable {m : Mark} {ms : List Mark} {n start fuel : Nat} {found : List SetItem} {rest : Text}

theorem marksText_cons : marksText (m :: ms) = m.text ++ marksText ms := List.flatMap_cons

theorem isInner_ofName (c : Char) : (Mark.ofName c).IsInner := by
  unfold Mark.ofName
  split
  · next h => exact ⟨h, nofun⟩
  · next h =>
    refine ⟨?_, ?_⟩
    · rintro rfl
      exact h rfl
    · rintro ⟨⟩
      exact h rfl

theorem isInner_ofBody {c : Char} (hc : c ≠ ']') : (Mark.ofBody c).IsInner := by
  unfold Mark.ofBody
  split
  · next h => exact ⟨h ▸ rfl, nofun⟩
  · next h => exact ⟨h, fun he => hc (Mark.bare.inj he)⟩

/-- In a set too, a special character behind a backslash stands for itself. -/
theorem setEscape_of_isSpecial {c : Char} (h : isSpecial c = true) (n : Nat) (rest : Text) :
    Regex.setEscape n c rest = .ok (.one c.toNat, rest) := by
  simp only [isSpecial, List.contains_iff_mem] at h
  fin_cases h <;> rfl

theorem setMark_text (h : m.IsPlain) (n start : Nat) (rest : Text) :
    Regex.setMark n start (m.text ++ rest) = .ok (m.text, .one m.char.toNat, rest) := by
  cases m with
  | bare c =>
    have hc : c ≠ '\\' := h
    simp [Mark.text, Mark.char, Regex.setMark, hc]
  | escaped c =>
    change (Regex.setEscape n c rest).map _ = _
    rw [setEscape_of_isSpecial h]
    rfl

/-! ### Sets -/

theorem head?_text_append {c : Char} (hc : c ≠ '\\') (m : Mark) (rest : Text) :
    (m.text ++ rest).head? = some c ↔ m = .bare c := by
  cases m <;> simp [Mark.text, hc.symm]

theorem readSet_close (hfound : found ≠ []) :
    Regex.readSet n start (fuel + 1) found (']' :: rest) = .ok (found.reverse, rest) := by
  rw [Regex.readSet, if_pos (by simpa using hfound)]
  rfl

section

-- the mark `m` does not close the set
variable (hm : m.IsPlain) (hopen : found ≠ [] → m ≠ .bare ']')

include hopen

theorem not_closed (rest : Text) :
    ¬ ((m.text ++ rest).head? = some ']' && !found.isEmpty) = true := by
  simp only [Bool.and_eq_true, decide_eq_true_eq,
    head?_text_append (show ']' ≠ '\\' by decide), Bool.not_eq_true',
    List.isEmpty_eq_false_iff, not_and]
  exact fun h hfound => hopen hfound h

include hm

/-- A minus sign in front of the closing bracket is a member. -/
theorem readSet_last :
    Regex.readSet n start (fuel + 1) found (m.text ++ '-' :: ']' :: rest) =
      .ok (found.reverse ++ [.one m.char.toNat, .one '-'.toNat], rest) := by
  rw [Regex.readSet, if_neg (not_closed hopen _), setMark_text hm]
  change Except.ok ((.one '-'.toNat :: .one m.char.toNat :: found).reverse, rest) = _
  simp

/-- Nothing stands behind the minus sign. -/
theorem readSet_minus (x : List SetItem × Text) :
    Regex.readSet n start (fuel + 1) found (m.text ++ ['-']) ≠ .ok x := by
  rw [Regex.readSet, if_neg (not_closed hopen _), setMark_text hm]
  exact nofun

theorem readSet_range {m' : Mark} (hm' : m'.IsInner) :
    Regex.readSet n start (fuel + 1) found (m.text ++ '-' :: (m'.text ++ rest)) =
      if m.char.toNat ≤ m'.char.toNat then
        Regex.readSet n start fuel (.range m.char.toNat m'.char.toNat :: found) rest
      else Regex.mistakeAt n rest (m.text.length + 1 + m'.text.length)
        (.badRange m.text m'.text) := by
  have hbracket : ∀ r, m'.text ++ rest = ']' :: r → False := fun r h =>
    hm'.2 ((head?_text_append (by decide) m' rest).mp (by rw [h]; rfl))
  rw [Regex.readSet, if_neg (not_closed hopen _), setMark_text hm]
  simp only [bind, Except.bind, setMark_text hm'.1]

theorem readSet_one (hrest : rest.head? ≠ some '-') :
    Regex.readSet n start (fuel + 1) found (m.text ++ rest) =
      Regex.readSet n start fuel (.one m.char.toNat :: found) rest := by
  rw [Regex.readSet, if_neg (not_closed hopen _), setMark_text hm]
  simp only [bind, Except.bind]
  split
  · exact absurd rfl hrest
  · exact absurd rfl hrest
  · rfl

end

/-- The first mark of a set may be a closing bracket; further ones may not. -/
theorem forall_mem_head?_of_inner {items : List SetItem} (h : ∀ m ∈ ms, m.IsInner) :
    ∀ m ∈ ms.head?, m.IsPlain ∧ (items ≠ [] → m ≠ .bare ']') :=
  fun m hm => (h m (List.mem_of_mem_head? hm)).imp_right fun h _ => h

/-- **The members of a set** are those of its marks, up to the closing bracket behind them; a set is
refused when none is there. Only the first mark may be such a bracket itself. -/
theorem readSet_marks (hhead : ∀ m ∈ ms.head?, m.IsPlain ∧ (found ≠ [] → m ≠ .bare ']'))
    (htail : ∀ m ∈ ms.tail, m.IsInner) (hne : found ≠ [] ∨ ms ≠ [])
    (hrest : ∀ c ∈ rest.head?, c = ']') (hfuel : ms.length ≤ fuel) {x : List SetItem × Text} :
    Regex.readSet n start (fuel + 1) found (marksText ms ++ rest) = .ok x ↔
      ∃ items r, members ms = some items ∧ rest = ']' :: r ∧ x = (found.reverse ++ items, r) := by
  fun_induction members ms generalizing found fuel with
  | case1 =>
    have hfound : found ≠ [] := hne.resolve_right fun h => h rfl
    cases rest with
    | nil => exact iff_of_false nofun nofun
    | cons c rest =>
      obtain rfl := hrest c rfl
      rw [show marksText [] ++ ']' :: rest = ']' :: rest from rfl, readSet_close hfound]
      simp [eq_comm]
  | case2 m =>
    obtain ⟨hm, hopen⟩ := hhead m rfl
    have htext : marksText [m, .bare '-'] ++ rest = m.text ++ '-' :: rest := by
      simp [marksText, Mark.text]
    rw [htext]
    cases rest with
    | nil => exact iff_of_false (readSet_minus hm hopen x) nofun
    | cons c rest =>
      obtain rfl := hrest c rfl
      rw [readSet_last hm hopen]
      simp [eq_comm]
  | case3 m m' ms hle ih =>
    obtain ⟨hm, hopen⟩ := hhead m rfl
    obtain ⟨-, hm', hms⟩ : _ ∧ m'.IsInner ∧ ∀ m ∈ ms, m.IsInner := by simpa using htail
    have htext : marksText (m :: .bare '-' :: m' :: ms) ++ rest =
        m.text ++ '-' :: (m'.text ++ (marksText ms ++ rest)) := by
      simp [marksText, Mark.text]
    simp only [List.length_cons] at hfuel
    obtain ⟨fuel, rfl⟩ : ∃ k, fuel = k + 1 := ⟨fuel - 1, by omega⟩
    rw [htext, readSet_range hm hopen hm', if_pos hle,
      ih (forall_mem_head?_of_inner hms) (fun m hm => hms m (List.mem_of_mem_tail hm))
        (.inl (List.cons_ne_nil _ found)) (by omega)]
    simp
  | case4 m m' ms hle =>
    obtain ⟨hm, hopen⟩ := hhead m rfl
    obtain ⟨-, hm', -⟩ : _ ∧ m'.IsInner ∧ ∀ m ∈ ms, m.IsInner := by simpa using htail
    have htext : marksText (m :: .bare '-' :: m' :: ms) ++ rest =
        m.text ++ '-' :: (m'.text ++ (marksText ms ++ rest)) := by
      simp [marksText, Mark.text]
    rw [htext, readSet_range hm hopen hm', if_neg hle]
    exact iff_of_false nofun nofun
  | case5 m ms hlast hrange ih =>
    obtain ⟨hm, hopen⟩ := hhead m rfl
    -- a minus sign next would have been one of the cases before
    have hnext : (marksText ms ++ rest).head? ≠ some '-' := by
      intro h
      cases ms with
      | nil => exact absurd (hrest '-' h) (by decide)
      | cons m' ms =>
        rw [marksText_cons, List.append_assoc, head?_text_append (by decide)] at h
        subst h
        cases ms with
        | nil => exact hlast rfl
        | cons m'' ms => exact hrange m'' ms rfl
    simp only [List.length_cons] at hfuel
    obtain ⟨fuel, rfl⟩ : ∃ k, fuel = k + 1 := ⟨fuel - 1, by omega⟩
    rw [marksText_cons, List.append_assoc, readSet_one hm hopen hnext,
      ih (forall_mem_head?_of_inner htail) (fun m hm => htail m (List.mem_of_mem_tail hm))
        (.inl (List.cons_ne_nil _ found)) (by omega)]
    simp

/-- The mark of negation, if a set has it. -/
def caret (negated : Bool) : List Mark := if negated then [.bare '^'] else []

/-- Marks that can stand behind an opening bracket and the mark of negation. -/
structure Fill (negated : Bool) (ms : List Mark) : Prop where
  ne_nil : ms ≠ []
  head : ∀ m ∈ ms.head?, m.IsPlain ∧ (negated = false → m ≠ .bare '^')
  tail : ∀ m ∈ ms.tail, m.IsInner

theorem length_le_marksText (ms : List Mark) : ms.length ≤ (marksText ms).length := by
  induction ms with
  | nil => exact Nat.le_refl 0
  | cons m ms ih =>
    rw [marksText_cons, List.length_append, List.length_cons]
    have : 1 ≤ m.text.length := by cases m <;> simp [Mark.text]
    omega

/-- The reader takes the mark of negation for one, and no other mark. -/
theorem readSetNode_eq {negated : Bool} (h : Fill negated ms) (n : Nat) (rest : Text) :
    ∃ start, Regex.readSetNode n (marksText (caret negated ++ ms) ++ rest) =
      (Regex.readSet n start ((marksText ms ++ rest).length + 1) [] (marksText ms ++ rest)).map
        fun y => (Regex.setNode negated y.1, y.2) := by
  cases negated with
  | true => exact ⟨_, rfl⟩
  | false =>
    obtain ⟨m, ms, rfl⟩ := List.exists_cons_of_ne_nil h.ne_nil
    have hcaret : (m.text ++ (marksText ms ++ rest)).head? ≠ some '^' := fun hhead =>
      (h.head m rfl).2 rfl ((head?_text_append (by decide) m _).mp hhead)
    rw [show caret false ++ m :: ms = m :: ms from rfl, marksText_cons, List.append_assoc,
      Regex.readSetNode]
    · exact ⟨_, rfl⟩
    · exact fun r hr => hcaret (by rw [hr]; rfl)

/-- **A set is read** as its marks say. -/
theorem readSetNode_marks {negated : Bool} (h : Fill negated ms)
    (hrest : ∀ c ∈ rest.head?, c = ']') {x : Node × Text} :
    Regex.readSetNode n (marksText (caret negated ++ ms) ++ rest) = .ok x ↔
      ∃ items r, members ms = some items ∧ rest = ']' :: r ∧
        x = (Regex.setNode negated items, r) := by
  have hlen := length_le_marksText ms
  obtain ⟨start, hread⟩ := readSetNode_eq h n rest
  have hset : ∀ y, Regex.readSet n start ((marksText ms ++ rest).length + 1) []
      (marksText ms ++ rest) = .ok y ↔
        ∃ items r, members ms = some items ∧ rest = ']' :: r ∧ y = ([].reverse ++ items, r) :=
    fun y => readSet_marks (fun m hm => ⟨(h.head m hm).1, fun hne => absurd rfl hne⟩) h.tail
      (.inr h.ne_nil) hrest (by rw [List.length_append]; omega)
  rw [hread]
  constructor
  · intro h
    cases hitems : Regex.readSet n start ((marksText ms ++ rest).length + 1) []
        (marksText ms ++ rest) with
    | error e => rw [hitems] at h; cases h
    | ok y =>
      rw [hitems] at h
      obtain ⟨items, r, hms, hr, rfl⟩ := (hset y).mp hitems
      exact ⟨items, r, hms, hr, (Except.ok.inj h).symm⟩
  · rintro ⟨items, r, hms, hr, rfl⟩
    rw [(hset _).mpr ⟨items, r, hms, hr, rfl⟩]
    rfl

end

end TreeSieve.Glob
