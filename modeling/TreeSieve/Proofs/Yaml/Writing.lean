import TreeSieve.Proofs.Yaml.Place

/-!
# Proofs — Yaml — Writing

What is written for a text, part by part.

* `Folds`: the ways to write a text without escapes, by the runs of spaces and of line feeds in it;
  `folds_writeFolded`: what is written is one of them.
* `Spells`: the ways to write a text with escapes, by its characters; `spells_writeEscaped`: what is
  written is one of them.

In each way the place of the folds is free, so that what reads a way back need not know of columns.
-/

namespace TreeSieve.Yaml

variable {c d : Char} {s t u v : Text} {indent m : Nat} {quoted : Bool}

/-! ### Runs of a character -/

/-- A text is a run of a character and what begins otherwise. -/
theorem exists_run (d : Char) (t : Text) : ∃ m u, t = List.replicate m d ++ u ∧ u.head? ≠ some d := by
  induction t with
  | nil => exact ⟨0, [], rfl, by simp⟩
  | cons c t ih =>
    by_cases hc : c = d
    · obtain ⟨m, u, rfl, hu⟩ := ih
      exact ⟨m + 1, u, by rw [hc]; rfl, hu⟩
    · exact ⟨0, c :: t, rfl, by simpa using hc⟩

theorem exists_run_of_head (d : Char) (t : Text) :
    ∃ m u, d :: t = List.replicate (m + 1) d ++ u ∧ u.head? ≠ some d ∧ u.length < t.length + 1 := by
  obtain ⟨m, u, rfl, hu⟩ := exists_run d t
  exact ⟨m, u, rfl, hu, by rw [List.length_append, List.length_replicate]; omega⟩

namespace Style

variable {r : Char → Char → Bool}

theorem someNeighbours_cons (h : someNeighbours r (c :: t) = false) :
    someNeighbours r t = false := by
  cases t with
  | nil => rfl
  | cons d t =>
    rw [someNeighbours, Bool.or_eq_false_iff] at h
    exact h.2

theorem someNeighbours_append (h : someNeighbours r (s ++ t) = false) :
    someNeighbours r t = false := by
  induction s with
  | nil => exact h
  | cons c s ih => exact ih (someNeighbours_cons h)

/-- Two characters that stand next to each other are not in the relation. -/
theorem not_of_someNeighbours (h : someNeighbours r (s ++ c :: d :: t) = false) :
    r c d = false := by
  have h := someNeighbours_append h
  rw [someNeighbours, Bool.or_eq_false_iff] at h
  exact h.1

theorem someNeighbours_eq_false (h : ∀ a ∈ t, ∀ b ∈ t, r a b = false) :
    someNeighbours r t = false := by
  induction t with
  | nil => rfl
  | cons c t ih =>
    have htail : someNeighbours r t = false :=
      ih fun a ha b hb => h a (List.mem_cons_of_mem c ha) b (List.mem_cons_of_mem c hb)
    cases t with
    | nil => rfl
    | cons d t =>
      have hpair : r c d = false := h c (by simp) d (by simp)
      rw [someNeighbours, hpair, htail, Bool.or_self]

/-- The characters of a text that needs no escapes. -/
theorem isClear_of_needsEscapes (h : needsEscapes t = false) (hc : c ∈ t) (hfeed : c ≠ '\n') :
    isClear c = true := by
  rw [needsEscapes, Bool.or_eq_false_iff, List.any_eq_false] at h
  simpa [hfeed] using h.1 c hc

theorem needsEscapes_append (h : needsEscapes (s ++ t) = false) : needsEscapes t = false := by
  rw [needsEscapes, Bool.or_eq_false_iff, List.any_append, Bool.or_eq_false_iff] at h
  rw [needsEscapes, h.1.2, someNeighbours_append h.2, Bool.or_self]

/-- Spaces and line feeds do not stand next to each other in a text that needs no escapes. -/
theorem head?_ne_of_needsEscapes (h : needsEscapes (List.replicate (m + 1) c ++ t) = false)
    (hcd : c = ' ' ∧ d = '\n' ∨ c = '\n' ∧ d = ' ') : t.head? ≠ some d := by
  intro hd
  obtain ⟨v, rfl⟩ := List.head?_eq_some_iff.1 hd
  rw [List.replicate_succ', List.append_assoc] at h
  rw [needsEscapes, Bool.or_eq_false_iff] at h
  have hpair := not_of_someNeighbours h.2
  rcases hcd with ⟨rfl, rfl⟩ | ⟨rfl, rfl⟩ <;> cases hpair

end Style

/-! ### Texts without escapes -/

/-- A text goes on with something other than a space or a line feed, or ends. -/
def StartsRun (t : Text) : Prop := t.head? ≠ some ' ' ∧ t.head? ≠ some '\n'

/-- The ways to write a text without escapes. A single space may become a new line, and of a run of line
feeds one more is written than there are. -/
inductive Folds (quoted : Bool) (indent : Nat) : Text → Text → Prop
  | nil : Folds quoted indent [] []
  | char {c : Char} {t u : Text} (hc : Style.isClear c = true) (hspace : c ≠ ' ')
      (hquote : c = '\'' → quoted = false) (h : Folds quoted indent t u) :
      Folds quoted indent (c :: t) (c :: u)
  | apostrophe {t u : Text} (hquoted : quoted = true) (h : Folds quoted indent t u) :
      Folds quoted indent ('\'' :: t) ('\'' :: '\'' :: u)
  | spaces (m : Nat) {t u : Text} (ht : StartsRun t) (h : Folds quoted indent t u) :
      Folds quoted indent (List.replicate (m + 1) ' ' ++ t) (List.replicate (m + 1) ' ' ++ u)
  | fold {t u : Text} (hne : t ≠ []) (ht : StartsRun t) (h : Folds quoted indent t u) :
      Folds quoted indent (' ' :: t) (newLine indent ++ u)
  | feeds (m : Nat) {t u : Text} (ht : StartsRun t) (h : Folds quoted indent t u) :
      Folds quoted indent (List.replicate (m + 1) '\n' ++ t) ('\n' :: gap (m + 1) indent u)

/-- Behind a space further spaces are written as they are. -/
theorem writeFolded_spaces (quoted : Bool) (indent column m : Nat) (t : Text) :
    writeFolded quoted indent (some ' ') column (List.replicate m ' ' ++ t) =
      List.replicate m ' ' ++ writeFolded quoted indent (some ' ') (column + m) t := by
  induction m generalizing column with
  | zero => rfl
  | succ m ih =>
    rw [List.replicate_succ, List.cons_append, writeFolded, if_pos rfl, if_neg (by simp), ih,
      List.cons_append, Nat.add_right_comm, Nat.add_assoc]

/-- Behind a line feed further line feeds are written as they are, and the next line is set in. -/
theorem writeFolded_feeds (quoted : Bool) (indent column m : Nat) (ht : t.head? ≠ some '\n') :
    writeFolded quoted indent (some '\n') column (List.replicate (m + 1) '\n' ++ t) =
      gap (m + 1) indent (writeFolded quoted indent (some '\n') indent t) := by
  induction m generalizing column with
  | zero => simp [writeFolded, ht, gap, newLine]
  | succ m ih =>
    rw [List.replicate_succ, List.cons_append, writeFolded, if_neg (by decide), if_pos rfl, if_pos rfl,
      if_pos (by rfl), ih, gap_succ]
    rfl

/-- A run of spaces is written as it is, or a single space as a new line. -/
theorem writeFolded_spacesRun (quoted : Bool) (indent : Nat) (before? : Option Char)
    (column m : Nat) (t : Text) :
    (∃ column', writeFolded quoted indent before? column (List.replicate (m + 1) ' ' ++ t) =
        List.replicate (m + 1) ' ' ++ writeFolded quoted indent (some ' ') column' t) ∨
      (m = 0 ∧ t ≠ [] ∧ writeFolded quoted indent before? column (List.replicate (m + 1) ' ' ++ t) =
        newLine indent ++ writeFolded quoted indent (some ' ') indent t) := by
  rw [List.replicate_succ, List.cons_append, writeFolded, if_pos rfl]
  split
  · next hfold =>
    simp only [Bool.and_eq_true, decide_eq_true_eq, Bool.not_eq_true'] at hfold
    obtain ⟨⟨⟨⟨-, -⟩, hne⟩, hhead⟩, -⟩ := hfold
    cases m with
    | zero => exact .inr ⟨rfl, by simpa using hne, rfl⟩
    | succ m => exact absurd rfl hhead
  · exact .inl ⟨_, by rw [writeFolded_spaces, List.cons_append]⟩

/-- Of a run of line feeds one more is written than there are, and the next line is set in. -/
theorem writeFolded_feedsRun (quoted : Bool) (indent : Nat) {before? : Option Char}
    (hbefore : before? ≠ some '\n') (column m : Nat) (ht : t.head? ≠ some '\n') :
    writeFolded quoted indent before? column (List.replicate (m + 1) '\n' ++ t) =
      '\n' :: gap (m + 1) indent (writeFolded quoted indent (some '\n') indent t) := by
  rw [List.replicate_succ, List.cons_append, writeFolded, if_neg (by decide), if_pos rfl,
    if_neg hbefore]
  cases m with
  | zero => simp [ht, gap, newLine]
  | succ m =>
    rw [writeFolded_feeds _ _ _ _ ht]
    simp [List.replicate_succ, gap_succ]

/-- What is written of a text without escapes, from any column on, is one of the ways to write it, if the
text does not go on with the run of spaces or line feeds before it. -/
theorem folds_writeFolded (quoted : Bool) (indent : Nat) (before? : Option Char) (column : Nat)
    (t : Text) (ht : Style.needsEscapes t = false) (hspace : before? = some ' ' → t.head? ≠ some ' ')
    (hfeed : before? = some '\n' → t.head? ≠ some '\n') :
    Folds quoted indent t (writeFolded quoted indent before? column t) := by
  match t with
  | [] => exact .nil
  | c :: t =>
    by_cases hc : c = ' '
    · subst hc
      -- a run is written in one go, so the recursion is on what stands behind it
      obtain ⟨m, u, hrun, hu, hlen⟩ := exists_run_of_head ' ' t
      rw [hrun] at ht ⊢
      have hstarts : StartsRun u :=
        ⟨hu, Style.head?_ne_of_needsEscapes ht (.inl ⟨rfl, rfl⟩)⟩
      have hrest (column : Nat) : Folds quoted indent u (writeFolded quoted indent (some ' ') column u) :=
        folds_writeFolded quoted indent _ column u (Style.needsEscapes_append ht) (fun _ => hu)
          (fun h => by cases h)
      rcases writeFolded_spacesRun quoted indent before? column m u with
        ⟨column', hwritten⟩ | ⟨rfl, hne, hwritten⟩
      · rw [hwritten]
        exact .spaces m hstarts (hrest column')
      · rw [hwritten]
        exact .fold hne hstarts (hrest indent)
    by_cases hn : c = '\n'
    · subst hn
      obtain ⟨m, u, hrun, hu, hlen⟩ := exists_run_of_head '\n' t
      have hbefore : before? ≠ some '\n' := fun h => hfeed h rfl
      rw [hrun] at ht ⊢
      have hstarts : StartsRun u :=
        ⟨Style.head?_ne_of_needsEscapes ht (.inr ⟨rfl, rfl⟩), hu⟩
      rw [writeFolded_feedsRun quoted indent hbefore column m hu]
      exact .feeds m hstarts (folds_writeFolded quoted indent _ indent u
        (Style.needsEscapes_append ht) (fun h => by cases h) (fun _ => hu))
    · have hclear := Style.isClear_of_needsEscapes ht List.mem_cons_self hn
      have hrest (column : Nat) : Folds quoted indent t (writeFolded quoted indent (some c) column t) :=
        folds_writeFolded quoted indent _ column t (Style.needsEscapes_append (s := [c]) ht)
          (fun h => absurd (Option.some.inj h) hc) (fun h => absurd (Option.some.inj h) hn)
      rw [writeFolded, if_neg hc, if_neg hn]
      split
      · next hquote =>
        simp only [Bool.and_eq_true, decide_eq_true_eq] at hquote
        obtain ⟨rfl, hquoted⟩ := hquote
        exact .apostrophe hquoted (hrest _)
      · next hquote => exact .char hclear hc (fun h => by simpa [h] using hquote) (hrest _)
termination_by t.length

/-- What is written of a text begins with a blank only if the text does. -/
theorem Folds.starts (h : Folds quoted indent t u) (ht : StartsRun t) (hv : t = [] → Starts v) :
    Starts (u ++ v) := by
  cases h with
  | nil => exact hv rfl
  | char hc hspace => exact starts_cons_of_isClear hc hspace
  | apostrophe => exact starts_cons.2 (by decide)
  | spaces => exact absurd rfl ht.1
  | fold => exact absurd rfl ht.1
  | feeds => exact absurd rfl ht.2

/-- A text of clear characters without spaces is written as it is. -/
theorem Folds.refl (ht : ∀ c ∈ t, Style.isClear c = true ∧ c ≠ ' ') : Folds false indent t t := by
  induction t with
  | nil => exact .nil
  | cons c t ih =>
    obtain ⟨⟨hclear, hspace⟩, ht⟩ := List.forall_mem_cons.1 ht
    exact .char hclear hspace (fun _ => rfl) (ih ht)

/-! ### Texts with escapes -/

/-- Whether a character stands for itself among escapes. -/
def needsNoEscape (c : Char) : Bool := Style.isClear c && c ≠ '"' && c ≠ '\\'

/-- The ways to write a text with escapes. A line may be folded anywhere but before a space, which a
backslash keeps. -/
inductive Spells (indent : Nat) : Text → Text → Prop
  | nil : Spells indent [] []
  | char {c : Char} {t u : Text} (hc : needsNoEscape c = true) (h : Spells indent t u) :
      Spells indent (c :: t) (c :: u)
  | escape (c : Char) {t u : Text} (h : Spells indent t u) : Spells indent (c :: t) (escape c ++ u)
  | space {t u : Text} (h : Spells indent t u) : Spells indent (' ' :: t) ('\\' :: ' ' :: u)
  | fold {t u : Text} (hu : u.head? ≠ some ' ') (h : Spells indent t u) :
      Spells indent t ('\\' :: newLine indent ++ u)

theorem head?_escape_append (c : Char) (u : Text) : (escape c ++ u).head? = some '\\' := by
  rw [escape]
  split
  · rfl
  · split
    · rfl
    · split <;> rfl

/-- A space at the start of a line that is set in is written as it is. -/
theorem writeEscaped_space (h : indent < lineWidth) :
    writeEscaped indent false true (indent + 1) (' ' :: t) =
      ' ' :: writeEscaped indent false false (indent + 2) t := by
  have hwidth : ¬ lineWidth < indent + 1 := Nat.not_lt.2 h
  simp [writeEscaped, Style.isClear, hwidth]

/-- What is written of a text begins with a space only if the text does. -/
theorem head?_writeEscaped_ne {start escaped : Bool} {column : Nat} (ht : t.head? ≠ some ' ') :
    (writeEscaped indent start escaped column t).head? ≠ some ' ' := by
  cases t with
  | nil => simp [writeEscaped]
  | cons c t =>
    have hc : c ≠ ' ' := fun h => ht (by rw [h]; rfl)
    rw [writeEscaped]
    extract_lets _ e _
    split
    · split <;> simp [hc]
    · split
      · rw [List.append_assoc, List.append_assoc, head?_escape_append]
        decide
      · rw [head?_escape_append]
        decide

/-- What is written of a text with escapes is one of the ways to write it. -/
theorem spells_writeEscaped (hw : indent < lineWidth) (start escaped : Bool) (column : Nat) :
    (t : Text) → Spells indent t (writeEscaped indent start escaped column t)
  | [] => .nil
  | c :: t => by
    have hrest (start escaped : Bool) (column : Nat) :
        Spells indent t (writeEscaped indent start escaped column t) :=
      spells_writeEscaped hw start escaped column t
    rw [writeEscaped]
    extract_lets ownGuard e nextGuard
    split
    · next hc =>
      split
      · rw [List.append_assoc]
        by_cases hspace : c = ' '
        · subst hspace
          have hguard : ownGuard = ['\\'] := rfl
          rw [hguard]
          exact .fold (by simp) (.space (hrest _ _ _))
        · have hguard : ownGuard = [] := if_neg hspace
          rw [hguard]
          exact .fold (by simpa using hspace) (.char hc (hrest _ _ _))
      · exact .char hc (hrest _ _ _)
    · split
      · rw [List.append_assoc, List.append_assoc]
        refine .escape c ?_
        -- a space that would begin the next line is written along with the backslash that keeps it
        by_cases hhead : t.head? = some ' '
        · have hguard : nextGuard = ['\\'] := if_pos hhead
          obtain ⟨v, rfl⟩ := List.head?_eq_some_iff.1 hhead
          rw [hguard, List.length_singleton, writeEscaped_space hw]
          exact .fold (by simp) (.space (spells_writeEscaped hw _ _ _ v))
        · have hguard : nextGuard = [] := if_neg hhead
          rw [hguard]
          exact .fold (head?_writeEscaped_ne hhead) (hrest _ _ _)
      · exact .escape c (hrest _ _ _)

end TreeSieve.Yaml
