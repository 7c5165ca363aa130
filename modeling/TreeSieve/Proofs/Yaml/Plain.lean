import TreeSieve.Proofs.Yaml.Writing

/-!
# Proofs — Yaml — Plain

Plain scalars read as the texts they were written for.

A plain scalar is read run by run, with the blanks between the runs; it ends where the next line is not
set in far enough, or where a colon ends a key.

* `Folds.scanPlainText`: a text that can stand alone reads as itself in each way to write it, up to the
  line feed behind it.
* `scanPlainText_key`: the name of a key reads as itself, up to the colon behind it.
-/

namespace TreeSieve.Yaml

variable {c : Char} {s t u v rest : Text} {i n k m margin indent fuel feeds inset : Nat}

/-! ### Texts that can stand alone -/

/-- A text that can go on a plain scalar: it has no line feeds, does not end in a space, and holds
neither the end of a key nor the start of a comment. -/
structure GoesPlain (t : Text) : Prop where
  noFeed : '\n' ∉ t
  noSpaceLast : t.getLast? ≠ some ' '
  noMark : Style.holdsMark t = false

namespace GoesPlain

theorem of_append (h : GoesPlain (s ++ t)) : GoesPlain t := by
  have hlast (d : Char) (hd : t.getLast? = some d) : (s ++ t).getLast? = some d := by
    rw [List.getLast?_append, hd, Option.some_or]
  obtain ⟨hfeed, hspace, hmark⟩ := h
  rw [Style.holdsMark, Bool.or_eq_false_iff, decide_eq_false_iff_not] at hmark
  refine ⟨fun hmem => hfeed (List.mem_append_right _ hmem), fun hd => hspace (hlast _ hd), ?_⟩
  rw [Style.holdsMark, Bool.or_eq_false_iff, decide_eq_false_iff_not]
  exact ⟨Style.someNeighbours_append hmark.1, fun hd => hmark.2 (hlast _ hd)⟩

theorem of_cons (h : GoesPlain (c :: t)) : GoesPlain t := of_append (s := [c]) h

/-- Behind a colon neither a space nor the end follows. -/
theorem behind_colon (h : GoesPlain (':' :: t)) : t ≠ [] ∧ t.head? ≠ some ' ' := by
  have hmark := h.noMark
  rw [Style.holdsMark, Bool.or_eq_false_iff] at hmark
  constructor
  · rintro rfl
    simp at hmark
  · intro hd
    obtain ⟨v, rfl⟩ := List.head?_eq_some_iff.1 hd
    exact absurd (Style.not_of_someNeighbours (s := []) hmark.1) (by decide)

/-- Behind a run of spaces neither a comment nor the end follows. -/
theorem behind_spaces (h : GoesPlain (List.replicate (m + 1) ' ' ++ t)) :
    t ≠ [] ∧ t.head? ≠ some '#' := by
  rw [List.replicate_succ', List.append_assoc] at h
  constructor
  · rintro rfl
    exact h.of_append.noSpaceLast rfl
  · intro hd
    obtain ⟨v, rfl⟩ := List.head?_eq_some_iff.1 hd
    have hmark := h.noMark
    rw [Style.holdsMark, Bool.or_eq_false_iff] at hmark
    exact absurd (Style.not_of_someNeighbours hmark.1) (by decide)

theorem startsRun (h : GoesPlain t) (ht : t.head? ≠ some ' ') : StartsRun t :=
  ⟨ht, fun hd => h.noFeed (List.mem_of_mem_head? hd)⟩

end GoesPlain

/-! ### Reading on -/

/-- What is read behind a run of a plain scalar. -/
def goOn (margin fuel : Nat) (p : Place) : Text × Bool × Place :=
  let (blanks, ended, q) := scanPlainBlanks p
  if blanks.isEmpty || q.next? = some '#' || q.column < margin then ([], ended, q)
  else scanPlainText false margin fuel blanks ended q

theorem scanPlainText_succ {before : Text} {newLine : Bool} {p : Place} (hhash : p.next? ≠ some '#')
    (hrun : plainRun false p.rest ≠ []) :
    scanPlainText false margin (fuel + 1) before newLine p =
      (before ++ plainRun false p.rest ++ (goOn margin fuel (p.skip (plainRun false p.rest).length)).1,
        (goOn margin fuel (p.skip (plainRun false p.rest).length)).2) := by
  rw [scanPlainText, if_neg hhash]
  simp only [List.isEmpty_iff, hrun, if_false, goOn, Bool.not_false, Bool.true_and]
  split <;> simp

/-- The scalar goes on behind blanks if what follows them is set in far enough and is no comment. -/
theorem goOn_of_blanks {p q : Place} {blanks : Text} {ended : Bool}
    (h : scanPlainBlanks p = (blanks, ended, q)) (hne : blanks ≠ []) (hhash : q.next? ≠ some '#')
    (hcolumn : margin ≤ q.column) :
    goOn margin fuel p = scanPlainText false margin fuel blanks ended q := by
  rw [goOn, h]
  simp [hne, hhash, Nat.not_lt.2 hcolumn]

theorem scanPlainBlanks_spaces (hu : Starts u) (m : Nat) :
    scanPlainBlanks ⟨List.replicate m ' ' ++ u, i, n, k⟩ =
      (List.replicate m ' ', false, ⟨u, i + m, n, k + m⟩) := by
  rw [scanPlainBlanks, span_spaces rfl fun c hc => by simpa using hu.head_ne c hc]
  simp only [Place.lineBreak?_starts hu]

theorem scanPlainBlanks_gap (hu : Starts u)
    (hmark : 0 < inset ∨ Place.atSeparator ⟨u, 0, 0, 0⟩ = false) :
    scanPlainBlanks ⟨'\n' :: gap feeds inset u, i, n, k⟩ =
      (foldBreaks '\n' (List.replicate feeds '\n'), true,
        ⟨u, i + 1 + feeds + inset, n + 1 + feeds, inset⟩) := by
  have hspan : Place.span ⟨'\n' :: gap feeds inset u, i, n, k⟩ (fun c => decide (c = ' ')) =
      ([], ⟨'\n' :: gap feeds inset u, i, n, k⟩) := rfl
  have hline : Place.atSeparator ⟨gap feeds inset u, i + 1, n + 1, 0⟩ = false :=
    atSeparator_gap_of_not hmark
  rw [scanPlainBlanks, hspan]
  simp only [Place.lineBreak?_feed, hline, Bool.false_eq_true, if_false]
  rw [scanPlainBreaks_gap hu hmark (by rw [length_gap]; omega)]

/-- The scalar ends where the next line is not set in far enough. -/
theorem goOn_gap (hu : Starts u) (hmark : 0 < inset ∨ Place.atSeparator ⟨u, 0, 0, 0⟩ = false)
    (hinset : inset < margin) :
    goOn margin fuel ⟨'\n' :: gap feeds inset u, i, n, k⟩ =
      ([], true, ⟨u, i + 1 + feeds + inset, n + 1 + feeds, inset⟩) := by
  rw [goOn, scanPlainBlanks_gap hu hmark]
  simp [hinset]

/-! ### Scalars -/

/-- A run of a plain scalar goes on with a clear character. -/
theorem plainRun_cons (hc : Style.isClear c = true) (hspace : c ≠ ' ')
    (hcolon : c = ':' → Starts u ∧ u ≠ []) : plainRun false (c :: u) = c :: plainRun false u := by
  have hends : endsWord (some c) = false :=
    starts_cons.1 (starts_cons_of_isClear (u := []) hc hspace)
  rw [plainRun, if_neg]
  simp only [endsPlain, hends, Bool.false_and, Bool.or_false, Bool.false_or, Bool.and_eq_true,
    decide_eq_true_eq, not_and, Bool.not_eq_true]
  intro hc
  obtain ⟨hstarts, hne⟩ := hcolon hc
  obtain ⟨d, v, rfl⟩ := List.exists_cons_of_ne_nil hne
  exact hstarts d rfl

/-- What is left of a plain scalar reads as a text that goes it on: first the rest of the run begun, and
behind it what the reading goes on with, up to `rest` on a later line. -/
def Goes (margin inset : Nat) (rest u t : Text) : Prop :=
  ∃ w v s, u = w ++ v ∧ t = w ++ s ∧ AreClear w ∧ (t ≠ [] → t.head? ≠ some ' ' → w ≠ []) ∧
    plainRun false u = w ∧
    ∀ i n k fuel, margin ≤ k → v.length < fuel → ∃ i' n', n < n' ∧
      goOn margin fuel ⟨v, i, n, k⟩ = (s, true, ⟨rest, i', n', inset⟩)

theorem Goes.head? (h : Goes margin inset rest u t) (hne : t ≠ []) (hspace : t.head? ≠ some ' ') :
    u.head? = t.head? := by
  obtain ⟨w, v, s, rfl, rfl, -, hw, -⟩ := h
  obtain ⟨c, w, rfl⟩ := List.exists_cons_of_ne_nil (hw hne hspace)
  rfl

/-- A text that begins a run is read as a scalar. -/
theorem Goes.scan (h : Goes margin inset rest u t) (hne : t ≠ []) (hspace : t.head? ≠ some ' ')
    (hhash : t.head? ≠ some '#') (before : Text) (newLine : Bool) (hk : margin ≤ k)
    (hfuel : u.length < fuel) : ∃ i' n', n < n' ∧
      scanPlainText false margin fuel before newLine ⟨u, i, n, k⟩ =
        (before ++ t, true, ⟨rest, i', n', inset⟩) := by
  have hhead := h.head? hne hspace
  obtain ⟨w, v, s, rfl, rfl, hclear, hw, hrun, hread⟩ := h
  have hw := hw hne hspace
  have hlen : 0 < w.length := List.length_pos_iff.2 hw
  obtain ⟨fuel, rfl⟩ : ∃ m, fuel = m + 1 := ⟨fuel - 1, by omega⟩
  obtain ⟨i', n', hn, hread⟩ := hread (i + w.length) n (k + w.length) fuel (by omega)
    (by rw [List.length_append] at hfuel; omega)
  refine ⟨i', n', hn, ?_⟩
  rw [scanPlainText_succ (by rw [Place.next?, hhead]; exact hhash) (by rw [hrun]; exact hw)]
  simp only [hrun, Place.skip_clear hclear, hread, List.append_assoc]

/-- Where no run begins, a text is read behind blanks. -/
theorem Goes.of_blanks {v : Text} (blanks : Text) (h : Goes margin inset rest u t) (hne : t ≠ [])
    (hspace : t.head? ≠ some ' ') (hhash : t.head? ≠ some '#') (hblanks : blanks.head? = some ' ')
    (hrun : plainRun false v = []) (hlen : u.length ≤ v.length)
    (hscan : ∀ i n k, margin ≤ k → ∃ ended i' n' k', n ≤ n' ∧ margin ≤ k' ∧
      scanPlainBlanks ⟨v, i, n, k⟩ = (blanks, ended, ⟨u, i', n', k'⟩)) :
    Goes margin inset rest v (blanks ++ t) := by
  have hblanks' : blanks ≠ [] := by
    rintro rfl
    cases hblanks
  refine ⟨[], v, blanks ++ t, rfl, rfl, fun _ h => absurd h List.not_mem_nil, fun _ h => ?_, hrun,
    fun i n k fuel hk hfuel => ?_⟩
  · rw [List.head?_append, hblanks] at h
    exact absurd rfl h
  · obtain ⟨ended, i₁, n₁, k₁, hn₁, hk₁, hblank⟩ := hscan i n k hk
    obtain ⟨i', n', hn, hread⟩ :=
      h.scan hne hspace hhash blanks ended (i := i₁) (n := n₁) hk₁ (by omega : u.length < fuel)
    refine ⟨i', n', by omega, ?_⟩
    rw [goOn_of_blanks hblank hblanks' (by rw [Place.next?, h.head? hne hspace]; exact hhash) hk₁,
      hread]

/-- A text that goes on a plain scalar is read in each way to write it. -/
theorem Folds.goes (h : Folds false indent t u) (ht : GoesPlain t) (hindent : margin ≤ indent)
    (hpos : 0 < indent) (hrest : Starts rest)
    (hmark : 0 < inset ∨ Place.atSeparator ⟨rest, 0, 0, 0⟩ = false) (hinset : inset < margin) :
    Goes margin inset rest (u ++ '\n' :: gap feeds inset rest) t := by
  -- a character goes to the run of what stands behind it, and blanks end a run that is empty so far
  induction h with
  | nil =>
    exact ⟨[], '\n' :: gap feeds inset rest, [], rfl, rfl, fun _ h => absurd h List.not_mem_nil,
      fun h => absurd rfl h, rfl, fun i n k fuel _ _ =>
      ⟨i + 1 + feeds + inset, n + 1 + feeds, by omega, goOn_gap hrest hmark hinset⟩⟩
  | @char c t u hc hspace hquote h ih =>
    obtain ⟨w, v, s, hu, rfl, hw, -, hrun, hread⟩ := ih ht.of_cons
    refine ⟨c :: w, v, s, by rw [List.cons_append, hu, List.cons_append], rfl,
      List.forall_mem_cons.2 ⟨hc, hw⟩, fun _ _ => List.cons_ne_nil _ _, ?_, hread⟩
    rw [List.cons_append, plainRun_cons hc hspace, hrun]
    rintro rfl
    obtain ⟨hne, hhead⟩ := ht.behind_colon
    exact ⟨h.starts (ht.of_cons.startsRun hhead) fun h => absurd h hne, by simp⟩
  | apostrophe hquoted => cases hquoted
  | @spaces m t u hstarts h ih =>
    obtain ⟨hne, hhash⟩ := ht.behind_spaces
    rw [List.append_assoc]
    refine (ih ht.of_append).of_blanks _ hne hstarts.1 hhash rfl rfl (by simp) fun i n k hk =>
      ⟨false, i + (m + 1), n, k + (m + 1), Nat.le_refl n, by omega, ?_⟩
    exact scanPlainBlanks_spaces (h.starts hstarts fun h => absurd h hne) (m + 1)
  | @fold t u hne hstarts h ih =>
    obtain ⟨-, hhash⟩ := GoesPlain.behind_spaces (m := 0) ht
    have hwritten : newLine indent ++ u ++ '\n' :: gap feeds inset rest =
        '\n' :: gap 0 indent (u ++ '\n' :: gap feeds inset rest) := by
      rw [newLine, List.cons_append, List.cons_append, List.append_assoc]
      rfl
    rw [hwritten]
    refine (ih ht.of_cons).of_blanks [' '] hne hstarts.1 hhash rfl rfl
      (by rw [List.length_cons, length_gap]; omega) fun i n k hk =>
      ⟨true, i + 1 + 0 + indent, n + 1 + 0, indent, by omega, hindent, ?_⟩
    exact scanPlainBlanks_gap (h.starts hstarts fun h => absurd h hne) (.inl hpos)
  | feeds m hstarts h => exact absurd List.mem_cons_self ht.noFeed

/-- A text that can begin a plain scalar and go on with it. -/
structure IsPlain (t : Text) : Prop extends GoesPlain t where
  ne_nil : t ≠ []
  noSpaceFirst : t.head? ≠ some ' '
  noHash : t.head? ≠ some '#'

/-- A plain scalar reads as its text in each way to write it. -/
theorem Folds.scanPlainText (h : Folds false indent t u) (feeds : Nat) (ht : IsPlain t)
    (hindent : margin ≤ indent) (hpos : 0 < indent) (hrest : Starts rest)
    (hmark : 0 < inset ∨ Place.atSeparator ⟨rest, 0, 0, 0⟩ = false) (hinset : inset < margin)
    (hk : margin ≤ k) (hfuel : (u ++ '\n' :: gap feeds inset rest).length < fuel) :
    ∃ i' n', n < n' ∧
      scanPlainText false margin fuel [] false ⟨u ++ '\n' :: gap feeds inset rest, i, n, k⟩ =
        (t, true, ⟨rest, i', n', inset⟩) :=
  (h.goes ht.toGoesPlain hindent hpos hrest hmark hinset).scan ht.ne_nil ht.noSpaceFirst ht.noHash []
    false hk hfuel

/-! ### Keys -/

/-- The name of a key reads as itself, up to the colon behind it. -/
theorem scanPlainText_key (hs : AreClear s) (hspace : ' ' ∉ s) (hcolon : ':' ∉ s) (hne : s ≠ [])
    (hhash : s.head? ≠ some '#') (hv : endsWord v.head? = true) :
    scanPlainText false margin (fuel + 1) [] false ⟨s ++ ':' :: v, i, n, k⟩ =
      (s, false, ⟨':' :: v, i + s.length, n, k + s.length⟩) := by
  have hrun : plainRun false (s ++ ':' :: v) = s := by
    clear hne hhash
    induction s with
    | nil => simp [plainRun, endsPlain, hv]
    | cons c s ih =>
      obtain ⟨hc, hs⟩ := List.forall_mem_cons.1 hs
      obtain ⟨hcs, hspace⟩ := List.ne_and_not_mem_of_not_mem_cons hspace
      obtain ⟨hcc, hcolon⟩ := List.ne_and_not_mem_of_not_mem_cons hcolon
      rw [List.cons_append, plainRun_cons hc hcs.symm fun h => absurd h.symm hcc, ih hs hspace hcolon]
  have hend : goOn margin fuel ⟨':' :: v, i + s.length, n, k + s.length⟩ =
      ([], false, ⟨':' :: v, i + s.length, n, k + s.length⟩) := rfl
  have hhead : Place.next? ⟨s ++ ':' :: v, i, n, k⟩ ≠ some '#' := by
    obtain ⟨c, s, rfl⟩ := List.exists_cons_of_ne_nil hne
    exact hhash
  rw [scanPlainText_succ hhead (by rw [hrun]; exact hne)]
  simp only [hrun, Place.skip_clear hs, hend, List.nil_append, List.append_nil]

end TreeSieve.Yaml
