import TreeSieve.Proofs.Yaml.Entries
import TreeSieve.Proofs.Yaml.Nodes

/-!
# Proofs — Yaml — Layout

Documents of sections: a title, and for each section an empty line, a comment, its name, and its entries
set in by two spaces.

An `Entry` is a part under a name together with the lines that are written for it and the proof that these
are cut into its tokens, whatever lines follow.  Sections are made of entries, and documents of sections.

* `isPrinted_writeScalar`: what is written of a text is made of clear characters and line feeds.
* `read_layout`: **a document of sections has the value of its sections.**
-/

namespace TreeSieve.Yaml

open Lexer

variable {u v : Text} {margin : Nat} {margins : List Nat} {out : List Token}

/-- Lines before what follows. -/
def closed (lines : List Text) (v : Text) : Text := lines.flatMap (· ++ ['\n']) ++ v

theorem closed_cons (line : Text) (lines : List Text) :
    closed (line :: lines) v = line ++ '\n' :: closed lines v := by
  simp [closed]

/-- Lines are closed one after the other. -/
theorem closed_append (lines more : List Text) :
    closed (lines ++ more) v = closed lines (closed more v) := by
  simp [closed]

/-- Lines with an empty one at their end. -/
theorem join_concat_nil (lines : List Text) : Text.join ['\n'] (lines ++ [[]]) = closed lines [] := by
  induction lines with
  | nil => rfl
  | cons line lines ih =>
    obtain ⟨next, rest, hnext⟩ : ∃ next rest, lines ++ [[]] = next :: rest :=
      List.exists_cons_of_ne_nil (by simp)
    rw [closed_cons, List.cons_append, ← ih, hnext, Text.join, List.append_assoc]
    rfl

/-! ### Characters -/

/-- A text of clear characters and line feeds. -/
def IsPrinted (t : Text) : Prop := ∀ c ∈ t, Style.isClear c = true ∨ c = '\n'

theorem isPrinted_nil : IsPrinted [] := fun _ hc => absurd hc List.not_mem_nil

/-- What is printed in two halves is printed. -/
theorem IsPrinted.append (hu : IsPrinted u) (hv : IsPrinted v) : IsPrinted (u ++ v) :=
  fun c hc => (List.mem_append.1 hc).elim (hu c) (hv c)

theorem AreClear.isPrinted (h : AreClear u) : IsPrinted u := fun c hc => .inl (h c hc)

theorem IsWord.areClear (h : IsWord u) : AreClear u := fun c hc => isClear_of_isWordChar (h.isWordChar c hc)

theorem isPrinted_replicate {c : Char} (hc : Style.isClear c = true ∨ c = '\n') (m : Nat) :
    IsPrinted (List.replicate m c) := fun _ hd => (List.eq_of_mem_replicate hd) ▸ hc

theorem isPrinted_newLine (indent : Nat) : IsPrinted (newLine indent) :=
  List.forall_mem_cons.2 ⟨.inr rfl, isPrinted_replicate (.inl (by decide)) indent⟩

/-- An escape is printed, whatever it stands for. -/
theorem isPrinted_escape (c : Char) : IsPrinted (escape c) := by
  have hletters : ∀ l, escapeLetter? c = some l → Style.isClear l = true := by
    intro l hl
    rw [escapeLetter?] at hl
    split at hl <;> cases hl <;> decide
  have hhex (l : Char) (hl : Style.isClear l = true) (width : Nat) :
      IsPrinted ('\\' :: l :: capitalHex width c.toNat) :=
    List.forall_mem_cons.2 ⟨.inl (by decide), List.forall_mem_cons.2 ⟨.inl hl,
      fun d hd => .inl (isClear_of_mem_capitalHex hd)⟩⟩
  rw [escape]
  split
  · next l hl =>
    exact List.forall_mem_cons.2 ⟨.inl (by decide), List.forall_mem_singleton.2 (.inl (hletters l hl))⟩
  · split
    · exact hhex 'x' (by decide) 2
    · split
      · exact hhex 'u' (by decide) 4
      · exact hhex 'U' (by decide) 8

/-- A folded text is printed. -/
theorem Folds.isPrinted {quoted : Bool} {indent : Nat} {t : Text} (h : Folds quoted indent t u) :
    IsPrinted u := by
  induction h with
  | nil => exact isPrinted_nil
  | char hc _ _ _ ih => exact List.forall_mem_cons.2 ⟨.inl hc, ih⟩
  | apostrophe _ _ ih =>
    have hquote : Style.isClear '\'' = true ∨ '\'' = '\n' := .inl (by decide)
    exact List.forall_mem_cons.2 ⟨hquote, List.forall_mem_cons.2 ⟨hquote, ih⟩⟩
  | spaces m _ _ ih => exact (isPrinted_replicate (.inl (by decide)) _).append ih
  | fold _ _ _ ih => exact (isPrinted_newLine indent).append ih
  | feeds m _ _ ih =>
    have hgap : IsPrinted (gap (m + 1) indent _) := (isPrinted_replicate (.inr rfl) _).append
      ((isPrinted_replicate (.inl (by decide)) _).append ih)
    exact List.forall_mem_cons.2 ⟨.inr rfl, hgap⟩

/-- Every spelling of a text is printed. -/
theorem Spells.isPrinted {indent : Nat} {t : Text} (h : Spells indent t u) : IsPrinted u := by
  have hbackslash : Style.isClear '\\' = true ∨ '\\' = '\n' := .inl (by decide)
  induction h with
  | nil => exact isPrinted_nil
  | char hc _ ih =>
    simp only [needsNoEscape, Bool.and_eq_true] at hc
    exact List.forall_mem_cons.2 ⟨.inl hc.1.1, ih⟩
  | escape c _ ih => exact (isPrinted_escape c).append ih
  | space _ ih =>
    exact List.forall_mem_cons.2 ⟨hbackslash, List.forall_mem_cons.2 ⟨.inl (by decide), ih⟩⟩
  | fold _ _ ih => exact List.forall_mem_cons.2 ⟨hbackslash, (isPrinted_newLine indent).append ih⟩

/-- What is written of a text is made of clear characters and line feeds. -/
theorem isPrinted_writeScalar {indent : Nat} (h : indent < lineWidth) (column : Nat) (t : Text) :
    IsPrinted (writeScalar column indent t) := by
  have henclosed {q : Char} (hq : Style.isClear q = true) {u : Text} (hu : IsPrinted u) :
      IsPrinted (q :: u ++ [q]) :=
    IsPrinted.append (List.forall_mem_cons.2 ⟨.inl hq, hu⟩) (List.forall_mem_singleton.2 (.inl hq))
  have hfolded (quoted : Bool) (column : Nat) (ht : Style.needsEscapes t = false) :
      IsPrinted (writeFolded quoted indent none column t) :=
    (folds_writeFolded quoted indent none column t ht (by simp) (by simp)).isPrinted
  rw [writeScalar, Style.ofText]
  by_cases hplain : Style.canBePlain t = true
  · rw [if_pos hplain]
    exact hfolded false column (isPlain_of_canBePlain hplain).1
  · rw [if_neg hplain]
    by_cases hescapes : Style.needsEscapes t = true
    · rw [if_pos hescapes]
      exact henclosed (by decide) (spells_writeEscaped h true false (column + 1) t).isPrinted
    · rw [if_neg hescapes]
      exact henclosed (by decide) (hfolded true (column + 1) (by simpa using hescapes))

/-- A name at the start of a line is no mark between documents. -/
theorem IsWord.not_atSeparator {s : Text} {i n k : Nat} (h : IsWord s) :
    Place.atSeparator ⟨s ++ v, i, n, k⟩ = false := by
  obtain ⟨c, s, rfl⟩ := List.exists_cons_of_ne_nil h.ne_nil
  have hc : Yaml.isWordChar c = true := h.isWordChar c List.mem_cons_self
  have hdash : c ≠ '-' := Text.ne_of_test hc (by decide)
  have hpoint : c ≠ '.' := Text.ne_of_test hc (by decide)
  simp [Place.atSeparator, List.isPrefixOf, Ne.symm hdash, Ne.symm hpoint]

/-! ### Entries -/

/-- A name that can stand before a colon and means itself. -/
structure IsName (name : Text) : Prop where
  isWord : IsWord name
  length_le : name.length ≤ 1024
  tag_eq : scalarTag true name = .str

instance (name : Text) : Decidable (IsName name) :=
  decidable_of_iff (IsWord name ∧ name.length ≤ 1024 ∧ scalarTag true name = .str)
    ⟨fun h => ⟨h.1, h.2.1, h.2.2⟩, fun h => ⟨h.isWord, h.length_le, h.tag_eq⟩⟩

/-- An entry of a section: a part under a name, and the lines that are written for it. -/
structure Entry where
  name : Text
  part : Part
  lines : List Text
  isName : IsName name
  printed : ∀ line ∈ lines, IsPrinted line
  /-- Behind the name and its colon the lines are cut into the tokens of the part. -/
  cut : ∀ {v margins out}, CutLines v 3 margins out → ∃ u,
    closed lines v = List.replicate 2 ' ' ++ (name ++ ':' :: u) ∧ endsWord u.head? = true ∧
      ∀ column, 2 ≤ column → Cut u false column 3 margins (part.tokens ++ out)

/-- The part of an entry under its name. -/
def Entry.named (e : Entry) : Text × Part := (e.name, e.part)

/-- An entry behind another one. -/
theorem Entry.cutLines (e : Entry) (h : CutLines v 3 margins out) :
    CutLines (closed e.lines v) 3 margins (entryTokens e.named ++ out) := by
  obtain ⟨u, hlines, hu, hcut⟩ := e.cut h
  rw [hlines]
  exact ((hcut _ (by omega)).key e.isName.isWord e.isName.length_le hu).line e.isName.isWord.opens
    (.inl (by decide)) (by decide)

/-- Entries behind another one. -/
theorem cutLines_entries (entries : List Entry) (h : CutLines v 3 margins out) :
    CutLines (closed (entries.flatMap Entry.lines) v) 3 margins
      ((entries.map Entry.named).flatMap entryTokens ++ out) := by
  induction entries with
  | nil => exact h
  | cons e entries ih =>
    rw [List.flatMap_cons, closed_append, List.map_cons, List.flatMap_cons, List.append_assoc]
    exact e.cutLines ih

/-! ### Sections -/

/-- A section: entries under a name, and a comment on them. -/
structure Section where
  name : Text
  comment : Text
  entries : List Entry
  isName : IsName name
  areClear : AreClear comment
  ne_nil : entries ≠ []
  nodup : (entries.map Entry.name).Nodup

namespace Section

/-- The lines of a section. -/
def lines (s : Section) : List Text :=
  [] :: ('#' :: s.comment) :: (s.name ++ [':']) :: s.entries.flatMap Entry.lines

/-- The part of a section. -/
def part (s : Section) : Part :=
  Part.mapping (s.entries.map Entry.named)
    (List.forall_mem_map.2 fun e _ => e.isName.tag_eq)
    (by rw [List.map_map]; exact s.nodup)

/-- The part of a section under its name. -/
def named (s : Section) : Text × Part := (s.name, s.part)

variable (s : Section)

theorem printed : ∀ line ∈ s.lines, IsPrinted line := by
  have hname : IsPrinted (s.name ++ [':']) :=
    s.isName.isWord.areClear.isPrinted.append (List.forall_mem_singleton.2 (.inl (by decide)))
  have hcomment : IsPrinted ('#' :: s.comment) :=
    List.forall_mem_cons.2 ⟨.inl (by decide), s.areClear.isPrinted⟩
  refine List.forall_mem_cons.2 ⟨isPrinted_nil, List.forall_mem_cons.2 ⟨hcomment,
    List.forall_mem_cons.2 ⟨hname, fun line hline => ?_⟩⟩⟩
  obtain ⟨e, -, hline⟩ := List.mem_flatMap.1 hline
  exact e.printed line hline

/-- The entries of a section begin a block, which ends where the lines that follow are set in less. -/
theorem cut_entries (h : CutLines v 3 (1 :: margins) (.blockEnd :: out)) (column : Nat) :
    Cut ('\n' :: closed (s.entries.flatMap Entry.lines) v) false column 1 margins
      (s.part.tokens ++ out) := by
  obtain ⟨e, entries, hentries⟩ := List.exists_cons_of_ne_nil s.ne_nil
  obtain ⟨u, hlines, hu, hcut⟩ := e.cut (cutLines_entries entries h)
  have htokens : s.part.tokens ++ out = .blockMappingStart :: (entryTokens e.named ++
      ((entries.map Entry.named).flatMap entryTokens ++ .blockEnd :: out)) := by
    simp [part, Part.mapping, hentries]
  have hopens : Opens (e.name ++ ':' :: u) := e.isName.isWord.opens
  rw [hentries, List.flatMap_cons, closed_append, hlines, htokens]
  exact (((hcut _ (by omega)).startKey e.isName.isWord e.isName.length_le hu
    (by omega)).behind_spaces (m := 2) hopens).behind_feed

/-- A section behind another one, whose block ends. -/
theorem cutLines (h : CutLines v 3 [1, 0] (.blockEnd :: out)) :
    CutLines (closed s.lines v) 3 [1, 0] (.blockEnd :: (entryTokens s.named ++ out)) := by
  have hopens : Opens (s.name ++ ':' :: '\n' :: closed (s.entries.flatMap Entry.lines) v) :=
    s.isName.isWord.opens
  have hkey := (s.cut_entries h _).key s.isName.isWord s.isName.length_le rfl
  have hline := (hkey.endBlock hopens (by omega) (by omega : 0 + 1 < 3)).line hopens
    (.inr s.isName.isWord.not_atSeparator) (by omega)
  rw [lines, closed_cons, closed_cons, closed_cons, List.append_assoc]
  exact (hline.note (.comment s.areClear)).note .empty

end Section

/-- **Sections are cut into the tokens of their entries**, one section after the other. -/
theorem cutLines_sections (sections : List Section) (h : CutLines v 3 [1, 0] (.blockEnd :: out)) :
    CutLines (closed (sections.flatMap Section.lines) v) 3 [1, 0]
      (.blockEnd :: ((sections.map Section.named).flatMap entryTokens ++ out)) := by
  induction sections with
  | nil => exact h
  | cons s sections ih =>
    rw [List.flatMap_cons, closed_append, List.map_cons, List.flatMap_cons, List.append_assoc]
    exact s.cutLines ih

/-! ### Documents -/

/-- A document of sections under a title. -/
def layout (title : Text) (sections : List Section) : Text :=
  closed (('#' :: title) :: sections.flatMap Section.lines) []

variable {title : Text} {s : Section} {sections : List Section}

/-- A whole document is printed. -/
theorem isPrinted_layout (htitle : AreClear title) (sections : List Section) :
    IsPrinted (layout title sections) := by
  have hline : ∀ line ∈ ('#' :: title) :: sections.flatMap Section.lines, IsPrinted line := by
    refine List.forall_mem_cons.2
      ⟨List.forall_mem_cons.2 ⟨.inl (by decide), htitle.isPrinted⟩, fun line hline => ?_⟩
    obtain ⟨s, -, hline⟩ := List.mem_flatMap.1 hline
    exact s.printed line hline
  rw [layout, closed, List.append_nil]
  intro c hc
  obtain ⟨line, hmem, hc⟩ := List.mem_flatMap.1 hc
  exact (hline line hmem).append (List.forall_mem_singleton.2 (.inr rfl)) c hc

/-- A document of sections is cut into the tokens of its sections. -/
theorem cut_layout (htitle : AreClear title) (s : Section) (sections : List Section) :
    Cut (layout title (s :: sections)) true 0 0 []
      (.blockMappingStart :: (((s :: sections).map Section.named).flatMap entryTokens ++
        [.blockEnd, .streamEnd])) := by
  -- behind the last entry its section ends, and then the document
  have hend : CutLines [] 3 [1, 0] (.blockEnd :: [.blockEnd, .streamEnd]) :=
    have hnil : Cut [] true 0 1 [0] [.blockEnd, .streamEnd] := Cut.nil (by omega) (by omega)
    (hnil.endBlock opens_nil (by omega) (by omega)).line opens_nil (.inr rfl) (by omega)
  have hopens : Opens (s.name ++ ':' :: '\n' :: closed (s.entries.flatMap Entry.lines)
      (closed (sections.flatMap Section.lines) [])) := s.isName.isWord.opens
  have hkey := (s.cut_entries (cutLines_sections sections hend) _).startKey
    s.isName.isWord s.isName.length_le rfl (Nat.le_refl 0)
  have hnotes : ∀ note ∈ ['#' :: title, [], '#' :: s.comment], IsNote note := by
    simp only [List.forall_mem_cons]
    exact ⟨.comment htitle, .empty, .comment s.areClear, by simp⟩
  have hcut := hkey.behind_notes hopens hnotes
  have hlayout : layout title (s :: sections) = between ['#' :: title, [], '#' :: s.comment] 0
      (s.name ++ ':' :: '\n' :: closed (s.entries.flatMap Entry.lines)
        (closed (sections.flatMap Section.lines) [])) := by
    rw [layout, List.flatMap_cons, ← List.cons_append, closed_append, Section.lines]
    simp only [closed_cons, between_cons, List.append_assoc]
    rfl
  rw [hlayout]
  simpa only [List.map_cons, List.flatMap_cons, List.append_assoc, List.cons_append, entryTokens,
    Section.named] using hcut

theorem isDocumentChar_of_isClear {c : Char} (hc : Style.isClear c = true ∨ c = '\n') :
    isDocumentChar c = true := by
  rcases hc with hc | rfl
  · rw [Style.isClear_iff] at hc
    simp [isDocumentChar]
    omega
  · rfl

/-- **A document of sections has the value of its sections**, which are a map under their names. -/
theorem read_layout (htitle : AreClear title) (s : Section) (sections : List Section)
    (hnodup : ((s :: sections).map Section.name).Nodup) :
    read (layout title (s :: sections)) =
      .ok (.map (((s :: sections).map Section.named).map entryValues)) := by
  have htag : ∀ e ∈ (s :: sections).map Section.named, scalarTag true e.1 = .str :=
    List.forall_mem_map.2 fun s _ => s.isName.tag_eq
  have hnames : (((s :: sections).map Section.named).map Prod.fst).Nodup := by
    rw [List.map_map]
    exact hnodup
  refine read_mapping htag hnames ?_
  have hchars : (layout title (s :: sections)).all isDocumentChar = true :=
    List.all_eq_true.2 fun c hc => isDocumentChar_of_isClear (isPrinted_layout htitle _ c hc)
  have hhead : (layout title (s :: sections)).head? ≠ some '\uFEFF' := by
    rw [layout, closed_cons, List.cons_append, List.head?_cons]
    decide
  have hcut := cut_layout htitle s sections none 0 0 0 [] _ (Nat.lt_succ_self _)
  simp only [tokens, hchars, Bool.not_true, Bool.false_eq_true, if_false, hhead]
  rw [Part.mapping, List.cons_append, List.append_assoc]
  exact hcut

end TreeSieve.Yaml
