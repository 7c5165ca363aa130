import TreeSieve.Proofs.Glob.Sets

/-!
# Proofs — Glob — Steps

How patterns for paths with sets are read.

A set with something between its brackets ends at its own closing bracket.  An empty one takes that
bracket for its first member and goes on up to the closing bracket of the next set or wildcard, so that
the text between becomes part of it; when no such bracket follows, the pattern is refused (`steps`).

* `readsTo_steps`: the pieces of a pattern are read as the steps that `steps` gives, and the pattern is
  refused when it gives none.
* `read_name_iff`: the expression of a name alone.
* `read_regex_iff`: the expression of a whole pattern.
-/

namespace TreeSieve.Glob

open Regex (ReadsAs Node SetItem Calm)

/-! ### Pieces -/

theorem marksText_append (ms ms' : List Mark) :
    marksText (ms ++ ms') = marksText ms ++ marksText ms' := List.flatMap_append

/-- A piece of a regular expression, as patterns write them. -/
inductive Piece where
  | char (c : Char)
  | set (negated : Bool) (marks : List Mark) (starred : Bool)
  /-- Any number of names, with a slash behind each. -/
  | folders
  /-- The rest of the path. -/
  | rest
  deriving DecidableEq, Repr

/-- The star behind a set, if it has one. -/
def star (starred : Bool) : Text := if starred then ['*'] else []

namespace Piece

/-- How a piece is written. -/
def text : Piece → Text
  | char c => escape c
  | set negated marks starred => '[' :: (marksText (caret negated ++ marks) ++ ']' :: star starred)
  | folders => "(?:[^/]+/)*".toList
  | rest => ".*".toList

/-- The marks of a set leave it open, none is taken for the mark of negation, and no star stands
behind a set without marks. -/
def IsWritten : Piece → Prop
  | set negated marks starred =>
    (∀ m ∈ marks, m.IsInner) ∧ (negated = false → marks.head? ≠ some (.bare '^')) ∧
      (marks = [] → starred = false)
  | _ => True

end Piece

/-- A part of the pattern of a name, as it is written. -/
def Part.piece : Part → Piece
  | anyRun => .set true [.bare '/'] true
  | anyOne => .set true [.bare '/'] false
  | oneOf negated body => .set negated (body.map Mark.ofBody) false
  | char c => .char c

/-- The pieces of segments. -/
def segmentPieces : List Segment → List Piece
  | [] => []
  | [.anyDepth] => [.rest]
  | [.name ps] => ps.map Part.piece
  | .anyDepth :: rest => .folders :: segmentPieces rest
  | .name ps :: rest => ps.map Part.piece ++ .char '/' :: segmentPieces rest

theorem text_set (negated : Bool) (ms : List Mark) (starred : Bool) :
    (Piece.set negated ms starred).text =
      '[' :: (marksText (caret negated ++ ms) ++ ']' :: star starred) := rfl

/-- Only a backslash is escaped in a set. -/
theorem text_ofBody (c : Char) :
    (Mark.ofBody c).text = if c = '\\' then ['\\', '\\'] else [c] := by
  unfold Mark.ofBody
  split
  · next h => rw [h]; rfl
  · rfl

theorem text_ofName (c : Char) : (Mark.ofName c).text = escape c := by
  unfold Mark.ofName escape
  split <;> rfl

/-- The piece of a part is written as its expression. -/
theorem text_piece (p : Part) : p.piece.text = p.regex := by
  cases p with
  | anyRun | anyOne | char => rfl
  | oneOf negated body =>
    have hbody : marksText (body.map Mark.ofBody) =
        body.flatMap fun c => if c = '\\' then ['\\', '\\'] else [c] := by
      simp only [marksText, List.flatMap_map, text_ofBody]
    have hcaret : marksText (caret negated) = if negated then ['^'] else [] := by
      cases negated <;> rfl
    change '[' :: (marksText (caret negated ++ body.map Mark.ofBody) ++ [']']) = '[' :: _ ++ _ ++ _
    rw [marksText_append, hcaret, hbody, List.cons_append, List.cons_append]

theorem text_pieces (ps : List Part) :
    (ps.map Part.piece).flatMap Piece.text = ps.flatMap Part.regex := by
  simp only [List.flatMap_map, text_piece]

/-- The pieces of segments are written as their expression. -/
theorem text_segmentPieces (segments : List Segment) :
    (segmentPieces segments).flatMap Piece.text = segmentsRegex segments := by
  fun_induction segmentPieces segments with
  | case1 | case2 => rfl
  | case3 ps => exact text_pieces ps
  | case4 rest hne ih =>
    rw [List.flatMap_cons, ih, segmentsRegex]
    · rfl
    · exact hne
  | case5 ps rest hne ih =>
    rw [List.flatMap_append, List.flatMap_cons, ih, text_pieces, segmentsRegex]
    · rfl
    · exact hne

/-- A set of a pattern holds no closing bracket, and its mark of negation is told apart. -/
theorem isWritten_of_closedSet? {t rest : Text} {p : Part} (h : closedSet? t = some (p, rest)) :
    p.piece.IsWritten := by
  obtain ⟨⟨body, r⟩, hcut, heq⟩ := Option.map_eq_some_iff.mp h
  cases heq
  obtain ⟨heq, hbody⟩ := Text.cut?_eq_some hcut
  refine ⟨fun m hm => ?_, fun hnegated hhead => ?_, fun _ => rfl⟩
  · obtain ⟨c, hc, rfl⟩ := List.mem_map.mp hm
    exact isInner_ofBody fun h => hbody (h ▸ hc)
  · cases body with
    | nil => cases hhead
    | cons c body =>
      have hc : c = '^' := by
        have hmark : Mark.ofBody c = .bare '^' := Option.some.inj hhead
        unfold Mark.ofBody at hmark
        split at hmark
        · cases hmark
        · exact Mark.bare.inj hmark
      subst hc
      split at heq
      · cases hnegated
      · cases hnegated
      · next h => exact h _ heq

theorem isInner_slash : ∀ m ∈ [Mark.bare '/'], m.IsInner := by
  intro m hm
  obtain rfl := List.mem_singleton.mp hm
  exact ⟨show '/' ≠ '\\' by decide, by decide⟩

/-- The parts of a name are pieces that can be written. -/
theorem isWritten_of_mem_parts {t : Text} {p : Part} (h : p ∈ parts t) : p.piece.IsWritten := by
  fun_induction parts t with
  | case1 => exact absurd h List.not_mem_nil
  | case2 cs ih | case3 cs _ ih =>
    rcases List.mem_cons.mp h with rfl | h
    · exact ⟨isInner_slash, nofun, nofun⟩
    · exact ih h
  | case4 cs set rest hset _ _ ih =>
    rcases List.mem_cons.mp h with rfl | h
    · exact isWritten_of_closedSet? hset
    · exact ih h
  | case5 cs _ _ _ ih | case6 c cs _ _ _ ih =>
    rcases List.mem_cons.mp h with rfl | h
    · trivial
    · exact ih h

/-! ### Steps -/

/-- The characters that are members of a set, or all others. -/
structure CharSet where
  negated : Bool
  items : List SetItem
  /-- Whether any number of them is taken, and not one. -/
  starred : Bool
  deriving DecidableEq, Repr

/-- The part of a regular expression for a set. -/
def CharSet.part (s : CharSet) : Regex.Part :=
  if s.starred then .repeated (.rounds 0 none .greedy (Regex.setNode s.negated s.items))
  else .other (Regex.setNode s.negated s.items)

/-- What a regular expression takes at one of its pieces, or at several that became one set. -/
inductive Step where
  | oneOf (s : CharSet)
  | folders
  | rest
  deriving DecidableEq, Repr

/-- The part of a regular expression for a step. -/
def Step.part : Step → Regex.Part
  | oneOf s => s.part
  | folders => anyFolders
  | rest => anyRest

/-- The step of a set with these marks, and the steps behind it. -/
def closed (negated : Bool) (marks : List Mark) (starred : Bool) (behind : Option (List Step)) :
    Option (List Step) :=
  (members marks).bind fun items => behind.map (.oneOf ⟨negated, items, starred⟩ :: ·)

/-- The steps of pieces that stand behind an open set, given with its marks, or behind none. There are
none when a set is left open or its members are no set, or when it would end between two brackets. -/
def steps : (opened : Option (Bool × List Mark)) → List Piece → Option (List Step)
  | none, [] => some []
  | none, .char c :: ps => (steps none ps).map (.oneOf ⟨false, [.one c.toNat], false⟩ :: ·)
  | none, .folders :: ps => (steps none ps).map (.folders :: ·)
  | none, .rest :: ps => (steps none ps).map (.rest :: ·)
  | none, .set negated [] _ :: ps => steps (some (negated, [.bare ']'])) ps
  | none, .set negated (m :: ms) starred :: ps => closed negated (m :: ms) starred (steps none ps)
  | some _, [] => none
  | some (negated, ms), .char c :: ps => steps (some (negated, ms ++ [.ofName c])) ps
  | some _, .folders :: _ => none
  | some (negated, ms), .rest :: ps => steps (some (negated, ms ++ [.bare '.', .bare '*'])) ps
  | some (negated, ms), .set negated' ms' starred :: ps =>
    closed negated (ms ++ .bare '[' :: (caret negated' ++ ms')) starred (steps none ps)

/-- The text of an open set up to a place between its brackets. -/
def openText : Option (Bool × List Mark) → Text
  | none => []
  | some (negated, ms) => '[' :: marksText (caret negated ++ ms)

/-! ### Refusals -/

/-- No pattern that goes on with this text is accepted: its reading fails, or ends at a closing bracket
that has no partner. -/
def Refused (t : Text) : Prop :=
  ∀ n first parts g, ∃ r,
    (∀ fuel, t.length < fuel → Regex.readSequence n fuel first false parts g t = r) ∧
      ∀ x, r = .ok x → x.2.2.head? = some ')'

section

variable {t u rest tail : Text} {ms : List Mark} {negated starred : Bool} {items : List SetItem}
  {node : Node} {rs : List Regex.Part} {s : Step} {r : Option (List Step)}

/-- What is refused is refused behind anything that can be read. -/
theorem Refused.behind (h : Refused t) (hcalm : Calm t) (hu : ReadsAs u rs) : Refused (u ++ t) := by
  intro n first parts g
  obtain ⟨r, hr, hend⟩ := h n first (rs.reverse ++ parts) g
  exact ⟨r, hu.read hcalm hr, hend⟩

/-- **A refused text is no pattern.** -/
theorem Refused.read_ne (h : Refused t) (pattern : Regex.Pattern) :
    Regex.read {} t ≠ .ok pattern := by
  obtain ⟨r, hr, hend⟩ := h t.length true [] {}
  have hseq := hr (3 * t.length + 4) (by omega)
  cases r with
  | error e =>
    have halts : Regex.readAlternatives t.length (3 * t.length + 5) true false [] {} t =
        .error e := by
      rw [Regex.readAlternatives, Bool.true_and, List.isEmpty_nil, hseq]
      rfl
    rw [Regex.read, halts]
    intro hok
    cases hok
  | ok x =>
    obtain ⟨node, g, rest⟩ := x
    obtain ⟨rest, rfl⟩ := List.head?_eq_some_iff.mp (hend _ rfl)
    have halts : Regex.readAlternatives t.length (3 * t.length + 5) true false [] {} t =
        .ok (node, g, ')' :: rest) := by
      rw [Regex.readAlternatives, Bool.true_and, List.isEmpty_nil, hseq]
      rfl
    rw [Regex.read, halts]
    simp only [bind, Except.bind, List.isEmpty_cons, Bool.not_false, if_true]
    intro hok
    split at hok <;> cases hok

/-! ### Sets -/

/-- A bracket in a sequence is read as a set first. -/
theorem readSequence_set (n fuel : Nat) (first : Bool) (parts : List Regex.Part) (g : Regex.Groups)
    (rest : Text) :
    Regex.readSequence n (fuel + 1) first false parts g ('[' :: rest) =
      (Regex.readSetNode n rest).bind fun x =>
        Regex.readSequence n fuel first false (.other x.1 :: parts) g x.2 := rfl

/-- A set that cannot be read is refused wherever it stands. -/
theorem refused_set (h : ∀ n x, Regex.readSetNode n rest ≠ .ok x) : Refused ('[' :: rest) := by
  intro n first parts g
  cases hset : Regex.readSetNode n rest with
  | ok x => exact absurd hset (h n x)
  | error e =>
    refine ⟨.error e, fun fuel hfuel => ?_, nofun⟩
    obtain ⟨fuel, rfl⟩ : ∃ k, fuel = k + 1 := ⟨fuel - 1, by omega⟩
    rw [readSequence_set, hset]
    rfl

/-- A set whose members are no set. -/
theorem refused_members (h : Fill negated ms) (hitems : members ms = none) (rest : Text) :
    Refused ('[' :: (marksText (caret negated ++ ms) ++ ']' :: rest)) := by
  refine refused_set fun n x hx => ?_
  obtain ⟨items, -, hms, -⟩ := (readSetNode_marks h (by rintro _ ⟨⟩; rfl)).mp hx
  rw [hitems] at hms
  cases hms

/-- A set that is never closed. -/
theorem refused_open (h : Fill negated ms) : Refused ('[' :: marksText (caret negated ++ ms)) := by
  refine refused_set fun n x hx => ?_
  rw [← List.append_nil (marksText _)] at hx
  obtain ⟨items, r, -, hr, -⟩ := (readSetNode_marks h (by simp)).mp hx
  cases hr

/-- A filled set is read as its members. -/
theorem readsAs_set (h : Fill negated ms) (hitems : members ms = some items) :
    ReadsAs ('[' :: (marksText (caret negated ++ ms) ++ [']']))
      [.other (Regex.setNode negated items)] := by
  refine .of_steps 1 0 (by simp) (by simp) (fun _ => rfl) fun n m first parts g rest => ?_
  have hset : Regex.readSetNode n (marksText (caret negated ++ ms) ++ ']' :: rest) =
      .ok (Regex.setNode negated items, rest) :=
    (readSetNode_marks h (by rintro _ ⟨⟩; rfl)).mpr ⟨items, rest, hitems, rfl, rfl⟩
  rw [List.cons_append, List.append_assoc, List.singleton_append, readSequence_set, hset]
  rfl

theorem readsAs_oneOf (h : Fill negated ms) (hitems : members ms = some items) (starred : Bool) :
    ReadsAs ('[' :: (marksText (caret negated ++ ms) ++ ']' :: star starred))
      [(Step.oneOf ⟨negated, items, starred⟩).part] := by
  have hset := readsAs_set h hitems
  cases starred with
  | false => exact hset
  | true =>
    have hstar := hset.star
    rw [List.cons_append, List.append_assoc] at hstar
    exact hstar

/-! ### Pieces as steps -/

/-- How a text with `tail` behind it is read: as steps, or not at all. -/
def ReadsTo (t tail : Text) : Option (List Step) → Prop
  | some ss => ReadsAs t (ss.map Step.part)
  | none => Refused (t ++ tail)

/-- A step that is read in front is the first step. -/
theorem ReadsTo.cons (hs : ReadsAs u [s.part]) (hcalm : Calm (t ++ tail)) (h : ReadsTo t tail r) :
    ReadsTo (u ++ t) tail (r.map (s :: ·)) := by
  cases r with
  | some ss => exact hs.append h
  | none =>
    change Refused (u ++ t ++ tail)
    rw [List.append_assoc]
    exact h.behind hcalm hs

/-- A closed set is the first step, unless its members cannot be read. -/
theorem ReadsTo.closed (h : Fill negated ms) (starred : Bool) (hcalm : Calm (t ++ tail))
    (ht : ReadsTo t tail r) :
    ReadsTo ('[' :: (marksText (caret negated ++ ms) ++ ']' :: star starred) ++ t) tail
      (closed negated ms starred r) := by
  unfold Glob.closed
  cases hitems : members ms with
  | some items => exact ht.cons (readsAs_oneOf h hitems starred) hcalm
  | none =>
    have hrefused := refused_members h hitems (star starred ++ t ++ tail)
    simpa [ReadsTo] using hrefused

/-- A set goes on with what may stand inside. -/
theorem Fill.append (h : Fill negated ms) {ms' : List Mark} (h' : ∀ m ∈ ms', m.IsInner) :
    Fill negated (ms ++ ms') := by
  obtain ⟨m, ms, rfl⟩ := List.exists_cons_of_ne_nil h.ne_nil
  refine ⟨List.cons_ne_nil _ _, h.head, fun m' hm' => ?_⟩
  exact (List.mem_append.mp hm').elim (h.tail m') (h' m')

/-- A set without marks takes its closing bracket for a member. -/
theorem fill_bracket (negated : Bool) : Fill negated [.bare ']'] where
  ne_nil := List.cons_ne_nil _ _
  head := by
    rintro _ ⟨⟩
    exact ⟨show ']' ≠ '\\' by decide, fun _ => by decide⟩
  tail := fun _ hm => nomatch hm

theorem fill_of_isWritten {starred : Bool} {m : Mark}
    (h : (Piece.set negated (m :: ms) starred).IsWritten) : Fill negated (m :: ms) where
  ne_nil := List.cons_ne_nil _ _
  head := by
    rintro _ ⟨⟩
    exact ⟨(h.1 m List.mem_cons_self).1, fun hn he => h.2.1 hn (congrArg some he)⟩
  tail := fun m' hm' => h.1 m' (List.mem_cons_of_mem m hm')

theorem isInner_bare {c : Char} (hslash : c ≠ '\\') (hbracket : c ≠ ']') : (Mark.bare c).IsInner :=
  ⟨hslash, fun h => hbracket (Mark.bare.inj h)⟩

theorem isInner_of_mem_caret {m : Mark} (h : m ∈ caret negated) : m.IsInner := by
  cases negated with
  | false => exact absurd h List.not_mem_nil
  | true =>
    obtain rfl := List.mem_singleton.mp h
    exact isInner_bare (by decide) (by decide)

/-- A text that neither closes a set nor has a backslash goes into an open set as it stands. -/
theorem exists_marksText (hslash : '\\' ∉ t) (hbracket : ']' ∉ t) :
    ∃ ms, marksText ms = t ∧ ∀ m ∈ ms, m.IsInner := by
  refine ⟨t.map .bare, ?_, fun m hm => ?_⟩
  · rw [marksText, List.flatMap_map]
    exact List.flatMap_singleton' t
  · obtain ⟨c, hc, rfl⟩ := List.mem_map.mp hm
    exact isInner_bare (fun h => hslash (h ▸ hc)) fun h => hbracket (h ▸ hc)

/-- An open set ends inside the text for any number of names, between its two brackets. -/
theorem refused_folders (h : Fill negated ms) (rest : Text) :
    Refused ('[' :: marksText (caret negated ++ ms) ++ ("(?:[^/]+/)*".toList ++ rest)) := by
  obtain ⟨ms', htext, hinner⟩ := exists_marksText (t := "(?:[^/".toList) (by decide) (by decide)
  have hfill := h.append hinner
  have heq : '[' :: marksText (caret negated ++ ms) ++ ("(?:[^/]+/)*".toList ++ rest) =
      '[' :: (marksText (caret negated ++ (ms ++ ms')) ++ ']' :: ("+/)*".toList ++ rest)) := by
    simp only [marksText_append, htext, List.cons_append, List.append_assoc]
    rfl
  rw [heq]
  cases hitems : members (ms ++ ms') with
  | none => exact refused_members hfill hitems _
  | some items =>
    intro n first parts g
    have hset := (readSetNode_marks (n := n) hfill (by rintro _ ⟨⟩; rfl)).mpr
      ⟨items, "+/)*".toList ++ rest, hitems, rfl, rfl⟩
    refine ⟨.ok (.sequence (((Regex.Part.other (.literal 47)) ::
      .repeated (.rounds 1 none .greedy (Regex.setNode negated items)) :: parts).reverse.map
        Regex.Part.node), g, ")*".toList ++ rest), fun fuel hfuel => ?_, by rintro _ ⟨⟩; rfl⟩
    have hlen : 4 ≤ fuel := by
      simp only [List.length_cons, List.length_append,
        show "+/)*".toList.length = 4 from rfl] at hfuel
      omega
    obtain ⟨fuel, rfl⟩ : ∃ k, fuel = k + 4 := ⟨fuel - 4, by omega⟩
    rw [readSequence_set, hset]
    rfl

end

/-- No piece begins with what would change the step before it. -/
theorem calm_piece (p : Piece) (rest : Text) : Calm (p.text ++ rest) := by
  cases p with
  | char c =>
    change Calm (escape c ++ rest)
    unfold escape
    split
    · rfl
    · next h => exact Regex.calm_cons (by rintro rfl; exact h rfl) (by rintro rfl; exact h rfl) rest
  | set | folders | rest => rfl

theorem calm_pieces (ps : List Piece) {tail : Text} (h : Calm tail) :
    Calm (ps.flatMap Piece.text ++ tail) := by
  cases ps with
  | nil => exact h
  | cons p ps =>
    rw [List.flatMap_cons, List.append_assoc]
    exact calm_piece p _

theorem openText_append (negated : Bool) (ms ms' : List Mark) :
    openText (some (negated, ms ++ ms')) = openText (some (negated, ms)) ++ marksText ms' := by
  simp only [openText, marksText_append, List.cons_append, List.append_assoc]

/-- **The pieces of a pattern** are read as the steps that `steps` gives, and the pattern is refused
when it gives none. What stands behind them closes no set. -/
theorem readsTo_steps {tail : Text} (hcalm : Calm tail) (hslash : '\\' ∉ tail) (hbracket : ']' ∉ tail)
    {ps : List Piece} (hps : ∀ p ∈ ps, p.IsWritten) {opened : Option (Bool × List Mark)}
    (hopened : ∀ s ∈ opened, Fill s.1 s.2) :
    ReadsTo (openText opened ++ ps.flatMap Piece.text) tail (steps opened ps) := by
  fun_induction steps opened ps with
  | case1 => exact ReadsAs.nil
  | case2 c ps ih =>
    obtain ⟨-, hps⟩ := List.forall_mem_cons.mp hps
    change ReadsTo (escape c ++ _) tail _
    exact (ih hps hopened).cons (s := .oneOf ⟨false, [.one c.toNat], false⟩) (readsAs_escape c)
      (calm_pieces ps hcalm)
  | case3 ps ih =>
    obtain ⟨-, hps⟩ := List.forall_mem_cons.mp hps
    change ReadsTo ("(?:[^/]+/)*".toList ++ _) tail _
    exact (ih hps hopened).cons (s := .folders) readsAs_anyFolders (calm_pieces ps hcalm)
  | case4 ps ih =>
    obtain ⟨-, hps⟩ := List.forall_mem_cons.mp hps
    change ReadsTo (".*".toList ++ _) tail _
    exact (ih hps hopened).cons (s := .rest) readsAs_anyRest (calm_pieces ps hcalm)
  | case5 negated starred ps ih =>
    obtain ⟨hp, hrest⟩ := List.forall_mem_cons.mp hps
    obtain rfl : starred = false := hp.2.2 rfl
    have h := ih hrest (by rintro _ ⟨⟩; exact fill_bracket negated)
    have htext : openText (some (negated, [.bare ']'])) = (Piece.set negated [] false).text := by
      cases negated <;> rfl
    rwa [htext] at h
  | case6 negated m ms starred ps ih =>
    obtain ⟨hp, hps⟩ := List.forall_mem_cons.mp hps
    exact (ih hps hopened).closed (fill_of_isWritten hp) starred (calm_pieces ps hcalm)
  | case7 s =>
    -- what stands behind the pieces goes into the set, which stays open
    obtain ⟨ms, htext, hinner⟩ := exists_marksText hslash hbracket
    have hrefused := refused_open ((hopened s rfl).append hinner)
    change Refused (openText (some (s.1, s.2 ++ ms))) at hrefused
    rw [openText_append, htext] at hrefused
    change Refused (openText (some s) ++ [] ++ tail)
    rwa [List.append_nil]
  | case8 negated ms c ps ih =>
    obtain ⟨-, hps⟩ := List.forall_mem_cons.mp hps
    have hc : ∀ m ∈ [Mark.ofName c], m.IsInner := by
      rintro _ (_ | ⟨_, ⟨⟩⟩)
      exact isInner_ofName c
    have h := ih hps (by rintro _ ⟨⟩; exact (hopened _ rfl).append hc)
    rw [openText_append, List.append_assoc] at h
    have htext : marksText [.ofName c] = escape c := by
      rw [marksText_cons, text_ofName]
      exact List.append_nil _
    rwa [htext] at h
  | case9 s ps =>
    have hrefused := refused_folders (hopened s rfl) (ps.flatMap Piece.text ++ tail)
    change Refused (openText (some s) ++ ("(?:[^/]+/)*".toList ++ _) ++ tail)
    rwa [List.append_assoc, List.append_assoc]
  | case10 negated ms ps ih =>
    obtain ⟨-, hps⟩ := List.forall_mem_cons.mp hps
    have hrest : ∀ m ∈ [Mark.bare '.', Mark.bare '*'], m.IsInner := by
      intro m hm
      rcases List.mem_pair.mp hm with rfl | rfl <;> exact isInner_bare (by decide) (by decide)
    have h := ih hps (by rintro _ ⟨⟩; exact (hopened _ rfl).append hrest)
    rwa [openText_append, List.append_assoc] at h
  | case11 negated ms negated' ms' starred ps ih =>
    obtain ⟨hp, hps⟩ := List.forall_mem_cons.mp hps
    have hinner : ∀ m ∈ .bare '[' :: (caret negated' ++ ms'), m.IsInner := by
      intro m hm
      rcases List.mem_cons.mp hm with rfl | hm
      · exact isInner_bare (by decide) (by decide)
      · exact (List.mem_append.mp hm).elim isInner_of_mem_caret (hp.1 m)
    have h := (ih hps nofun).closed ((hopened _ rfl).append hinner) starred (calm_pieces ps hcalm)
    have htext : marksText (caret negated ++ (ms ++ .bare '[' :: (caret negated' ++ ms'))) =
        marksText (caret negated ++ ms) ++ '[' :: marksText (caret negated' ++ ms') := by
      rw [← List.append_assoc, marksText_append, marksText_cons]
      rfl
    rw [htext] at h
    simpa only [openText, List.flatMap_cons, text_set, List.cons_append, List.append_assoc] using h

/-! ### Acceptance -/

theorem isRegular_setNode (negated : Bool) (items : List SetItem) :
    (Regex.setNode negated items).isRegular = true := by
  unfold Regex.setNode
  split
  · split <;> rfl
  · rfl

theorem isRegular_part (s : Step) : s.part.node.isRegular = true := by
  cases s with
  | oneOf s =>
    change s.part.node.isRegular = true
    unfold CharSet.part
    split
    · exact isRegular_setNode _ _
    · exact isRegular_setNode _ _
  | folders | rest => rfl

/-- The expression of steps between two ends. -/
def stepsNode (before : List Regex.Part) (ss : List Step) (behind : List Regex.Part) : Node :=
  Node.sequence ((before ++ (ss.map Step.part ++ behind)).map Regex.Part.node)

/-- Steps between regular parts are regular. -/
theorem isRegular_stepsNode {before behind : List Regex.Part} {ss : List Step}
    (hbefore : ∀ r ∈ before, r.node.isRegular = true)
    (hbehind : ∀ r ∈ behind, r.node.isRegular = true) :
    (stepsNode before ss behind).isRegular = true := by
  rw [stepsNode, Regex.Node.isRegular_sequence, List.all_map, List.all_eq_true]
  intro r hr
  rcases List.mem_append.mp hr with hr | hr
  · exact hbefore r hr
  · rcases List.mem_append.mp hr with hr | hr
    · obtain ⟨s, -, rfl⟩ := List.mem_map.mp hr
      exact isRegular_part s
    · exact hbehind r hr

/-- **Acceptance.**  Pieces between two ends that are read as regular expressions make a pattern when
they have steps, and it is the expression of these between the two ends. -/
theorem read_pieces_iff {head tail : Text} {before behind : List Regex.Part} {ps : List Piece}
    {pattern : Regex.Pattern} (hhead : ReadsAs head before) (htail : ReadsAs tail behind)
    (hbefore : ∀ r ∈ before, r.node.isRegular = true) (hbehind : ∀ r ∈ behind, r.node.isRegular = true)
    (hcalm : Calm tail) (hslash : '\\' ∉ tail) (hbracket : ']' ∉ tail)
    (hps : ∀ p ∈ ps, p.IsWritten) :
    Regex.read {} (head ++ (ps.flatMap Piece.text ++ tail)) = .ok pattern ↔
      ∃ ss, steps none ps = some ss ∧ pattern = .ofNode {} 0 [] (stepsNode before ss behind) := by
  have h : ReadsTo (openText none ++ ps.flatMap Piece.text) tail (steps none ps) :=
    readsTo_steps hcalm hslash hbracket hps nofun
  cases hss : steps none ps with
  | none =>
    rw [hss] at h
    have hrefused := Refused.behind h (calm_pieces ps hcalm) hhead
    exact iff_of_false (hrefused.read_ne pattern) nofun
  | some ss =>
    rw [hss] at h
    have hreads := hhead.append (ReadsAs.append h htail)
    have hregular : (stepsNode before ss behind).isRegular = true :=
      isRegular_stepsNode hbefore hbehind
    have hread := Regex.read_of_readsAs hreads hregular
    change Regex.read {} (head ++ (ps.flatMap Piece.text ++ tail)) = _ at hread
    rw [hread]
    simp [stepsNode, eq_comm]

/-- Pieces of names are read as sets alone. -/
theorem exists_charSets {opened : Option (Bool × List Mark)} {ps : List Piece} {ss : List Step}
    (hps : ∀ p ∈ ps, p ≠ .folders ∧ p ≠ .rest) (h : steps opened ps = some ss) :
    ∃ sets : List CharSet, ss = sets.map .oneOf := by
  fun_induction steps opened ps generalizing ss with
  | case1 =>
    cases h
    exact ⟨[], rfl⟩
  | case2 c ps ih =>
    obtain ⟨-, hps⟩ := List.forall_mem_cons.mp hps
    obtain ⟨ss, hss, rfl⟩ := Option.map_eq_some_iff.mp h
    obtain ⟨sets, rfl⟩ := ih hps hss
    exact ⟨_ :: sets, rfl⟩
  | case3 | case4 | case9 | case10 => simp at hps
  | case5 _ _ _ ih | case8 _ _ _ _ ih => exact ih (List.forall_mem_cons.mp hps).2 h
  | case6 _ _ _ _ ps ih | case11 _ _ _ _ _ ps ih =>
    obtain ⟨-, hps⟩ := List.forall_mem_cons.mp hps
    obtain ⟨items, -, h⟩ := Option.bind_eq_some_iff.mp h
    obtain ⟨ss, hss, rfl⟩ := Option.map_eq_some_iff.mp h
    obtain ⟨sets, rfl⟩ := ih hps hss
    exact ⟨_ :: sets, rfl⟩
  | case7 => cases h

/-- The expression of a name alone is a sequence of sets. -/
theorem read_name_iff {t : Text} {pattern : Regex.Pattern} :
    Regex.read {} ((parts t).flatMap Part.regex) = .ok pattern ↔
      ∃ sets : List CharSet, steps none ((parts t).map Part.piece) = some (sets.map .oneOf) ∧
        pattern = .ofNode {} 0 [] (Node.sequence (sets.map (·.part.node))) := by
  have hps : ∀ p ∈ (parts t).map Part.piece, p.IsWritten ∧ p ≠ .folders ∧ p ≠ .rest := by
    intro p hp
    obtain ⟨part, hpart, rfl⟩ := List.mem_map.mp hp
    refine ⟨isWritten_of_mem_parts hpart, ?_⟩
    cases part <;> exact ⟨nofun, nofun⟩
  have h : Regex.read {} ([] ++ (((parts t).map Part.piece).flatMap Piece.text ++ [])) =
      .ok pattern ↔ _ := read_pieces_iff .nil .nil nofun nofun Regex.calm_nil
    List.not_mem_nil List.not_mem_nil fun p hp => (hps p hp).1
  rw [List.nil_append, List.append_nil, text_pieces] at h
  rw [h]
  have hnode : ∀ sets : List CharSet, stepsNode [] (sets.map .oneOf) [] =
      Node.sequence (sets.map (·.part.node)) := by
    intro sets
    simp only [stepsNode, List.nil_append, List.append_nil, List.map_map]
    rfl
  constructor
  · rintro ⟨ss, hss, rfl⟩
    obtain ⟨sets, rfl⟩ := exists_charSets (fun p hp => (hps p hp).2) hss
    exact ⟨sets, hss, by rw [hnode]⟩
  · rintro ⟨sets, hss, rfl⟩
    exact ⟨sets.map .oneOf, hss, by rw [hnode]⟩

theorem isWritten_of_mem_segmentPieces {cs : List Text} {p : Piece}
    (h : p ∈ segmentPieces (cs.map Segment.ofText)) : p.IsWritten := by
  have hname : ∀ {c : Text} {ps : List Part}, Segment.ofText c = .name ps →
      p ∈ ps.map Part.piece → p.IsWritten := by
    intro c ps hc hp
    unfold Segment.ofText at hc
    split at hc
    · cases hc
    · obtain rfl := Segment.name.inj hc
      obtain ⟨part, hpart, rfl⟩ := List.mem_map.mp hp
      exact isWritten_of_mem_parts hpart
  induction cs with
  | nil => exact absurd h List.not_mem_nil
  | cons c cs ih =>
    cases hc : Segment.ofText c with
    | anyDepth =>
      cases cs with
      | nil =>
        rw [List.map_cons, hc] at h
        obtain rfl := List.mem_singleton.mp h
        trivial
      | cons d ds =>
        rw [List.map_cons, hc] at h
        rcases List.mem_cons.mp h with rfl | h
        · trivial
        · exact ih h
    | name ps =>
      cases cs with
      | nil =>
        rw [List.map_cons, hc] at h
        exact hname hc h
      | cons d ds =>
        rw [List.map_cons, hc] at h
        rcases List.mem_append.mp h with h | h
        · exact hname hc h
        · rcases List.mem_cons.mp h with rfl | h
          · trivial
          · exact ih h

theorem isRegular_startPart (floating : Bool) :
    ∀ r ∈ [startPart floating], r.node.isRegular = true := by
  intro r hr
  obtain rfl := List.mem_singleton.mp hr
  cases floating <;> rfl

theorem isRegular_endParts : ∀ r ∈ endParts, r.node.isRegular = true := by
  intro r hr
  rcases List.mem_pair.mp hr with rfl | rfl <;> rfl

/-- The expression of a pattern with components is that of their steps between its two ends. -/
theorem read_regex_iff {floating : Bool} {cs : List Text} (hne : cs ≠ []) {pattern : Regex.Pattern} :
    Regex.read {} (regex ⟨floating, cs.map Segment.ofText⟩) = .ok pattern ↔
      ∃ ss, steps none (segmentPieces (cs.map Segment.ofText)) = some ss ∧
        pattern = .ofNode {} 0 [] (stepsNode [startPart floating] ss endParts) := by
  have hregex : regex ⟨floating, cs.map Segment.ofText⟩ =
      (if floating then "(?:^|/)".toList else ['^']) ++
        ((segmentPieces (cs.map Segment.ofText)).flatMap Piece.text ++ "(?:/.*)?$".toList) := by
    rw [text_segmentPieces, regex, if_neg (by simpa using hne), List.append_assoc]
  rw [hregex]
  exact read_pieces_iff (readsAs_start floating) readsAs_end (isRegular_startPart floating)
    isRegular_endParts rfl (by decide) (by decide) fun p => isWritten_of_mem_segmentPieces

end TreeSieve.Glob
