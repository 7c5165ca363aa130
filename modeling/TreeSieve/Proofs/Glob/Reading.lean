import Mathlib.Tactic.FinCases
import TreeSieve.Proofs.Glob.Fitting
import TreeSieve.Proofs.Regex.Reading

/-!
# Proofs — Glob — Reading

The regular expression of a pattern for paths is read as it was meant.  Each piece that
`Glob.regex` writes is read as parts (`readsAs_escape` and what follows it), so a pattern without
sets is accepted, and its expression is known part by part (`pathParts`, `read_regex`).

Sets are left out here: their text goes into the regular expression as it stands, and it can reach
beyond its own closing bracket (`readsTo_steps`).
-/

namespace TreeSieve.Glob

open Regex (ReadsAs Node)

/-! ### Names -/

/-- The part of a pattern that a character stands for outside sets. -/
def Part.ofChar (c : Char) : Part :=
  if c = '*' then .anyRun else if c = '?' then .anyOne else .char c

/-- Without a bracket, each character is a part of its own. -/
theorem parts_of_not_mem {t : Text} (h : '[' ∉ t) : parts t = t.map Part.ofChar := by
  induction t with
  | nil => rw [parts, List.map_nil]
  | cons c t ih =>
    obtain ⟨hc, ht⟩ := List.ne_and_not_mem_of_not_mem_cons h
    rw [parts, ih ht, List.map_cons, Part.ofChar, if_neg hc.symm]
    split
    · rfl
    · split <;> rfl

/-- An expression for a character other than a slash. -/
def noSlash : Node := .notLiteral 47

/-- What a character of a name is read as. -/
def namePart (c : Char) : Regex.Part :=
  if c = '*' then .repeated (.rounds 0 none .greedy noSlash)
  else if c = '?' then .other noSlash
  else .other (.literal c.toNat)

/-- Behind a backslash, a special character stands for itself. -/
theorem nodeEscape_of_isSpecial {c : Char} (h : isSpecial c = true) (g : Regex.Groups) (n : Nat)
    (rest : Text) : Regex.nodeEscape g n c rest = .ok (.literal c.toNat, rest) := by
  simp only [isSpecial, List.contains_iff_mem] at h
  fin_cases h <;> rfl

/-- An escaped character is read as itself. -/
theorem readsAs_escape (c : Char) : ReadsAs (escape c) [.other (.literal c.toNat)] := by
  rw [escape]
  split
  · next h =>
    refine .of_steps 1 0 (by simp) (by simp) (fun _ => rfl) fun n m first parts g rest => ?_
    change (Regex.nodeEscape g n c rest).bind _ = _
    rw [nodeEscape_of_isSpecial h]
    rfl
  · next h =>
    have hne : ∀ d, isSpecial d = true → c ≠ d := fun d hd hcd => h (hcd ▸ hd)
    refine .of_steps 1 0 (by simp) (by simp)
      (fun rest => Regex.calm_cons (hne '?' rfl) (hne '+' rfl) rest) fun n m first parts g rest => ?_
    simp only [List.singleton_append, Regex.readSequence, hne '\\' rfl, hne '|' rfl, hne ')' rfl,
      hne '[' rfl, hne '*' rfl, hne '+' rfl, hne '?' rfl, hne '\x7b' rfl, hne '.' rfl, hne '^' rfl,
      hne '$' rfl, hne '(' rfl, decide_false, Bool.or_self, Bool.false_and, Bool.false_eq_true,
      if_false, false_implies, implies_true, List.reverse_singleton, Nat.add_zero]

theorem readsAs_noSlash : ReadsAs "[^/]".toList [.other noSlash] :=
  .of_steps 1 0 (by decide) (by decide) (fun _ => rfl) fun _ _ _ _ _ _ => rfl

/-- Each part of a name is read as its node. -/
theorem readsAs_part (c : Char) : ReadsAs (Part.ofChar c).regex [namePart c] := by
  unfold Part.ofChar namePart
  split
  · exact readsAs_noSlash.star
  · split
    · exact readsAs_noSlash
    · exact readsAs_escape c

/-- What a component of a pattern is read as, up to the slash behind it. -/
theorem readsAs_name (t : Text) :
    ReadsAs ((t.map Part.ofChar).flatMap Part.regex) (t.map namePart) := by
  rw [List.flatMap_map]
  exact .flatMap fun c _ => readsAs_part c

/-! ### Paths -/

/-- An expression for any run of characters of a line. -/
def anyRest : Regex.Part := .repeated (.rounds 0 none .greedy .any)

/-- An expression for any number of names, with a slash behind each. -/
def anyFolders : Regex.Part :=
  .repeated (.rounds 0 none .greedy (.seq (.rounds 1 none .greedy noSlash) (.literal 47)))

/-- What the components of a pattern are read as. -/
def componentParts : List Text → List Regex.Part
  | [] => []
  | [c] => if c = anyNames then [anyRest] else c.map namePart
  | c :: cs =>
    (if c = anyNames then [anyFolders] else c.map namePart ++ [.other (.literal 47)])
      ++ componentParts cs

/-- The first component comes in front of the others, with a slash unless it stands for folders. -/
theorem componentParts_cons {cs : List Text} (h : cs ≠ []) (c : Text) :
    componentParts (c :: cs) =
      (if c = anyNames then [anyFolders] else c.map namePart ++ [.other (.literal 47)])
        ++ componentParts cs := by
  cases cs with
  | nil => exact absurd rfl h
  | cons d ds => rfl

/-- What stands in front of the components: the start of the path, or of any name. -/
def startPart (floating : Bool) : Regex.Part :=
  if floating then .other (.alt (.anchor .lineStart) (.alt (.literal 47) .never))
  else .position .lineStart

/-- What stands behind the components: the end of the path, or a slash and anything. -/
def endParts : List Regex.Part :=
  [.repeated (.rounds 0 (some 1) .greedy (.seq (.literal 47) (.rounds 0 none .greedy .any))),
    .position .lineEnd]

/-- What a pattern with these components is read as. -/
def pathParts (floating : Bool) (cs : List Text) : List Regex.Part :=
  if cs.isEmpty then [.other (.ahead true .empty)]
  else startPart floating :: (componentParts cs ++ endParts)

theorem readsAs_slash : ReadsAs ['/'] [.other (.literal 47)] := readsAs_escape '/'

theorem readsAs_anyRest : ReadsAs ".*".toList [anyRest] :=
  .star (t := ['.']) (.of_steps 1 0 (by decide) (by decide) (fun _ => rfl) fun _ _ _ _ _ _ => rfl)

theorem readsAs_anyFolders : ReadsAs "(?:[^/]+/)*".toList [anyFolders] :=
  .star (t := "(?:[^/]+/)".toList)
    (.of_steps 9 8 (by decide) (by decide) (fun _ => rfl) fun _ _ _ _ _ _ => rfl)

/-- **The components of a path without brackets** are read one after the other. -/
theorem readsAs_components {cs : List Text} (h : ∀ c ∈ cs, '[' ∉ c) :
    ReadsAs (segmentsRegex (cs.map Segment.ofText)) (componentParts cs) := by
  induction cs with
  | nil => exact .nil
  | cons c cs ih =>
    have hname := readsAs_name c
    rw [← parts_of_not_mem (h c List.mem_cons_self)] at hname
    have htail := ih fun d hd => h d (List.mem_cons_of_mem c hd)
    by_cases hc : c = anyNames
    · have hofText : Segment.ofText c = .anyDepth := if_pos hc
      cases cs with
      | nil =>
        simp only [List.map_cons, List.map_nil, hofText, componentParts, if_pos hc]
        exact readsAs_anyRest
      | cons d ds =>
        simp only [List.map_cons, hofText, componentParts, if_pos hc]
        exact readsAs_anyFolders.append htail
    · have hofText : Segment.ofText c = .name (parts c) := if_neg hc
      cases cs with
      | nil =>
        simp only [List.map_cons, List.map_nil, hofText, componentParts, if_neg hc]
        exact hname
      | cons d ds =>
        simp only [List.map_cons, hofText, componentParts, if_neg hc]
        rw [List.append_assoc]
        exact hname.append (readsAs_slash.append htail)

/-- The beginning of an expression is read as the place where a path may begin. -/
theorem readsAs_start (floating : Bool) :
    ReadsAs (if floating then "(?:^|/)".toList else ['^']) [startPart floating] := by
  cases floating with
  | false => exact .of_steps 1 0 (by decide) (by decide) (fun _ => rfl) fun _ _ _ _ _ _ => rfl
  | true => exact .of_steps 7 6 (by decide) (by decide) (fun _ => rfl) fun _ _ _ _ _ _ => rfl

theorem readsAs_end : ReadsAs "(?:/.*)?$".toList endParts :=
  .of_steps 9 6 (by decide) (by decide) (fun _ => rfl) fun _ _ _ _ _ _ => rfl

/-- The regular expression of a pattern without sets, part by part. -/
theorem readsAs_regex {floating : Bool} {cs : List Text} (h : ∀ c ∈ cs, '[' ∉ c) :
    ReadsAs (regex ⟨floating, cs.map Segment.ofText⟩) (pathParts floating cs) := by
  simp only [regex, pathParts, List.isEmpty_map]
  split
  · exact .of_steps 4 3 (by decide) (by decide) (fun _ => rfl) fun _ _ _ _ _ _ => rfl
  · rw [List.append_assoc]
    exact (readsAs_start floating).append ((readsAs_components h).append readsAs_end)

/-! ### Acceptance -/

/-- The expression of a pattern with these components. -/
def pathNode (floating : Bool) (cs : List Text) : Node :=
  Node.sequence ((pathParts floating cs).map Regex.Part.node)

theorem isRegular_namePart (c : Char) : (namePart c).node.isRegular = true := by
  unfold namePart
  split
  · rfl
  · split <;> rfl

theorem isRegular_componentParts {cs : List Text} {p : Regex.Part} (h : p ∈ componentParts cs) :
    p.node.isRegular = true := by
  induction cs with
  | nil => exact absurd h List.not_mem_nil
  | cons c cs ih =>
    have hname : ∀ p ∈ c.map namePart, p.node.isRegular = true := by
      intro p hp
      obtain ⟨d, -, rfl⟩ := List.mem_map.mp hp
      exact isRegular_namePart d
    cases cs with
    | nil =>
      rw [componentParts] at h
      split at h
      · obtain rfl := List.mem_singleton.mp h
        rfl
      · exact hname p h
    | cons d ds =>
      rw [componentParts_cons (List.cons_ne_nil d ds)] at h
      rcases List.mem_append.mp h with h | h
      · split at h
        · obtain rfl := List.mem_singleton.mp h
          rfl
        · rcases List.mem_append.mp h with h | h
          · exact hname p h
          · obtain rfl := List.mem_singleton.mp h
            rfl
      · exact ih h

/-- The expression of a path is regular. -/
theorem isRegular_pathNode (floating : Bool) (cs : List Text) :
    (pathNode floating cs).isRegular = true := by
  rw [pathNode, Regex.Node.isRegular_sequence, List.all_map, List.all_eq_true]
  intro p hp
  rw [pathParts] at hp
  split at hp
  · obtain rfl := List.mem_singleton.mp hp
    rfl
  · rcases List.mem_cons.mp hp with rfl | hp
    · cases floating <;> rfl
    · rcases List.mem_append.mp hp with hp | hp
      · exact isRegular_componentParts hp
      · rcases List.mem_pair.mp hp with rfl | rfl <;> rfl

/-- **Every pattern without sets is accepted**, and is the expression of its outline. -/
theorem read_regex {t : Text} (h : '[' ∉ t) :
    Regex.read {} (ofText t).regex =
      .ok (.ofNode {} 0 [] (pathNode (outline t).floating (outline t).components)) := by
  rw [ofText_eq]
  refine Regex.read_of_readsAs (readsAs_regex fun c hc => ?_) (isRegular_pathNode _ _)
  exact fun hm => h (subset_of_mem_outline hc hm)

end TreeSieve.Glob
