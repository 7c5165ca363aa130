import TreeSieve.Proofs.Glob.Matching
import TreeSieve.Proofs.Options

/-!
# Proofs — Ignore

What an ignore list without sets ignores.  A line fits a path by its names (`Glob.fits`); the list
ignores a path when a line fits it and no line behind that takes the path back in (`TakesOut`).  The
pass through the list keeps only its last decision, so the two agree by induction from its end
(`ignored_iff_takesOut`).

* `ignores_iff_takesOut`: options with such a list are accepted, and ignore a path when the list takes
  its names out.
* `IgnoreRule.ignores_iff_exists`: a list, with sets or without, that takes no paths back in ignores a
  path when some pattern is found in it.
-/

namespace TreeSieve

namespace IgnoreRule

/-- The list takes a path with these names out: some line fits them, and no line behind it takes paths
back in that fit. -/
def TakesOut (lines names : List Text) : Prop :=
  ∃ before line after, lines = before ++ line :: after ∧
    line.head? ≠ some '!' ∧ Glob.fits line names = true ∧
    ∀ pattern, '!' :: pattern ∈ after → Glob.fits pattern names = false

/-! ### One line -/

/-- The rule of a line without sets: it is found in a path when its pattern fits the names. -/
structure RuleOf (line : Text) (r : IgnoreRule) : Prop where
  reincludes : r.reincludes = (split line).1
  finds : ∀ s, '\n' ∉ s → (∀ name ∈ Text.parts '/' s, name ≠ []) →
    r.pattern.finds s = Glob.fits (split line).2 (Text.parts '/' s)

theorem split_snd_subset (line : Text) : (split line).2 ⊆ line := by
  unfold split
  split
  · exact List.subset_cons_self _ _
  · exact List.Subset.refl _

theorem exists_read {line : Text} (h : '[' ∉ line) : ∃ r, read line = .ok r ∧ RuleOf line r := by
  obtain ⟨pattern, hread, hfinds⟩ :=
    Glob.read_and_finds fun hm => h (split_snd_subset line hm)
  exact ⟨⟨line, (split line).1, pattern⟩, by simp only [read, hread, Except.map], rfl, hfinds⟩

/-- Every list of lines without sets can be made ready. -/
theorem exists_readAll {lines : List Text} (h : ∀ line ∈ lines, '[' ∉ line) :
    ∃ rules, readAll lines = .ok rules ∧ List.Forall₂ RuleOf lines rules := by
  induction lines with
  | nil => exact ⟨[], rfl, .nil⟩
  | cons line lines ih =>
    obtain ⟨hline, hlines⟩ := List.forall_mem_cons.mp h
    obtain ⟨r, hr, hrule⟩ := exists_read hline
    obtain ⟨rules, hrules, hall⟩ := ih hlines
    exact ⟨r :: rules, by simp only [readAll, hr, hrules, Except.map], .cons hrule hall⟩

/-! ### A list -/

/-- What a list says about names, line by line: the last line that fits decides. -/
def ignored (lines names : List Text) : Bool :=
  lines.foldl (fun out line => if Glob.fits (split line).2 names then !(split line).1 else out) false

theorem ignored_concat (lines names : List Text) (line : Text) :
    ignored (lines ++ [line]) names =
      if Glob.fits (split line).2 names then !(split line).1 else ignored lines names := by
  rw [ignored, List.foldl_append]
  rfl

theorem ignores_eq_ignored {lines : List Text} {rules : List IgnoreRule}
    (h : List.Forall₂ RuleOf lines rules) {path : Text} (hpath : Path.relative path ≠ [])
    (hline : '\n' ∉ Path.relative path) :
    ignores rules path = ignored lines (Text.parts '/' (Path.relative path)) := by
  have hnames : ∀ name ∈ Text.parts '/' (Path.relative path), name ≠ [] :=
    fun _ => Path.ne_nil_of_mem_parts_relative hpath
  unfold ignores ignored
  generalize false = out
  induction h generalizing out with
  | nil => rfl
  | cons hrule _ ih =>
    simp only [List.foldl_cons, hrule.finds _ hline hnames, hrule.reincludes]
    exact ih _

theorem split_of_head?_ne {line : Text} (h : line.head? ≠ some '!') : split line = (false, line) := by
  unfold split
  split
  · exact absurd rfl h
  · rfl

/-- A line at the end of a list takes names out, or lets those pass that the list takes out. -/
theorem takesOut_concat {lines names : List Text} {line : Text} :
    TakesOut (lines ++ [line]) names ↔
      (line.head? ≠ some '!' ∧ Glob.fits line names = true) ∨
        (TakesOut lines names ∧ ∀ pattern, line = '!' :: pattern →
          Glob.fits pattern names = false) := by
  constructor
  · rintro ⟨before, l, after, h, hl, hfit, hafter⟩
    rcases List.eq_nil_or_concat' after with rfl | ⟨rest, last, rfl⟩
    · obtain ⟨-, hlast⟩ := List.append_inj' h rfl
      obtain rfl := List.singleton_inj.mp hlast
      exact .inl ⟨hl, hfit⟩
    · rw [← List.cons_append, ← List.append_assoc] at h
      obtain ⟨hlines, hlast⟩ := List.append_inj' h rfl
      obtain rfl := List.singleton_inj.mp hlast
      refine .inr ⟨⟨before, l, rest, hlines, hl, hfit, fun pattern hm => ?_⟩, ?_⟩
      · exact hafter pattern (List.mem_append_left _ hm)
      · rintro pattern rfl
        exact hafter pattern (List.mem_append_right _ (List.mem_singleton_self _))
  · rintro (⟨hl, hfit⟩ | ⟨⟨before, l, after, rfl, hl, hfit, hafter⟩, hlast⟩)
    · exact ⟨lines, line, [], rfl, hl, hfit, fun _ h => nomatch h⟩
    · refine ⟨before, l, after ++ [line], by simp, hl, hfit, fun pattern hm => ?_⟩
      rcases List.mem_append.mp hm with hm | hm
      · exact hafter pattern hm
      · exact hlast pattern (List.mem_singleton.mp hm).symm

/-- **The last line that fits decides**: a path is ignored when the list takes it out. -/
theorem ignored_iff_takesOut (lines names : List Text) :
    ignored lines names = true ↔ TakesOut lines names := by
  induction lines using List.reverseRecOn with
  | nil =>
    refine iff_of_false Bool.false_ne_true ?_
    rintro ⟨before, line, after, h, -⟩
    exact absurd h.symm (List.append_ne_nil_of_right_ne_nil before (List.cons_ne_nil line after))
  | append_singleton lines line ih =>
    rw [ignored_concat, takesOut_concat, ← ih]
    by_cases hline : line.head? = some '!'
    · obtain ⟨pattern, rfl⟩ := List.head?_eq_some_iff.mp hline
      cases hfit : Glob.fits pattern names <;> simp [split, hfit]
    · have hnot : ∀ pattern, line ≠ '!' :: pattern := fun pattern h => hline (h ▸ rfl)
      cases hfit : Glob.fits line names <;> simp [split_of_head?_ne hline, hfit, hline, hnot]

/-! ### Lists that take nothing back in -/

/-- A list without rules that take paths back in ignores a path when some pattern is found in it. -/
theorem ignores_iff_exists {rules : List IgnoreRule} (h : ∀ r ∈ rules, r.reincludes = false)
    {path : Text} :
    ignores rules path = true ↔ ∃ r ∈ rules, r.pattern.finds (Path.relative path) = true := by
  have hfold : ∀ out : Bool, rules.foldl (fun out r =>
      if r.pattern.finds (Path.relative path) then !r.reincludes else out) out =
      (out || rules.any fun r => r.pattern.finds (Path.relative path)) := by
    induction rules with
    | nil => exact fun out => (Bool.or_false out).symm
    | cons r rules ih =>
      obtain ⟨hr, hrules⟩ := List.forall_mem_cons.mp h
      intro out
      rw [List.foldl_cons, ih hrules, List.any_cons, hr]
      cases r.pattern.finds (Path.relative path) <;> simp
  rw [ignores, hfold, Bool.false_or, List.any_eq_true]

/-- Each rule of a list is that of one of its lines. -/
theorem exists_line_of_mem {lines : List Text} {rules : List IgnoreRule} {r : IgnoreRule}
    (h : readAll lines = .ok rules) (hr : r ∈ rules) : ∃ line ∈ lines, read line = .ok r := by
  induction lines generalizing rules with
  | nil =>
    cases h
    cases hr
  | cons line lines ih =>
    rw [readAll] at h
    split at h
    · cases h
    · next r' hread =>
      obtain ⟨rest, hrest, rfl⟩ := Except.map_eq_ok.mp h
      rcases List.mem_cons.mp hr with rfl | hr
      · exact ⟨line, List.mem_cons_self, hread⟩
      · obtain ⟨l, hl, hread⟩ := ih hrest hr
        exact ⟨l, List.mem_cons_of_mem line hl, hread⟩

/-- The rule of a line that takes no paths back in is that of its pattern. -/
theorem read_eq_ok {line : Text} {r : IgnoreRule} (hline : line.head? ≠ some '!') :
    read line = .ok r ↔ ∃ pattern, Regex.read {} (Glob.ofText line).regex = .ok pattern ∧
      r = ⟨line, false, pattern⟩ := by
  rw [read, split_of_head?_ne hline, Except.map_eq_ok]
  simp only [eq_comm]

end IgnoreRule

namespace Snapshot.Options

open IgnoreRule (TakesOut readAll)

/-- **Ignore lists without sets.**  Take a record with such a list that is accepted when the list is
left out.  It is accepted with the list, so every pattern becomes a regular expression that can be
read; and a path of one line is ignored when the list takes its names out. -/
theorem ignores_iff_takesOut {entries : List (Value × Value)} {v : Value} {lines : List Text}
    {bare : Options} (hv : Value.lookup entries ignoreName = some v)
    (hlines : ignoreOfValue v = .ok lines) (hsets : ∀ line ∈ lines, '[' ∉ line)
    (hbare : ofValue (.map ((.text ignoreName, .null) :: entries)) = .ok bare) :
    ∃ o, ofValue (.map entries) = .ok o ∧ o.ignore = lines ∧
      ∀ path, Path.relative path ≠ [] → '\n' ∉ Path.relative path →
        (o.ignores path = true ↔ TakesOut lines (Text.parts '/' (Path.relative path))) := by
  obtain ⟨rules, hrules, hall⟩ := IgnoreRule.exists_readAll hsets
  have hin : ignoreIn entries = .ok lines := by simp only [ignoreIn, hv, hlines]
  have hread := (ofValue_map_iff.mp hbare).with_ignore hin hrules
  refine ⟨_, ofValue_map_iff.mpr hread, rfl, fun path hpath hline => ?_⟩
  rw [ignores, IgnoreRule.ignores_eq_ignored hall hpath hline, IgnoreRule.ignored_iff_takesOut]

/-- An ignore list as it is written, with a comment among its lines. -/
def logsValue : Value :=
  .list [.text "*.log".toList, .text " # kept".toList, .text "!src/**/a?.log".toList]

theorem ignores_iff_takesOut_logs :
    ∃ o, ofValue (.map [(.text ignoreName, logsValue)]) = .ok o ∧
      o.ignore = ["*.log".toList, "!src/**/a?.log".toList] ∧
      o.ignores "src/b.log".toList = true ∧ o.ignores "src/x/ab.log".toList = false := by
  have hv : Value.lookup [(.text ignoreName, logsValue)] ignoreName = some logsValue := rfl
  have hlines : ignoreOfValue logsValue = .ok ["*.log".toList, "!src/**/a?.log".toList] := rfl
  obtain ⟨o, ho, hignore, h⟩ := ignores_iff_takesOut hv hlines (by decide) rfl
  refine ⟨o, ho, hignore, ?_, ?_⟩
  · rw [h _ (by decide) (by decide), ← IgnoreRule.ignored_iff_takesOut]
    decide
  · rw [← Bool.not_eq_true, h _ (by decide) (by decide), ← IgnoreRule.ignored_iff_takesOut]
    decide

end Snapshot.Options

end TreeSieve
