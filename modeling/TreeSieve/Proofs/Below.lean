import TreeSieve.Proofs.Glob.Below
import TreeSieve.Proofs.Ignore
import TreeSieve.Proofs.Text

/-!
# Proofs — Below

Whether what a list ignores is ignored with everything below it.  The walk through a folder relies on
this: it leaves out what lies below an ignored folder without looking at it.

A line feed breaks it.  The end of a pattern takes the rest of the path below a folder only up to a line
feed, and takes a folder whose name ends with one as if it ended before that.  So an ignored folder
speaks for the paths below it when its path has no line feed at its end and the path below has none but
at its end (`ignores_below_iff`); for any other two paths there is a list that ignores the first and not
the second.

* `Glob.finds_mask_iff`: a pattern of question marks, which fits paths by the lengths of their names.
* `Snapshot.Options.ignores_below_iff`: folders and the paths below them.
-/

namespace TreeSieve

/-! ### Masks -/

namespace Glob

open Regex (Node Place)

variable {n t s : Text} {ns : List Text} {p q : Place}

/-- A question mark for each character of a name. -/
def mask (n : Text) : Text := List.replicate n.length '?'

/-- The pattern for names of the same lengths, from the root on. -/
def maskLine (ns : List Text) : Text := '/' :: Text.join Path.root (ns.map mask)

theorem nameFits_mask {name : Text} : nameFits (mask n) name = true ↔ name.length = n.length := by
  have hmarks : ∀ k, nameFits (List.replicate k '?') name = true ↔ name.length = k := by
    intro k
    induction k generalizing name with
    | zero => simp [nameFits]
    | succ k ih => cases name <;> simp [List.replicate_succ, nameFits, ih]
  exact hmarks n.length

theorem eq_of_mem_mask {c : Char} (h : c ∈ mask n) : c = '?' := List.eq_of_mem_replicate h

theorem not_mem_mask {c : Char} (hc : c ≠ '?') : c ∉ mask n := fun h => hc (eq_of_mem_mask h)

theorem mask_ne_anyNames : mask n ≠ anyNames := by
  intro h
  exact not_mem_mask (n := n) (show '*' ≠ '?' by decide) (h ▸ List.mem_cons_self)

theorem eq_of_mem_maskLine {c : Char} (h : c ∈ maskLine ns) : c = '/' ∨ c = '?' := by
  rcases List.mem_cons.mp h with h | h
  · exact .inl h
  · rcases Text.mem_join h with h | ⟨t, ht, hc⟩
    · exact .inl h
    · obtain ⟨n, -, rfl⟩ := List.mem_map.mp ht
      exact .inr (eq_of_mem_mask hc)

/-- Names of the same lengths are taken from a place on. -/
theorem along_mask_of_takes (hne : ns ≠ []) (hns : ∀ n ∈ ns, '/' ∉ n)
    (h : p.Takes (Text.join Path.root ns) q) : Along (componentParts (ns.map mask)) p q := by
  induction ns generalizing p with
  | nil => exact absurd rfl hne
  | cons n ns ih =>
    obtain ⟨hn, htail⟩ := List.forall_mem_cons.mp hns
    have hslash : '/' ∉ mask n := not_mem_mask (by decide)
    cases ns with
    | nil =>
      rw [List.map_cons, List.map_nil, componentParts, if_neg mask_ne_anyNames]
      exact (along_name hslash).mpr ⟨n, hn, nameFits_mask.mpr rfl, h⟩
    | cons m ns =>
      rw [List.map_cons, componentParts_cons (by simp), if_neg mask_ne_anyNames, along_append]
      obtain ⟨o, hpo, hoq⟩ := Place.takes_append_iff.mp h
      exact ⟨o, (along_name_slash hslash).mpr ⟨n, hn, nameFits_mask.mpr rfl, hpo⟩,
        ih (List.cons_ne_nil m ns) htail hoq⟩

/-- As many characters are taken as the names have. -/
theorem takes_of_along_mask (hne : ns ≠ []) (h : Along (componentParts (ns.map mask)) p q) :
    ∃ xs, xs.length = (Text.join Path.root ns).length ∧ p.Takes xs q := by
  induction ns generalizing p with
  | nil => exact absurd rfl hne
  | cons n ns ih =>
    have hslash : '/' ∉ mask n := not_mem_mask (by decide)
    cases ns with
    | nil =>
      rw [List.map_cons, List.map_nil, componentParts, if_neg mask_ne_anyNames] at h
      obtain ⟨xs, -, hfit, htakes⟩ := (along_name hslash).mp h
      exact ⟨xs, nameFits_mask.mp hfit, htakes⟩
    | cons m ns =>
      rw [List.map_cons, componentParts_cons (by simp), if_neg mask_ne_anyNames,
        along_append] at h
      obtain ⟨o, hpo, hoq⟩ := h
      obtain ⟨xs, -, hfit, hpo⟩ := (along_name_slash hslash).mp hpo
      obtain ⟨ys, hlen, hoq⟩ := ih (List.cons_ne_nil m ns) hoq
      refine ⟨xs ++ ['/'] ++ ys, ?_, hpo.trans hoq⟩
      have hfit := nameFits_mask.mp hfit
      simp only [List.length_append, Text.join, hlen, hfit]
      rfl

/-- A mask is found, from the start of a path on, where the end of a path follows the names. -/
theorem finds_mask_iff (hne : ns ≠ []) (hns : ∀ n ∈ ns, '/' ∉ n) (t : Text) :
    (Regex.Pattern.ofNode {} 0 [] (pathNode false (ns.map mask))).finds
      (Text.join Path.root ns ++ t) = true ↔ IsEnd t := by
  rw [Regex.Pattern.finds_iff (isRegular_pathNode _ _) (opening?_pathNode _ _),
    exists_along_pathParts (by simpa using hne)]
  constructor
  · rintro ⟨o, q, r, ho, hbefore | ⟨hfalse, -⟩, hoq, hqr⟩
    · obtain ⟨xs, hlen, htakes⟩ := takes_of_along_mask hne hoq
      have hafter : xs ++ q.after = Text.join Path.root ns ++ t := by
        rw [← htakes.after, ← ho.text, hbefore]
        rfl
      obtain ⟨-, rfl⟩ := List.append_inj hafter hlen
      exact exists_along_endParts_iff.mp ⟨r, hqr⟩
    · cases hfalse
  · intro ht
    obtain ⟨q, hoq, rfl⟩ := Place.exists_takes
      (p := ⟨0, [], Text.join Path.root ns ++ t⟩) rfl
    obtain ⟨r, hqr⟩ := exists_along_endParts_iff.mpr ht
    exact ⟨_, q, r, Place.isIn_start _, .inl rfl, along_mask_of_takes hne hns hoq, hqr⟩

/-- A mask is tied to the root, and its components are those of the names. -/
theorem outline_maskLine (hne : ns ≠ []) (hns : ∀ n ∈ ns, n ≠ []) :
    outline (maskLine ns) = ⟨false, ns.map mask⟩ := by
  have hmask : ∀ t ∈ ns.map mask, t ≠ [] ∧ '/' ∉ t := by
    intro t ht
    obtain ⟨n, hn, rfl⟩ := List.mem_map.mp ht
    refine ⟨fun hnil => hns n hn ?_, not_mem_mask (by decide)⟩
    exact List.eq_nil_of_length_eq_zero ((List.replicate_eq_nil_iff _).mp hnil)
  have hfirst := Text.head?_join_ne (fun t ht => (hmask t ht).1) fun t ht => (hmask t ht).2
  have hlast := Text.getLast?_join_ne (fun t ht => (hmask t ht).1) fun t ht => (hmask t ht).2
  have hend : ∀ c? : Option Char, c? ≠ some '/' → ∀ c ∈ c?, (c == '/') = false := by
    rintro _ hne c rfl
    exact beq_false_of_ne fun h => hne (congrArg some h)
  have hstrip : Text.dropAround (· == '/') (maskLine ns) = Text.join Path.root (ns.map mask) :=
    Text.dropAround_eq_self (p := (· == '/')) (hend _ hfirst) (hend _ hlast)
  have hstar : Text.endsWith (Text.join Path.root (ns.map mask)) "/**".toList = false := by
    rw [Text.endsWith, ← Bool.not_eq_true]
    intro h
    obtain ⟨rest, hrest⟩ := List.isPrefixOf_iff_prefix.mp h
    have hmem : '*' ∈ maskLine ns :=
      List.mem_cons_of_mem '/' (List.mem_reverse.mp (hrest ▸ List.mem_cons_self))
    rcases eq_of_mem_maskLine hmem with h | h <;> exact absurd h (by decide)
  have hbody : body (maskLine ns) = Text.join Path.root (ns.map mask) := by
    rw [body, hstrip, hstar]
    rfl
  have hcomponents : components (Text.join Path.root (ns.map mask)) = ns.map mask := by
    have hparts := Text.parts_join (by simpa using hne) fun t ht => (hmask t ht).2
    have hfilled : Text.join Path.root (ns.map mask) ≠ [] := by
      intro hnil
      rw [Path.root] at hnil
      rw [hnil] at hparts
      exact (hmask [] (hparts ▸ List.mem_singleton_self [])).1 rfl
    rw [components, if_neg (by simpa using hfilled)]
    exact hparts
  rw [outline, if_pos (show (maskLine ns).head? = some '/' from rfl), hbody, hcomponents]

/-- The mask of names can be read, and is found where the end of a path follows them. -/
theorem read_maskLine (hne : ns ≠ []) (hns : ∀ n ∈ ns, n ≠ [] ∧ '/' ∉ n) :
    ∃ pattern, Regex.read {} (ofText (maskLine ns)).regex = .ok pattern ∧
      ∀ t, pattern.finds (Text.join Path.root ns ++ t) = true ↔ IsEnd t := by
  have hsets : '[' ∉ maskLine ns := fun h => by
    rcases eq_of_mem_maskLine h with h | h <;> exact absurd h (by decide)
  refine ⟨_, read_regex hsets, fun t => ?_⟩
  rw [outline_maskLine hne fun n hn => (hns n hn).1]
  exact finds_mask_iff hne (fun n hn => (hns n hn).2) t

/-- The pattern for everything is found where the end of a path follows characters of one line. -/
theorem read_everything :
    ∃ pattern, Regex.read {} (ofText "/**".toList).regex = .ok pattern ∧
      ∀ s, pattern.finds s = true ↔ ∃ xs t, s = xs ++ t ∧ '\n' ∉ xs ∧ IsEnd t := by
  refine ⟨_, read_regex (by decide), fun s => ?_⟩
  have houtline : outline "/**".toList = ⟨false, [anyNames]⟩ := by decide
  rw [houtline, Regex.Pattern.finds_iff (isRegular_pathNode _ _) (opening?_pathNode _ _),
    exists_along_pathParts (List.cons_ne_nil _ _)]
  have hrest : ∀ p q, Along (componentParts [anyNames]) p q ↔ ∃ xs, '\n' ∉ xs ∧ p.Takes xs q :=
    fun p q => along_singleton.trans leads_anyRest
  simp only [hrest]
  constructor
  · rintro ⟨o, q, r, ho, hbefore | ⟨hfalse, -⟩, ⟨xs, hxs, htakes⟩, hqr⟩
    · refine ⟨xs, q.after, ?_, hxs, exists_along_endParts_iff.mp ⟨r, hqr⟩⟩
      rw [← htakes.after, ← ho.text, hbefore]
      rfl
    · cases hfalse
  · rintro ⟨xs, t, rfl, hxs, ht⟩
    obtain ⟨q, htakes, rfl⟩ := Place.exists_takes (p := ⟨0, [], xs ++ t⟩) rfl
    obtain ⟨r, hqr⟩ := exists_along_endParts_iff.mpr ht
    exact ⟨_, q, r, Place.isIn_start _, .inl rfl, ⟨xs, hxs, htakes⟩, hqr⟩

theorem isEnd_slash_iff : IsEnd ('/' :: t) ↔ IsLine t := by
  constructor
  · rintro (h | h | ⟨u, h, hu⟩)
    · cases h
    · exact absurd (List.cons.inj h).1 (by decide)
    · rwa [(List.cons.inj h).2]
  · exact fun h => .inr (.inr ⟨t, rfl, h⟩)

/-- A line feed with more behind it ends no path. -/
theorem not_isEnd_of_lineFeed (hne : t ≠ []) : ¬ IsEnd ('\n' :: t) := by
  rintro (h | h | ⟨u, h, -⟩)
  · cases h
  · exact hne (List.cons.inj h).2
  · exact absurd (List.cons.inj h).1 (by decide)

/-- A line tells two paths apart: its pattern is found in the first, and not in the second. -/
structure TellsApart (line s s' : Text) : Prop where
  chars : ∀ c ∈ line, c = '/' ∨ c = '?' ∨ c = '*'
  ne_nil : line ≠ []
  pattern : ∃ pattern, Regex.read {} (ofText line).regex = .ok pattern ∧
    pattern.finds s = true ∧ ¬ pattern.finds s' = true

/-- The mask of the names that a path begins with tells it apart from a path that does not end where it
ends. -/
theorem tellsApart_mask {u : Text} (hne : ns ≠ []) (hns : ∀ n ∈ ns, n ≠ [] ∧ '/' ∉ n) (hu : IsEnd u)
    (hnot : ¬ IsEnd (u ++ t)) :
    TellsApart (maskLine ns) (Text.join Path.root ns ++ u) (Text.join Path.root ns ++ u ++ t) where
  chars c hc := (eq_of_mem_maskLine hc).imp_right .inl
  ne_nil := List.cons_ne_nil _ _
  pattern := by
    obtain ⟨pattern, hread, hfinds⟩ := read_maskLine hne hns
    rw [List.append_assoc]
    exact ⟨pattern, hread, (hfinds u).mpr hu, fun h => hnot ((hfinds _).mp h)⟩

/-- A path that is one line feed is told apart from the paths below it. -/
theorem tellsApart_everything (t : Text) : TellsApart "/**".toList ['\n'] ('\n' :: '/' :: t) where
  chars c hc := by
    have hc : c = '/' ∨ c = '*' := by simpa using (show c ∈ ['/', '*', '*'] from hc)
    exact hc.imp_right .inr
  ne_nil := List.cons_ne_nil _ _
  pattern := by
    obtain ⟨pattern, hread, hfinds⟩ := read_everything
    refine ⟨pattern, hread, (hfinds _).mpr ⟨[], _, rfl, List.not_mem_nil, .inr (.inl rfl)⟩, ?_⟩
    rw [hfinds]
    rintro ⟨_ | ⟨c, xs⟩, u, heq, hxs, hu⟩
    · rw [List.nil_append] at heq
      exact not_isEnd_of_lineFeed (List.cons_ne_nil _ _) (heq ▸ hu)
    · exact hxs ((List.cons.inj heq).1 ▸ List.mem_cons_self)

/-- **Paths that are told apart.**  When a path has a line feed at its end, or what follows has one
inside, some line tells it apart from the path below it. -/
theorem exists_tellsApart (hne : ns ≠ []) (hns : ∀ n ∈ ns, n ≠ [] ∧ '/' ∉ n)
    (h : (Text.join Path.root ns).getLast? = some '\n' ∨ ¬ IsLine t) :
    ∃ line, TellsApart line (Text.join Path.root ns) (Text.join Path.root ns ++ '/' :: t) := by
  rcases h with hlast | hline
  · obtain ⟨ms, l, rfl⟩ := (List.eq_nil_or_concat' ns).resolve_left hne
    obtain ⟨hms, hl⟩ := List.forall_mem_append.mp hns
    have hl := hl l (List.mem_singleton_self l)
    obtain ⟨l, c, rfl⟩ := (List.eq_nil_or_concat' l).resolve_left hl.1
    have hjoin : Text.join ['/'] (ms ++ [l ++ [c]]) = Text.join ['/'] (ms ++ [l]) ++ [c] :=
      Text.join_concat_append ms l [c]
    rw [Path.root, hjoin, List.getLast?_concat] at hlast
    obtain rfl := Option.some.inj hlast
    rw [Path.root, hjoin]
    -- the mask of the path without its line feed, unless that ends with a slash then, or is empty
    by_cases hl0 : l = []
    · subst hl0
      by_cases hms0 : ms = []
      · subst hms0
        exact ⟨_, tellsApart_everything t⟩
      · rw [Text.join_append hms0 (List.cons_ne_nil _ _), List.append_assoc]
        refine ⟨_, tellsApart_mask hms0 hms (isEnd_slash_iff.mpr ?_) fun hend => ?_⟩
        · exact fun hm => nomatch hm
        · exact isEnd_slash_iff.mp hend List.mem_cons_self
    · refine ⟨_, tellsApart_mask (by simp) (fun n hn => ?_) (.inr (.inl rfl))
        (not_isEnd_of_lineFeed (List.cons_ne_nil _ _))⟩
      rcases List.mem_append.mp hn with hn | hn
      · exact hms n hn
      · obtain rfl := List.mem_singleton.mp hn
        exact ⟨hl0, fun hm => hl.2 (List.mem_append_left _ hm)⟩
  · have hmask := tellsApart_mask (u := []) hne hns (.inl rfl) (mt isEnd_slash_iff.mp hline)
    rw [List.append_nil] at hmask
    exact ⟨_, hmask⟩

end Glob

/-! ### Lists -/

namespace Snapshot.Options

open Glob (IsLine TellsApart)
open IgnoreRule (readAll)

/-- A record with one line as its ignore list. -/
def lineValue (line : Text) : Value := .map [(.text ignoreName, .list [.text line])]

/-- Such a record is accepted when the line can be read, and ignores what its pattern is found in. -/
theorem exists_ofValue_line {line : Text} {pattern : Regex.Pattern} (hne : line ≠ [])
    (htrim : Text.trim line = line) (hcomment : line.head? ≠ some '#') (hmark : line.head? ≠ some '!')
    (hpattern : Regex.read {} (Glob.ofText line).regex = .ok pattern) :
    ∃ o, ofValue (lineValue line) = .ok o ∧ o.ignore = [line] ∧
      ∀ path, o.ignores path = true ↔ pattern.finds (Path.relative path) = true := by
  have hlines : ignoreOfValue (.list [.text line]) = .ok [line] := by
    change Except.ok (List.filter _ [Text.trim line]) = Except.ok [line]
    rw [htrim, List.filter_cons_of_pos (by simp [hne, hcomment]), List.filter_nil]
  have hin : ignoreIn [(.text ignoreName, .list [.text line])] = .ok [line] := hlines
  have hread : IgnoreRule.read line = .ok ⟨line, false, pattern⟩ :=
    (IgnoreRule.read_eq_ok hmark).mpr ⟨pattern, hpattern, rfl⟩
  have hrules : readAll [line] = .ok [⟨line, false, pattern⟩] := by
    simp only [readAll, hread, Except.map]
  obtain ⟨bare, hbare⟩ : ∃ bare, ofValue (.map ((.text ignoreName, .null) ::
      [(.text ignoreName, .list [.text line])])) = .ok bare := ⟨_, rfl⟩
  refine ⟨_, ofValue_map_iff.mpr ((ofValue_map_iff.mp hbare).with_ignore hin hrules), rfl,
    fun path => ?_⟩
  rw [ignores, IgnoreRule.ignores_iff_exists (List.forall_mem_singleton.mpr rfl)]
  simp only [List.mem_singleton, exists_eq_left]

/-- Two paths that a line tells apart are told apart by an ignore list. -/
theorem exists_ignores_of_tellsApart {line d d' : Text}
    (h : TellsApart line (Path.relative d) (Path.relative d')) :
    ∃ v o, ofValue v = .ok o ∧ (∀ l ∈ o.ignore, l.head? ≠ some '!') ∧
      o.ignores d = true ∧ ¬ o.ignores d' = true := by
  obtain ⟨pattern, hpattern, hfinds, hnot⟩ := h.pattern
  have hblank : ∀ c ∈ line, Text.isBlank c = false := by
    intro c hc
    rcases h.chars c hc with rfl | rfl | rfl <;> decide
  have htrim : Text.trim line = line := Text.trim_eq_self
    (fun c hc => hblank c (List.mem_of_mem_head? hc)) fun c hc => hblank c (List.mem_of_getLast? hc)
  have hhead : ∀ c, c ≠ '/' → c ≠ '?' → c ≠ '*' → line.head? ≠ some c := by
    intro c hslash hone hrun hhead
    rcases h.chars c (List.mem_of_mem_head? hhead) with h | h | h
    · exact hslash h
    · exact hone h
    · exact hrun h
  have hmark : line.head? ≠ some '!' := hhead '!' (by decide) (by decide) (by decide)
  obtain ⟨o, ho, hignore, hignores⟩ := exists_ofValue_line h.ne_nil htrim
    (hhead '#' (by decide) (by decide) (by decide)) hmark hpattern
  refine ⟨_, o, ho, ?_, (hignores d).mpr hfinds, fun hd' => hnot ((hignores d').mp hd')⟩
  rw [hignore]
  exact List.forall_mem_singleton.mpr hmark

/-- **Folders and the paths below them.**  Whenever a list without lines that take paths back in
ignores a path, it ignores a given path below, just when the first has no line feed at its end and what
follows has none but at its end. -/
theorem ignores_below_iff {d q : Text} (hd : Path.components d ≠ []) (hq : Path.components q ≠ []) :
    (∀ v o, ofValue v = .ok o → (∀ line ∈ o.ignore, line.head? ≠ some '!') →
        o.ignores d = true → o.ignores (d ++ '/' :: q) = true) ↔
      (Path.relative d).getLast? ≠ some '\n' ∧ '\n' ∉ (Path.relative q).dropLast := by
  have hrelative := Path.relative_append hd hq
  constructor
  · intro h
    by_contra hfeeds
    have hfeeds : (Path.relative d).getLast? = some '\n' ∨ ¬ IsLine (Path.relative q) := by
      rwa [not_and_or, not_ne_iff] at hfeeds
    obtain ⟨line, hline⟩ : ∃ line,
        TellsApart line (Path.relative d) (Path.relative (d ++ '/' :: q)) := by
      rw [hrelative]
      rw [Path.relative_of_ne_nil hd] at hfeeds ⊢
      exact Glob.exists_tellsApart hd (fun n hn =>
        ⟨Path.ne_nil_of_mem_components hn, Path.slash_not_mem_of_mem_components hn⟩) hfeeds
    obtain ⟨v, o, ho, hlines, hignores, hnot⟩ := exists_ignores_of_tellsApart hline
    exact hnot (h v o ho hlines hignores)
  · rintro ⟨hlast, hline⟩ v o ho hlines hignores
    have hrules := readAll_of_ofValue ho
    have hplain : ∀ r ∈ o.rules, r.reincludes = false := by
      intro r hr
      obtain ⟨line, hmem, hread⟩ := IgnoreRule.exists_line_of_mem hrules hr
      obtain ⟨pattern, -, rfl⟩ := (IgnoreRule.read_eq_ok (hlines line hmem)).mp hread
      rfl
    obtain ⟨r, hr, hfinds⟩ := (IgnoreRule.ignores_iff_exists hplain).mp hignores
    obtain ⟨line, hmem, hread⟩ := IgnoreRule.exists_line_of_mem hrules hr
    obtain ⟨pattern, hpattern, rfl⟩ := (IgnoreRule.read_eq_ok (hlines line hmem)).mp hread
    refine (IgnoreRule.ignores_iff_exists hplain).mpr ⟨_, hr, ?_⟩
    rw [hrelative]
    exact Glob.finds_below hpattern hlast hline hfinds

theorem ignores_below_iff_readme :
    Path.components "docs".toList ≠ [] ∧ Path.components "a/readme".toList ≠ [] ∧
      ∀ v o, ofValue v = .ok o → (∀ line ∈ o.ignore, line.head? ≠ some '!') →
        o.ignores "docs".toList = true → o.ignores ("docs".toList ++ '/' :: "a/readme".toList) = true :=
  ⟨by decide, by decide, (ignores_below_iff (by decide) (by decide)).mpr (by decide)⟩

/-- A list of one line ignores a folder, and not a file below it with a line feed in its name. -/
theorem ignores_folder_not_below :
    ∃ o, ofValue (lineValue "d".toList) = .ok o ∧ (∀ line ∈ o.ignore, line.head? ≠ some '!') ∧
      Path.components "d".toList ≠ [] ∧ Path.components "a\nb".toList ≠ [] ∧
      o.ignores "d".toList = true ∧ o.ignores ("d".toList ++ '/' :: "a\nb".toList) = false := by
  obtain ⟨o, ho, hignore, hignores⟩ := exists_ofValue_line (show "d".toList ≠ [] by decide)
    (by decide) (by decide) (by decide) (Glob.read_regex (by decide))
  refine ⟨o, ho, ?_, by decide, by decide, (hignores _).mpr (by decide), ?_⟩
  · rw [hignore]
    exact List.forall_mem_singleton.mpr (by decide)
  · rw [← Bool.not_eq_true, hignores]
    decide

end Snapshot.Options

end TreeSieve
