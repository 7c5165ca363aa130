import TreeSieve.Proofs.Ancestors
import TreeSieve.Proofs.Cache
import TreeSieve.Proofs.DecisionMap
import TreeSieve.Proofs.Prelude
import TreeSieve.Proofs.Regex.Matching

/-!
# Proofs — Classification

What a pass decides, said without walks: the paths of the accepted folders and files, the folders on
the way to them (`onTheWay`: whole chains of ancestors), and the first rule that applies to an item
(`verdict`).

A pass has no decisions when the search stumbles over an item; only a pattern with groups can make it
stumble (`Search.stumblesNowhere_of_groups`).

* `evaluate_eq_verdict`: a pass that stumbles over no item decides each path that comes in the list, in
  the order in which the paths first come, by the verdict on the last item with that path; the order in
  which the walks are made does not matter (`FoundInOrder`).
* `evaluate_crossed`: a pass can stumble.
-/

namespace TreeSieve

/-! ### Searches that do not fail -/

namespace Search

variable {s : Search}

/-- The search stumbles over no item but the root, to which it is not put. -/
def StumblesNowhere (s : Search) (items : List Item) : Prop :=
  ∀ i ∈ items, i.path ≠ Path.root → s.stumbles i = false

/-- Patterns without groups have no edges that could cross. -/
theorem findingIn_ne_crossed {ps : List Regex.Pattern} (h : ∀ p ∈ ps, p.groups = 0) (i : Item) :
    findingIn i ps ≠ .crossed := by
  induction ps with
  | nil => exact Regex.Finding.noConfusion
  | cons p ps ih =>
    have hp := Regex.Pattern.search_ne_crossed (h p List.mem_cons_self)
    rw [findingIn]
    split
    · split
      · exact ih fun r hr => h r (List.mem_cons_of_mem p hr)
      · exact hp i.path
    · exact hp i.matchName

/-- Patterns without groups make no search fail. -/
theorem stumblesNowhere_of_groups (h : ∀ p ∈ s.patterns, p.groups = 0) (items : List Item) :
    s.StumblesNowhere items := fun i _ _ => by
  rw [stumbles, decide_eq_false (findingIn_ne_crossed h i), Bool.and_false]

end Search

namespace Filter

open TreeSieve.Path (root ancestors)

variable {s : Search} {items : List Item}

/-! ### The verdict on an item -/

/-- The paths of the folders that a search accepts; the root is not among them. -/
def matchedFolders (s : Search) (items : List Item) : List Text :=
  (items.filter fun i => !i.isRoot && i.isFolder && s.accepts i).map (·.path)

/-- The files that a search accepts; the root is not among them. -/
def acceptedFiles (s : Search) (items : List Item) : List Item :=
  items.filter fun i => !i.isRoot && !i.isFolder && s.accepts i

/-- The paths of the files that a search accepts. -/
def matchedFiles (s : Search) (items : List Item) : List Text :=
  (acceptedFiles s items).map (·.path)

/-- The folders in which a search accepts files. -/
def matchedPlaces (s : Search) (items : List Item) : List Text :=
  (acceptedFiles s items).map (·.parent)

/-- The folders on the way to what a search accepts: those in which it accepts files, and all
ancestors of those and of the accepted folders. -/
def onTheWay (s : Search) (items : List Item) : List Text :=
  matchedPlaces s items
    ++ (matchedPlaces s items).flatMap ancestors ++ (matchedFolders s items).flatMap ancestors

/-- The decision for an item, by the first rule that applies. -/
def verdict (s : Search) (items : List Item) (x : Item) : Decision :=
  if x.path ∈ matchedFolders s items then .folderMatch
  else if x.path ∈ matchedFiles s items then .fileMatch
  else if x.isFolder ∧ x.path ∈ onTheWay s items then .containsMatch
  else if ¬ x.isRoot ∧ x.parent ∈ matchedFolders s items then .revealed
  else .hidden

/-- On the way lie the places of matches, what is around them, and what is around matching folders.
-/
theorem mem_onTheWay {p : Text} :
    p ∈ onTheWay s items ↔ p ∈ matchedPlaces s items
      ∨ (∃ q ∈ matchedPlaces s items, p ∈ ancestors q)
      ∨ ∃ q ∈ matchedFolders s items, p ∈ ancestors q := by
  simp only [onTheWay, List.mem_append, List.mem_flatMap, or_assoc]

theorem mem_matchedFolders {p : Text} :
    p ∈ matchedFolders s items ↔
      ∃ i ∈ items, i.path = p ∧ i.path ≠ root ∧ i.isFolder = true ∧ s.accepts i = true := by
  simp only [matchedFolders, List.mem_map, List.mem_filter, Bool.and_eq_true, Bool.not_eq_true',
    Item.isRoot, decide_eq_false_iff_not]
  constructor
  · rintro ⟨i, ⟨hi, ⟨hr, hf⟩, ha⟩, hp⟩
    exact ⟨i, hi, hp, hr, hf, ha⟩
  · rintro ⟨i, hi, hp, hr, hf, ha⟩
    exact ⟨i, ⟨hi, ⟨hr, hf⟩, ha⟩, hp⟩

theorem mem_acceptedFiles {i : Item} :
    i ∈ acceptedFiles s items ↔
      i ∈ items ∧ i.path ≠ root ∧ i.isFolder = false ∧ s.accepts i = true := by
  simp only [acceptedFiles, List.mem_filter, Bool.and_eq_true, Bool.not_eq_true', Item.isRoot,
    decide_eq_false_iff_not, and_assoc]

/-! ### When an item is shown -/

/-- A verdict is a match just when the path was found. -/
theorem isDirect_verdict {x : Item} :
    (verdict s items x).isDirect = true ↔
      x.path ∈ matchedFolders s items ∨ x.path ∈ matchedFiles s items := by
  unfold verdict
  split
  · next h => exact iff_of_true rfl (.inl h)
  · next h =>
    split
    · next h' => exact iff_of_true rfl (.inr h')
    · next h' =>
      have hno : ¬(x.path ∈ matchedFolders s items ∨ x.path ∈ matchedFiles s items) :=
        not_or.mpr ⟨h, h'⟩
      split
      · exact iff_of_false (by decide) hno
      · split <;> exact iff_of_false (by decide) hno

/-- The four ways to be shown. -/
theorem shown_verdict {x : Item} :
    (verdict s items x).shown = true ↔
      x.path ∈ matchedFolders s items ∨ x.path ∈ matchedFiles s items
        ∨ (x.isFolder ∧ x.path ∈ onTheWay s items)
        ∨ (¬ x.isRoot ∧ x.parent ∈ matchedFolders s items) := by
  unfold verdict
  split
  · next h => exact iff_of_true rfl (.inl h)
  · next h₁ =>
    split
    · next h => exact iff_of_true rfl (.inr (.inl h))
    · next h₂ =>
      split
      · next h => exact iff_of_true rfl (.inr (.inr (.inl h)))
      · next h₃ =>
        split
        · next h => exact iff_of_true rfl (.inr (.inr (.inr h)))
        · next h₄ =>
          exact iff_of_false (by decide) (not_or.mpr ⟨h₁, not_or.mpr ⟨h₂, not_or.mpr ⟨h₃, h₄⟩⟩⟩)

/-! ### Findings in any order -/

/-- What a search finds, with each of the sets listed in any order, and so with the walks upwards
made in any order. -/
structure FoundInOrder (s : Search) (items : List Item) (f : Findings) : Prop where
  files : ∀ p, p ∈ f.files ↔ p ∈ matchedFiles s items
  folders : ∀ p, p ∈ f.folders ↔ p ∈ matchedFolders s items
  around : ∃ places, (∀ p, p ∈ places ↔ p ∈ matchedPlaces s items)
    ∧ f.around = revealers places f.folders

/-- The findings of a search are collected in one of the orders. -/
theorem foundInOrder_find (s : Search) (items : List Item) :
    FoundInOrder s items (find s items) := by
  have hfiles : (accepted s items).filter (!·.isFolder) = acceptedFiles s items := by
    rw [accepted, List.filter_filter, acceptedFiles]
    exact List.filter_congr fun i _ => by cases i.isRoot <;> cases i.isFolder <;> simp
  have hfolders : ((accepted s items).filter (·.isFolder)).map (·.path)
      = matchedFolders s items := by
    rw [accepted, List.filter_filter, matchedFolders]
    exact congrArg _ (List.filter_congr fun i _ => by cases i.isRoot <;> cases i.isFolder <;> simp)
  refine ⟨fun p => ?_, fun p => ?_, ⟨matchedPlaces s items, fun _ => Iff.rfl, ?_⟩⟩
  · simp only [find, hfiles, matchedFiles]
  · simp only [find, hfolders]
  · simp only [find, hfiles, hfolders, matchedPlaces]

/-- **What lies around matches** is found by climbs in any order. -/
theorem FoundInOrder.mem_around {f : Findings} (h : FoundInOrder s items f) {p : Text} :
    p ∈ f.around ↔ p ∈ onTheWay s items := by
  obtain ⟨places, hplaces, haround⟩ := h.around
  rw [haround, mem_revealers, mem_onTheWay]
  simp only [hplaces, h.folders]

/-- **The order of the walks does not matter**: whatever the order in which things were found, an
item is classified by its verdict. -/
theorem FoundInOrder.classify_eq {f : Findings} (h : FoundInOrder s items f) (x : Item) :
    classify f x = verdict s items x := by
  simp only [classify, verdict, List.contains_iff_mem, h.files, h.folders, h.mem_around,
    Bool.and_eq_true, Bool.not_eq_true', Bool.not_eq_true]

/-- The map of a search is made of verdicts. -/
theorem decide_eq (s : Search) (items : List Item) :
    decide s items = DecisionMap.ofList (items.map fun x => (x.path, verdict s items x)) := by
  simp only [decide, (foundInOrder_find s items).classify_eq]

/-- The last item with a path decides. -/
theorem get?_decide (s : Search) (items : List Item) (p : Text) :
    (decide s items).get? p = (items.filter (·.path = p)).getLast?.map (verdict s items) := by
  rw [decide_eq, DecisionMap.get?_ofList, List.filter_map, List.getLast?_map, Option.map_map]
  rfl

/-! ### One pass -/

/-- A search that stumbles nowhere decides. -/
theorem answer_of_stumblesNowhere (h : s.StumblesNowhere items) :
    answer s items = .ok (decide s items) := by
  refine if_neg fun hany => ?_
  obtain ⟨i, hi, hstumbles⟩ := List.any_eq_true.mp hany
  obtain ⟨hroot, hstumbles⟩ := Bool.and_eq_true_iff.mp hstumbles
  rw [h i hi (by simpa [Item.isRoot] using hroot)] at hstumbles
  cases hstumbles

/-- A search that stumbles over an item fails. -/
theorem answer_of_stumbles {i : Item} (hi : i ∈ items) (hroot : i.path ≠ root)
    (h : s.stumbles i = true) : answer s items = .error .crossed :=
  if_pos (List.any_eq_true.mpr ⟨i, hi, by simpa [Item.isRoot, h] using hroot⟩)

theorem answer_cases (s : Search) (items : List Item) :
    (s.StumblesNowhere items ∧ answer s items = .ok (decide s items)) ∨
      (∃ i ∈ items, i.path ≠ root ∧ s.stumbles i = true) ∧ answer s items = .error .crossed := by
  by_cases h : s.StumblesNowhere items
  · exact .inl ⟨h, answer_of_stumblesNowhere h⟩
  · simp only [Search.StumblesNowhere, not_forall, Bool.not_eq_false] at h
    obtain ⟨i, hi, hroot, hstumbles⟩ := h
    exact .inr ⟨⟨i, hi, hroot, hstumbles⟩, answer_of_stumbles hi hroot hstumbles⟩

variable {settings : Settings} {q : Query} {cache : Regex.Cache}

/-- A pass of a query that can be made ready gives the answer of its search. -/
theorem evaluate_fst (hq : q.isBlank = false)
    (hs : (Search.prepare q settings.caseSensitive cache).1 = .ok s) :
    (evaluate settings items q cache).1 = answer s items := by
  unfold evaluate
  rw [if_neg (by simp [hq])]
  rcases hp : Search.prepare q settings.caseSensitive cache with ⟨r, c⟩
  rw [hp] at hs
  cases hs
  rfl

/-- A pass of a query that can be made ready and stumbles nowhere decides as its search does. -/
theorem evaluate_of_stumblesNowhere (hq : q.isBlank = false)
    (hs : (Search.prepare q settings.caseSensitive cache).1 = .ok s)
    (h : s.StumblesNowhere items) : (evaluate settings items q cache).1 = .ok (decide s items) :=
  (evaluate_fst hq hs).trans (answer_of_stumblesNowhere h)

/-- A pass that gives a map decides as its search does. -/
theorem exists_search_of_evaluate {m : DecisionMap} (hq : q.isBlank = false)
    (h : (evaluate settings items q cache).1 = .ok m) :
    ∃ s, (Search.prepare q settings.caseSensitive cache).1 = .ok s ∧ s.StumblesNowhere items ∧
      m = decide s items := by
  unfold evaluate at h
  rw [if_neg (by simp [hq])] at h
  obtain ⟨s, hs, hanswer⟩ := Except.bind_eq_ok.mp h
  rcases answer_cases s items with ⟨hclear, hmap⟩ | ⟨-, hfails⟩
  · exact ⟨s, hs, hclear, Except.ok.inj (hanswer.symm.trans hmap)⟩
  · cases hfails.symm.trans hanswer

/-- **What a pass decides.**  A query that is not blank and whose patterns can be read is made ready.
When its search stumbles over an item, the pass fails.  Otherwise it succeeds: its map holds the paths
of the items, in the order in which they first come, each with the verdict on the last item that has
it; and so does the map of findings collected in any other order. -/
theorem evaluate_eq_verdict (settings : Settings) (items : List Item) (q : Query)
    (cache : Regex.Cache) (hq : q.isBlank = false)
    (hr : Search.Readable q settings.caseSensitive) :
    ∃ s, (Search.prepare q settings.caseSensitive cache).1 = .ok s ∧
      ((∃ i ∈ items, i.path ≠ root ∧ s.stumbles i = true) →
        (evaluate settings items q cache).1 = .error .crossed) ∧
      (s.StumblesNowhere items → ∃ m, (evaluate settings items q cache).1 = .ok m ∧
        m.map Prod.fst = (items.map (·.path)).eraseDups ∧
        (∀ p, m.get? p = (items.filter (·.path = p)).getLast?.map (verdict s items)) ∧
        ∀ f, FoundInOrder s items f →
          DecisionMap.ofList (items.map fun x => (x.path, classify f x)) = m) := by
  obtain ⟨s, hs⟩ := Search.prepare_of_readable cache hr
  refine ⟨s, hs, ?_, fun hclear => ⟨decide s items, evaluate_of_stumblesNowhere hq hs hclear, ?_,
    get?_decide s items, fun f hf => ?_⟩⟩
  · rintro ⟨i, hi, hroot, hstumbles⟩
    rw [evaluate_fst hq hs, answer_of_stumbles hi hroot hstumbles]
  · rw [decide_eq, DecisionMap.map_fst_ofList, List.map_map]
    rfl
  · simp only [decide_eq, hf.classify_eq]

theorem evaluate_eq_verdict_pattern :
    Search.Readable { patterns := [['b', '+']] } true ∧
      ∃ s m, (Search.prepare { patterns := [['b', '+']] } true []).1 = .ok s ∧
        (evaluate { caseSensitive := true } [⟨['a', '/', 'b'], ['b'], .file, some ['a'], []⟩,
          ⟨['a'], ['a'], .folder, none, []⟩] { patterns := [['b', '+']] } []).1 = .ok m ∧
        m.map Prod.fst = [['a', '/', 'b'], ['a']] := by
  have hr : Search.Readable { patterns := [['b', '+']] } true := fun t ht => by
    obtain rfl := List.mem_singleton.mp ht
    exact ⟨_, rfl⟩
  obtain ⟨s, hs, -, hmap⟩ := evaluate_eq_verdict { caseSensitive := true }
    [⟨['a', '/', 'b'], ['b'], .file, some ['a'], []⟩, ⟨['a'], ['a'], .folder, none, []⟩]
    { patterns := [['b', '+']] } [] rfl hr
  have hgroups : ∀ p ∈ s.patterns, p.groups = 0 := by
    obtain rfl : _ = s := Except.ok.inj hs
    decide
  obtain ⟨m, hm, hk, -⟩ := hmap (Search.stumblesNowhere_of_groups hgroups _)
  exact ⟨hr, s, m, hs, hm, hk.trans (by decide)⟩

/-- A query with a well-formed pattern, and a file on which the search for it fails: the edges of the
group in the rounds have crossed. -/
theorem evaluate_crossed :
    Search.Readable { patterns := ["((x)|y|z)*+".toList] } false ∧
      (evaluate {} [⟨"xyz".toList, "xyz".toList, .file, some root, []⟩]
        { patterns := ["((x)|y|z)*+".toList] } []).1 = .error .crossed := by
  have hr : Search.Readable { patterns := ["((x)|y|z)*+".toList] } false :=
    List.forall_mem_singleton.mpr (Regex.isSettled_iff (k := (_, _)).mp (by decide +kernel))
  refine ⟨hr, ?_⟩
  rw [evaluate_fst rfl (Search.prepare_of_faithful Regex.Cache.faithful_nil hr)]
  exact answer_of_stumbles List.mem_cons_self (by decide) (by decide +kernel)

end Filter

end TreeSieve
