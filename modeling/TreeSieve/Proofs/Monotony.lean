import TreeSieve.Proofs.Classification
import TreeSieve.Proofs.Criteria

/-!
# Proofs — Monotony

How the decisions of a pass follow the values of its query.

When a search accepts fewer items than another, no decision of its pass says more (`Weaker`): the
folders on the way are fewer too, and each rule that shows an item under the one applies, or a
stronger one does, under the other (`compares_decide`).

* `evaluate_of_criteria`: values that rule out, and values in gates without any, leave fewer matches
  and fewer items shown; values in gates that have some leave more; the order and the repetition of
  values, and content values, change nothing.
-/

namespace TreeSieve.Filter

open TreeSieve.Path (root ancestors)

variable {s t : Search} {items : List Item}

/-- A decision that says no more than another: a match stays a match, what is shown stays shown. -/
def Weaker (d e : Decision) : Prop :=
  (d.isDirect = true → e.isDirect = true) ∧ (d.shown = true → e.shown = true)

/-- No more matches, and no more is shown. -/
structure NoMore (m n : DecisionMap) : Prop where
  direct : ∀ p d, m.get? p = some d → d.isDirect = true →
    ∃ e, n.get? p = some e ∧ e.isDirect = true
  shown : ∀ p d, m.get? p = some d → d.shown = true → ∃ e, n.get? p = some e ∧ e.shown = true
  count : m.countMatches ≤ n.countMatches

/-! ### Fewer items accepted -/

section

variable (h : ∀ i, s.accepts i = true → t.accepts i = true)
include h

/-- A search that accepts more matches more folders. -/
theorem matchedFolders_mono : matchedFolders s items ⊆ matchedFolders t items := by
  intro p hp
  obtain ⟨i, hi, hip, hr, hf, ha⟩ := mem_matchedFolders.mp hp
  exact mem_matchedFolders.mpr ⟨i, hi, hip, hr, hf, h i ha⟩

/-- A search that accepts more accepts more files. -/
theorem acceptedFiles_mono : acceptedFiles s items ⊆ acceptedFiles t items := by
  intro i hi
  obtain ⟨hi, hr, hf, ha⟩ := mem_acceptedFiles.mp hi
  exact mem_acceptedFiles.mpr ⟨hi, hr, hf, h i ha⟩

theorem matchedFiles_mono : matchedFiles s items ⊆ matchedFiles t items :=
  List.map_subset _ (acceptedFiles_mono h)

/-- With more files found, more folders lie on the way to one. -/
theorem onTheWay_mono : onTheWay s items ⊆ onTheWay t items := by
  have hplaces : matchedPlaces s items ⊆ matchedPlaces t items :=
    List.map_subset _ (acceptedFiles_mono h)
  intro p hp
  rcases mem_onTheWay.mp hp with hp | ⟨q, hq, hp⟩ | ⟨q, hq, hp⟩
  · exact mem_onTheWay.mpr (.inl (hplaces hp))
  · exact mem_onTheWay.mpr (.inr (.inl ⟨q, hplaces hq, hp⟩))
  · exact mem_onTheWay.mpr (.inr (.inr ⟨q, matchedFolders_mono h hq, hp⟩))

/-- Each verdict is at least as strong when the search accepts more. -/
theorem weaker_verdict (x : Item) : Weaker (verdict s items x) (verdict t items x) := by
  constructor
  · intro hd
    exact isDirect_verdict.mpr ((isDirect_verdict.mp hd).imp (matchedFolders_mono h ·)
      (matchedFiles_mono h ·))
  · intro hs
    rcases shown_verdict.mp hs with hm | hm | ⟨hf, hm⟩ | ⟨hr, hm⟩
    · exact shown_verdict.mpr (.inl (matchedFolders_mono h hm))
    · exact shown_verdict.mpr (.inr (.inl (matchedFiles_mono h hm)))
    · exact shown_verdict.mpr (.inr (.inr (.inl ⟨hf, onTheWay_mono h hm⟩)))
    · exact shown_verdict.mpr (.inr (.inr (.inr ⟨hr, matchedFolders_mono h hm⟩)))

theorem compares_decide : DecisionMap.Compares Weaker (decide s items) (decide t items) := by
  rw [decide_eq, decide_eq]
  refine DecisionMap.Compares.ofList ?_
  rw [DecisionMap.Compares, List.forall₂_map_left_iff, List.forall₂_map_right_iff,
    List.forall₂_same]
  exact fun x _ => ⟨rfl, weaker_verdict h x⟩

/-- **The pass of a search that accepts less** finds no more and shows no more. -/
theorem noMore_decide : NoMore (decide s items) (decide t items) where
  direct p d hd hdir := by
    obtain ⟨e, he, hR⟩ := (compares_decide h).get? hd
    exact ⟨e, he, hR.1 hdir⟩
  shown p d hd hsh := by
    obtain ⟨e, he, hR⟩ := (compares_decide h).get? hd
    exact ⟨e, he, hR.2 hsh⟩
  count := (compares_decide h).countMatches_le fun _ _ hR => hR

end

/-- Searches that accept the same items decide alike. -/
theorem decide_congr (h : ∀ i, s.accepts i = t.accepts i) : decide s items = decide t items := by
  simp only [decide, find, accepted, h]

/-! ### Two queries -/

/-- The patterns of a query raise nothing: they can be read or are mistaken, and the search for them
stumbles over none of the items. -/
structure Runs (settings : Settings) (items : List Item) (q : Query) : Prop where
  readable : Search.Readable q settings.caseSensitive
  clear : (Search.ofQuery q settings.caseSensitive).StumblesNowhere items

/-- A pass that runs gives the map of its search, whatever the cache keeps. -/
theorem evaluate_of_runs {settings : Settings} {q : Query} {c : Regex.Cache}
    (hq : q.isBlank = false) (hc : c.Faithful) (h : Runs settings items q) :
    (evaluate settings items q c).1 =
      .ok (decide (Search.ofQuery q settings.caseSensitive) items) :=
  evaluate_of_stumblesNowhere hq (Search.prepare_of_faithful hc h.readable) h.clear

/-- **How a pass follows the values of its query.**  Take two queries that are not blank and whose
patterns raise nothing, and the same items and settings.  When the second narrows the first, it finds
no more and shows no more; when it widens the first, no less; when it has the same criteria, the
decisions are the same. -/
theorem evaluate_of_criteria (settings : Settings) (items : List Item) (q r : Query)
    (c c' : Regex.Cache) (hq : q.isBlank = false) (hr : r.isBlank = false)
    (hqr : Runs settings items q) (hrr : Runs settings items r) (hc : c.Faithful)
    (hc' : c'.Faithful) :
    ∃ m n, (evaluate settings items q c).1 = .ok m ∧ (evaluate settings items r c').1 = .ok n ∧
      (q.Narrows r → NoMore n m) ∧ (q.Widens r → NoMore m n) ∧ (q.SameCriteria r → m = n) := by
  have hm := evaluate_of_runs hq hc hqr
  have hn := evaluate_of_runs hr hc' hrr
  refine ⟨_, _, hm, hn, fun h => ?_, fun h => ?_, fun h => ?_⟩
  · exact noMore_decide fun _ => Search.accepts_of_narrows h
  · exact noMore_decide fun _ => Search.accepts_of_widens h
  · exact decide_congr fun _ => Search.accepts_of_sameCriteria h

theorem evaluate_of_criteria_pattern :
    Runs { caseSensitive := true } [⟨['a', 'b'], ['a', 'b'], .file, none, []⟩]
        { terms := [['a']] } ∧
      Runs { caseSensitive := true } [⟨['a', 'b'], ['a', 'b'], .file, none, []⟩]
        { terms := [['a']], ruleOutTags := [['x']], patterns := [['b', '+']] } ∧
      Query.Narrows { terms := [['a']] }
        { terms := [['a']], ruleOutTags := [['x']], patterns := [['b', '+']] } ∧
      ∃ m n, (evaluate { caseSensitive := true } [⟨['a', 'b'], ['a', 'b'], .file, none, []⟩]
          { terms := [['a']] } []).1 = .ok m ∧
        (evaluate { caseSensitive := true } [⟨['a', 'b'], ['a', 'b'], .file, none, []⟩]
          { terms := [['a']], ruleOutTags := [['x']], patterns := [['b', '+']] } []).1 = .ok n ∧
        NoMore n m := by
  have hq : Runs { caseSensitive := true } [⟨['a', 'b'], ['a', 'b'], .file, none, []⟩]
      { terms := [['a']] } :=
    ⟨fun _ ht => absurd ht List.not_mem_nil,
      Search.stumblesNowhere_of_groups (fun _ hp => absurd hp List.not_mem_nil) _⟩
  have hr : Runs { caseSensitive := true } [⟨['a', 'b'], ['a', 'b'], .file, none, []⟩]
      { terms := [['a']], ruleOutTags := [['x']], patterns := [['b', '+']] } := by
    refine ⟨fun t ht => ?_, Search.stumblesNowhere_of_groups (by decide) _⟩
    obtain rfl := List.mem_singleton.mp ht
    exact ⟨_, rfl⟩
  have hnarrows : Query.Narrows { terms := [['a']] }
      { terms := [['a']], ruleOutTags := [['x']], patterns := [['b', '+']] } := by
    refine ⟨fun f => ?_, fun g => ?_⟩
    · cases f <;> exact List.nil_subset _
    · cases g with
      | term => exact .inr fun _ => Iff.rfl
      | _ => exact .inl rfl
  obtain ⟨m, n, hm, hn, h, -⟩ := evaluate_of_criteria { caseSensitive := true }
    [⟨['a', 'b'], ['a', 'b'], .file, none, []⟩] { terms := [['a']] }
    { terms := [['a']], ruleOutTags := [['x']], patterns := [['b', '+']] } [] [] rfl rfl hq hr
    Regex.Cache.faithful_nil Regex.Cache.faithful_nil
  exact ⟨hq, hr, hnarrows, m, n, hm, hn, h hnarrows⟩

end TreeSieve.Filter
