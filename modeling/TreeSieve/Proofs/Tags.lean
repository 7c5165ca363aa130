import TreeSieve.Proofs.Criteria
import TreeSieve.Proofs.Note
import TreeSieve.Proofs.Query.Reading
import TreeSieve.Proofs.Snapshot.Steps

/-!
# Proofs — Tags

A tag on its way from the body of a note to a search.  A run of tag characters is a tag in its normal
form, and behind `tag:` it is read as a value, since no blank ends it and no mark of it is taken away.

* `parse_tag`, `parse_minus_tag`: the queries for a tag and against it.
* `accepts_allowTag`, `accepts_ruleOutTag`: what such queries accept.
* `inlineTag_found`: an item with the tags of a note is found by each tag of its body.
-/

namespace TreeSieve

open Note (IsRun tags bodyTags split)

variable {t : Text}

/-! ### Queries -/

namespace Query

/-- Behind a head that makes a criterion of the facet, a tag is one piece. -/
theorem readsAs_tag {head : Text} {c : Criterion} (ht : IsRun t) (hhead : IsHead head)
    (hc : criterionOfOperator? (head ++ t) = some c) : ReadsAs c (head ++ t) := by
  refine readsAs_operator hhead (fun rest hr => ?_) hc
  refine operatorValue_bare ht.ne_nil (fun hquote => ?_) (fun _ hd => ht.isBlank_eq_false hd) hr
  exact ht.not_mem (by decide) (List.mem_of_mem_head? hquote)

/-- A run of tag characters is a value that nothing is taken away from. -/
theorem operatorCriterion?_tag (ht : IsRun t) (negated : Bool) :
    operatorCriterion? negated Facet.tag.keyword t =
      some (if negated then .ruleOut .tag t else .allow .tag t) := by
  have hclean : cleanValue t = t := cleanValue_bare ht.trim_eq fun hquote =>
    ht.not_mem (by decide) (List.mem_of_mem_head? hquote)
  exact operatorCriterion?_keyword hclean ht.ne_nil (fun _ => ht.normalize_eq) negated

/-- A query can ask for each tag that can stand in a text. -/
theorem parse_tag (ht : IsRun t) : parse ("tag:".toList ++ t) = { allowTags := [t] } := by
  have hletters := Facet.letters_keyword .tag
  have hc := (criterionOfOperator?_append hletters t).1
  rw [show Text.asciiLower Facet.tag.keyword = Facet.tag.keyword from rfl,
    operatorCriterion?_tag ht] at hc
  exact parse_of_readsAs (readsAs_tag ht (isHead_keyword (by decide) hletters) hc)

theorem parse_minus_tag (ht : IsRun t) : parse ("-tag:".toList ++ t) = { ruleOutTags := [t] } := by
  have hletters := Facet.letters_keyword .tag
  have hc := (criterionOfOperator?_append hletters t).2
  rw [show Text.asciiLower Facet.tag.keyword = Facet.tag.keyword from rfl,
    operatorCriterion?_tag ht] at hc
  exact parse_of_readsAs (readsAs_tag ht (isHead_minus_keyword (by decide) hletters) hc)

end Query

/-! ### Searches -/

namespace Search

variable {cs : Bool} {i : Item}

/-- A query for a tag accepts just the items that carry it. -/
theorem accepts_allowTag :
    (ofQuery { allowTags := [t] } cs).accepts i = true ↔ t ∈ i.tags := by
  rw [accepts_ofQuery]
  constructor
  · rintro ⟨-, hgates⟩
    obtain ⟨v, hv, hmeets⟩ := (hgates .tag).resolve_left (List.cons_ne_nil t [])
    obtain rfl := List.mem_singleton.mp hv
    exact List.contains_iff_mem.mp hmeets
  · intro ht
    refine ⟨fun f => ?_, fun g => ?_⟩
    · rintro ⟨v, hv, -⟩
      cases f <;> exact absurd hv List.not_mem_nil
    · cases g with
      | tag => exact .inr ⟨t, List.mem_singleton_self t, List.contains_iff_mem.mpr ht⟩
      | _ => exact .inl rfl

/-- A query against a tag accepts just the other items. -/
theorem accepts_ruleOutTag :
    (ofQuery { ruleOutTags := [t] } cs).accepts i = true ↔ t ∉ i.tags := by
  rw [accepts_ofQuery]
  constructor
  · rintro ⟨hbarred, -⟩ ht
    exact hbarred .tag ⟨t, List.mem_singleton_self t, List.contains_iff_mem.mpr ht⟩
  · intro ht
    refine ⟨fun f => ?_, fun g => .inl ?_⟩
    · rintro ⟨v, hv, hout⟩
      cases f with
      | tag =>
        obtain rfl := List.mem_singleton.mp hv
        exact ht (List.contains_iff_mem.mp hout)
      | _ => exact absurd hv List.not_mem_nil
    · cases g <;> rfl

end Search

/-! ### From the note to the search -/

/-- **Tags are found.**  Let a note have tags, and one of them stand in its body.  Then `tag:` in front
of it is the query for this tag alone, and `-tag:` the query against it alone.  There are files with
the tags of the note under every path that is not blank; and each file that is read with them, whatever
else its record holds, carries the tag, is accepted by the one query and not by the other: with case or
without, and with any cache, which stays as it is. -/
theorem Note.inlineTag_found {text : Text} {ts : List Text} (hts : tags text = .ok ts)
    (ht : t ∈ bodyTags (split text).2) :
    Query.parse ("tag:".toList ++ t) = { allowTags := [t] } ∧
    Query.parse ("-tag:".toList ++ t) = { ruleOutTags := [t] } ∧
    (∀ path name, Path.normalize path ≠ [] → name ≠ [] → ∃ i,
      Item.ofEntries (Snapshot.entryRecord path name ts) (some .file) = .ok i ∧ i.isFolder = false) ∧
    ∀ entries kind? i, Value.lookup entries "tags".toList = some (.set (ts.map .text)) →
      Item.ofEntries entries kind? = .ok i → i.isFolder = false → t ∈ i.tags ∧ ∀ cs cache,
        (∃ s, Search.prepare (Query.parse ("tag:".toList ++ t)) cs cache = (.ok s, cache) ∧
          s.accepts i = true) ∧
        ∃ s, Search.prepare (Query.parse ("-tag:".toList ++ t)) cs cache = (.ok s, cache) ∧
          s.accepts i = false := by
  have hrun : IsRun t := isRun_of_mem_bodyTags ht
  rw [Query.parse_tag hrun, Query.parse_minus_tag hrun]
  refine ⟨rfl, rfl, fun path name hpath hname => ?_, fun entries kind? i hset hread hfile => ?_⟩
  · have hitem := (@Snapshot.itemOf_eq_ok_iff .file path name ts _ hname).mpr ⟨hpath, rfl⟩
    exact ⟨_, Except.mapError_eq_ok.mp hitem, rfl⟩
  · have hmem : t ∈ i.tags := by
      rw [(Item.ofEntries_ok_iff.mp hread).tags_eq hfile hset, Item.mem_tagSet]
      exact ⟨hrun.ne_nil, t, mem_of_mem_bodyTags hts ht, hrun.normalize_eq⟩
    refine ⟨hmem, fun cs cache => ⟨⟨_, Search.prepare_of_no_patterns rfl cs cache, ?_⟩,
      ⟨_, Search.prepare_of_no_patterns rfl cs cache, ?_⟩⟩⟩
    · exact Search.accepts_allowTag.mpr hmem
    · rw [← Bool.not_eq_true, Search.accepts_ruleOutTag]
      exact not_not_intro hmem

theorem Note.inlineTag_found_nested :
    ∃ text ts t, tags text = .ok ts ∧ t ∈ bodyTags (split text).2 ∧
      Query.parse "tag:x/y-z".toList = { allowTags := [t] } ∧
      ∃ i, Item.ofEntries (Snapshot.entryRecord "n.md".toList "n.md".toList ts) (some .file) = .ok i ∧
        t ∈ i.tags := by
  have htags : tags "#b see #x/y-z.".toList = .ok ["b".toList, "x/y-z".toList] := by
    decide +kernel
  have hmem : "x/y-z".toList ∈ bodyTags (split "#b see #x/y-z.".toList).2 := by decide +kernel
  obtain ⟨hparse, -, hitem, hfound⟩ := inlineTag_found htags hmem
  obtain ⟨i, hread, hfile⟩ := hitem "n.md".toList "n.md".toList (by decide) (by decide)
  exact ⟨_, _, _, htags, hmem, hparse, i, hread, (hfound _ _ i rfl hread hfile).1⟩

end TreeSieve
