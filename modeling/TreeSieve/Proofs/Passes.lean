import TreeSieve.Proofs.Cache.Runs
import TreeSieve.Proofs.Query.Reading

/-!
# Proofs — Passes

When a pass of a query text fails.

Any text can be read as a query, and any query can be put to any items.  What can fail is the reading
of its patterns: not by a mistake, which only leaves the pattern without a match, but by a number of
rounds beyond the limits, by two alphabets at once, or for want of room.  And the search for a pattern
can fail on an item.

* `pass_ok_iff`: a pass gives a map of decisions just when no pattern of its text fails in one of these
  ways and the search stumbles over no item, whatever the cache has been used for before.
* `pass_tooManyRounds`: some texts make a pass fail.
-/

namespace TreeSieve.Filter

open TreeSieve.Path (root)
open Regex (Cache isSettled)

variable (us : List Cache.Use) (settings : Settings) (items : List Item) (text? : Option Text)
  (hasRoom : Text → Bool)

/-- The outcome of a pass is that of its query without a cache, where there is room for what the cache
keeps. -/
theorem pass_fst : (pass settings items text? (Cache.after us) hasRoom).1 =
    outcome settings items (Query.ofText? text?)
      ((Cache.after us).roomFor (Search.flags settings.caseSensitive) hasRoom) := by
  rw [pass, evaluate_fst_within settings items _ (Cache.kept_after us).faithful]

/-- A query of a text that is blank has no patterns. -/
theorem patterns_of_isBlank (h : (Query.ofText? text?).isBlank = true) :
    (Query.ofText? text?).patterns = [] := by
  cases text? with
  | none => rfl
  | some t =>
    by_cases ht : (Text.trim t).isEmpty = true
    · rw [Query.ofText?, Query.parse, if_pos ht]
      rfl
    · rw [Query.ofText?, Query.parse, if_neg ht] at h
      exact absurd h Bool.false_ne_true

/-- **When a pass gives a map.**  A pass of a text, through a cache that has been used in any way,
gives a map of decisions just when each pattern of the text can be read or has a mistake, there is room
for it or the cache keeps it, and the search stumbles over no item.  The map is empty when the text is
blank; otherwise it holds what the search decides, for which a pattern with a mistake matches nothing.
When there is no map, some pattern has no room, or fails and not by a mistake, or the search stumbles
over an item. -/
theorem pass_ok_iff :
    ((∃ m, (pass settings items text? (Cache.after us) hasRoom).1 = .ok m) ↔
      (∀ t ∈ (Query.ofText? text?).patterns,
        isSettled (t, Search.flags settings.caseSensitive) = true ∧ (hasRoom t = true ∨
          (t, Search.flags settings.caseSensitive) ∈ (Cache.after us).map Prod.fst)) ∧
      (Search.ofQuery (Query.ofText? text?) settings.caseSensitive).StumblesNowhere items) ∧
    (∀ m, (pass settings items text? (Cache.after us) hasRoom).1 = .ok m →
      m = [] ∧ (Query.ofText? text?).isBlank = true ∨
      ∃ s : Search, m = decide s items ∧ s.query = Query.ofText? text? ∧
        s.caseSensitive = settings.caseSensitive ∧ ∀ i,
        (s.hasPattern i = true ↔ ∃ t ∈ (Query.ofText? text?).patterns, ∃ p,
          Regex.read (Search.flags settings.caseSensitive) t = .ok p ∧
            (p.finds i.matchName = true ∨ p.finds i.path = true))) ∧
    ∀ e, (pass settings items text? (Cache.after us) hasRoom).1 = .error e →
      (e = .noRoom ∧ ∃ t ∈ (Query.ofText? text?).patterns, hasRoom t = false) ∨
      ((∀ m, e ≠ .mistake m) ∧ ∃ t ∈ (Query.ofText? text?).patterns,
        Regex.read (Search.flags settings.caseSensitive) t = .error e) ∨
      (e = .crossed ∧ ∃ i ∈ items, i.path ≠ root ∧
        (Search.ofQuery (Query.ofText? text?) settings.caseSensitive).stumbles i = true) := by
  rw [pass_fst, outcome]
  by_cases hq : (Query.ofText? text?).isBlank = true
  · have hnone := patterns_of_isBlank text? hq
    have hclear : (Search.ofQuery (Query.ofText? text?) settings.caseSensitive).StumblesNowhere
        items := Search.stumblesNowhere_of_groups (by simp [Search.ofQuery, hnone]) items
    rw [if_pos hq, hnone]
    refine ⟨iff_of_true ⟨[], rfl⟩ ⟨fun t ht => absurd ht List.not_mem_nil, hclear⟩, fun m hm => ?_,
      fun e he => by cases he⟩
    cases hm
    exact .inl ⟨rfl, hq⟩
  · have hreads : (∀ t ∈ (Query.ofText? text?).patterns,
        isSettled (t, Search.flags settings.caseSensitive) = true ∧ (hasRoom t = true ∨
          (t, Search.flags settings.caseSensitive) ∈ (Cache.after us).map Prod.fst)) ↔
        Search.failure? ((Cache.after us).roomFor (Search.flags settings.caseSensitive) hasRoom)
          (Search.flags settings.caseSensitive) (Query.ofText? text?).patterns = none := by
      simp only [Search.failure?_eq_none, Cache.roomFor_iff, Regex.isSettled_iff, and_comm]
    rw [if_neg hq, hreads]
    cases hf : Search.failure? ((Cache.after us).roomFor (Search.flags settings.caseSensitive) hasRoom)
        (Search.flags settings.caseSensitive) (Query.ofText? text?).patterns with
    | some e =>
      refine ⟨iff_of_false (by rintro ⟨m, hm⟩; cases hm) (by simp), fun m hm => (by cases hm),
        fun e' he => ?_⟩
      cases he
      obtain ⟨t, ht, hfails⟩ := Search.readWithin_of_failure? hf
      rcases Regex.readWithin_eq_error.mp hfails with ⟨-, hread⟩ | ⟨hroom, rfl⟩
      · obtain ⟨hread, hmistake⟩ := Regex.read?_eq_error.mp hread
        exact .inr (.inl ⟨hmistake, t, ht, hread⟩)
      · exact .inl ⟨rfl, t, ht, (Bool.or_eq_false_iff.mp hroom).1⟩
    | none =>
      rcases answer_cases (Search.ofQuery (Query.ofText? text?) settings.caseSensitive) items with
        ⟨hclear, hanswer⟩ | ⟨⟨i, hi, hroot, hstumbles⟩, hanswer⟩
      · refine ⟨iff_of_true ⟨_, hanswer⟩ ⟨rfl, hclear⟩, fun m hm => .inr ?_, fun e he => ?_⟩
        · obtain rfl := Except.ok.inj (hanswer.symm.trans hm)
          exact ⟨_, rfl, rfl, rfl, fun i => Search.hasPattern_ofQuery⟩
        · cases hanswer.symm.trans he
      · refine ⟨iff_of_false ?_ fun h => ?_, fun m hm => ?_, fun e he => .inr (.inr ?_)⟩
        · rintro ⟨m, hm⟩
          cases hanswer.symm.trans hm
        · cases hstumbles.symm.trans (h.2 i hi hroot)
        · cases hanswer.symm.trans hm
        · cases hanswer.symm.trans he
          exact ⟨rfl, i, hi, hroot, hstumbles⟩

/-- A text with a well-formed pattern for which there is no map: its number of rounds is too large. -/
theorem pass_tooManyRounds :
    (pass {} [⟨"a.md".toList, "a.md".toList, .file, some root, []⟩]
      (some "/x\x7b99999999999\x7d/".toList) []).1 = .error .tooManyRounds := by
  have hplain : Criterion.IsPlainBetween '/' "x\x7b99999999999\x7d".toList := by decide
  have hparse : Query.ofText? (some "/x\x7b99999999999\x7d/".toList) =
      { patterns := ["x\x7b99999999999\x7d".toList] } := Query.parse_pattern hplain
  rw [pass, hparse, evaluate_eq _ _ _ Cache.faithful_nil]
  rfl

end TreeSieve.Filter
