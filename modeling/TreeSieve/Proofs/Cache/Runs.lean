import TreeSieve.Proofs.Classification

/-!
# Proofs — Cache — Runs

A cache that is shared by many uses, one after the other: patterns are read through it, passes are
made with it, some of which fail halfway, and now and then it is cleared (`Use`).

Whatever a use does to a cache, it does by reading patterns through it (`Use.run_snd`), and which
ones these are can be told without the cache (`Use.requests`).  So what one such reading leaves behind
(`Kept.get`) says what a run leaves behind (`kept_after`): the patterns that were asked for since the
cache was last cleared, each once, with the outcome of being read.

* `after_transparent`: after any run, the cache keeps just those outcomes, loses none of them but by
  being cleared, and gives each use the answer that it has with a cache of its own.
-/

namespace TreeSieve

namespace Regex

variable {flags : Flags} {t : Text}

theorem read?_eq_ok_some {p : Pattern} : read? flags t = .ok (some p) ↔ read flags t = .ok p := by
  unfold read?
  split <;> simp_all

theorem read?_eq_ok_none :
    read? flags t = .ok none ↔ ∃ m, read flags t = .error (.mistake m) := by
  unfold read?
  split <;> simp_all

/-- A failure of reading that is kept by no cache is no mistake. -/
theorem read?_eq_error {e : Failure} :
    read? flags t = .error e ↔ read flags t = .error e ∧ ∀ m, e ≠ .mistake m := by
  unfold read?
  split
  · next hr => simp [hr]
  · next m hr =>
    rw [hr]
    constructor
    · intro h
      cases h
    · rintro ⟨h, hne⟩
      cases h
      exact absurd rfl (hne m)
  · next hne hr =>
    rw [hr]
    constructor
    · intro h
      cases h
      exact ⟨rfl, hne⟩
    · rintro ⟨h, -⟩
      cases h
      rfl

theorem pattern?_eq_some {p : Pattern} : pattern? flags t = some p ↔ read flags t = .ok p := by
  rw [← read?_eq_ok_some, pattern?]
  split <;> simp_all

theorem isSettled_eq_false {e : Failure} (h : read? flags t = .error e) :
    isSettled (t, flags) = false := by
  rw [Bool.eq_false_iff, ne_eq, isSettled_iff]
  rintro ⟨p?, hp⟩
  rw [h] at hp
  cases hp

namespace Cache

/-! ### Many readings -/

/-- The cache after patterns have been read through it, one after the other. -/
def getAll (c : Cache) (ks : List (Text × Flags)) : Cache := ks.foldl (fun c k => (c.get k.1 k.2).2) c

/-- A cache that keeps just what reading these patterns gives: each of them that is settled, once, in
the order in which they first come. -/
structure Kept (ks : List (Text × Flags)) (c : Cache) : Prop where
  outcome : ∀ e ∈ c, read? e.1.2 e.1.1 = .ok e.2
  keys : c.map Prod.fst = (ks.filter isSettled).eraseDups

theorem kept_nil : Kept [] [] := ⟨fun _ h => absurd h List.not_mem_nil, rfl⟩

theorem mem_of_lookup {c : Cache} {k : Text × Flags} {p? : Option Pattern}
    (h : c.lookup k = some p?) : (k, p?) ∈ c := by
  obtain ⟨l₁, l₂, rfl, -⟩ := List.lookup_eq_some_iff.mp h
  exact List.mem_append_right l₁ List.mem_cons_self

namespace Kept

variable {ks : List (Text × Flags)} {c : Cache}

theorem faithful (h : Kept ks c) : c.Faithful := fun t flags p? hl =>
  h.outcome ((t, flags), p?) (mem_of_lookup hl)

theorem mem_keys (h : Kept ks c) {k : Text × Flags} :
    k ∈ c.map Prod.fst ↔ k ∈ ks ∧ isSettled k = true := by
  rw [h.keys, List.mem_eraseDups, List.mem_filter]

/-- What one reading leaves behind. -/
theorem get (h : Kept ks c) (t : Text) (flags : Flags) :
    Kept (ks ++ [(t, flags)]) (c.get t flags).2 := by
  have hkeys : ((ks ++ [(t, flags)]).filter isSettled).eraseDups =
      if isSettled (t, flags) = true ∧ (t, flags) ∉ c.map Prod.fst then
        c.map Prod.fst ++ [(t, flags)] else c.map Prod.fst := by
    rw [List.filter_append]
    by_cases hs : isSettled (t, flags) = true
    · rw [List.filter_cons_of_pos hs, List.filter_nil, List.eraseDups_concat, ← h.keys]
      simp only [hs, true_and, h.mem_keys, List.mem_filter, and_true]
      split <;> simp_all
    · rw [List.filter_cons_of_neg hs, List.filter_nil, List.append_nil]
      rw [← h.keys, if_neg fun hn => hs hn.1]
  unfold Cache.get
  split
  · -- a pattern that is kept has been asked for before
    next p? hl =>
    have hmem : (t, flags) ∈ c.map Prod.fst := List.mem_map_of_mem (mem_of_lookup hl)
    exact ⟨h.outcome, by rw [hkeys, if_neg fun hn => hn.2 hmem]⟩
  · next hl =>
    have hmem := lookup_eq_none_iff_key.mp hl
    split
    · next p? hr =>
      have hs : isSettled (t, flags) = true := isSettled_iff.mpr ⟨p?, hr⟩
      refine ⟨fun e he => ?_, by rw [hkeys, if_pos ⟨hs, hmem⟩, List.map_append]; rfl⟩
      rcases List.mem_append.mp he with he | he
      · exact h.outcome e he
      · rw [List.mem_singleton.mp he]
        exact hr
    · -- a failure is not kept, and what failed is not settled
      next e hr =>
      have hs : ¬ isSettled (t, flags) = true := by
        rw [isSettled_eq_false hr]
        exact Bool.false_ne_true
      exact ⟨h.outcome, by rw [hkeys, if_neg fun hn => hs hn.1]⟩

theorem getAll (h : Kept ks c) (ls : List (Text × Flags)) : Kept (ks ++ ls) (c.getAll ls) := by
  induction ls generalizing ks c with
  | nil => rwa [List.append_nil]
  | cons k ls ih =>
    have hstep := ih (h.get k.1 k.2)
    rwa [List.append_assoc] at hstep

end Kept

/-- A reading keeps what is there. -/
theorem lookup_get {c : Cache} {k : Text × Flags} {p? : Option Pattern} (h : c.lookup k = some p?)
    (t : Text) (flags : Flags) : (c.get t flags).2.lookup k = some p? := by
  unfold Cache.get
  split
  · exact h
  · split
    · rw [List.lookup_append, h]
      rfl
    · exact h

theorem lookup_getAll {c : Cache} {k : Text × Flags} {p? : Option Pattern}
    (h : c.lookup k = some p?) (ks : List (Text × Flags)) : (c.getAll ks).lookup k = some p? := by
  induction ks generalizing c with
  | nil => exact h
  | cons j ks ih => exact ih (lookup_get h j.1 j.2)

end Cache

end Regex

/-! ### Patterns and passes -/

namespace Search

open Regex (Cache pattern? read? isSettled)

variable {flags : Regex.Flags} {ts : List Text} {c : Cache}

/-- The patterns that are asked for when a list of them is read: all up to the first failure. -/
def asked (flags : Regex.Flags) : List Text → List (Text × Regex.Flags)
  | [] => []
  | t :: ts => (t, flags) :: if isSettled (t, flags) then asked flags ts else []

/-- Reading patterns through a faithful cache asks for patterns up to the first failure. -/
theorem readPatterns_snd (hc : c.Faithful) :
    (readPatterns flags ts c).2 = c.getAll (asked flags ts) := by
  induction ts generalizing c with
  | nil => rfl
  | cons t ts ih =>
    have hfst := hc.get_fst t flags
    have hsnd := hc.get_snd t flags fun _ => true
    rw [asked, Cache.getAll, List.foldl_cons]
    rcases hg : c.get t flags with ⟨r, d⟩
    rw [hg] at hfst hsnd
    -- the cache is faithful, so the cases are those of reading without it
    cases hr : read? flags t with
    | error e =>
      have hs : isSettled (t, flags) = false := Regex.isSettled_eq_false hr
      obtain rfl : r = .error e := hfst.trans hr
      rw [readPatterns, hg, hs]
      rfl
    | ok p? =>
      have hs : isSettled (t, flags) = true := Regex.isSettled_iff.mpr ⟨p?, hr⟩
      obtain rfl : r = .ok p? := hfst.trans hr
      rw [readPatterns, hg, if_pos hs]
      exact ih hsnd

theorem prepare_snd (hc : c.Faithful) (q : Query) (cs : Bool) :
    (prepare q cs c).2 = c.getAll (asked (Search.flags cs) q.patterns) := by
  simp only [prepare, readPatterns_snd hc]

/-- A pattern with a mistake matches nothing. -/
theorem hasPattern_ofQuery {q : Query} {cs : Bool} {i : Item} :
    (ofQuery q cs).hasPattern i = true ↔ ∃ t ∈ q.patterns, ∃ p,
      Regex.read (Search.flags cs) t = .ok p ∧
        (p.finds i.matchName = true ∨ p.finds i.path = true) := by
  simp only [hasPattern, ofQuery, List.any_eq_true, List.mem_filterMap, Regex.pattern?_eq_some,
    Bool.or_eq_true]
  constructor
  · rintro ⟨p, ⟨t, ht, hp⟩, hi⟩
    exact ⟨t, ht, p, hp, hi⟩
  · rintro ⟨t, ht, p, hp, hi⟩
    exact ⟨p, ⟨t, ht, hp⟩, hi⟩

/-- When all patterns have mistakes, nothing is accepted. -/
theorem accepts_of_mistaken {q : Query} {cs : Bool} (hne : q.patterns ≠ [])
    (h : ∀ t ∈ q.patterns, ∃ m, Regex.read (Search.flags cs) t = .error (.mistake m)) (i : Item) :
    (ofQuery q cs).accepts i = false := by
  have hpattern : (ofQuery q cs).hasPattern i = false := by
    rw [Bool.eq_false_iff, ne_eq, hasPattern_ofQuery]
    rintro ⟨t, ht, p, hp, -⟩
    obtain ⟨m, hm⟩ := h t ht
    rw [hm] at hp
    cases hp
  have hgate : gate q.patterns false = false := by simp [gate, hne]
  simp [accepts, admits, hpattern, show (ofQuery q cs).query = q from rfl, hgate]

end Search

namespace Filter

open Regex (Cache)

/-- The outcome of a pass without a cache. -/
def outcome (settings : Settings) (items : List Item) (q : Query)
    (hasRoom : Text → Bool := fun _ => true) : Except Regex.Failure DecisionMap :=
  if q.isBlank then .ok []
  else match Search.failure? hasRoom (Search.flags settings.caseSensitive) q.patterns with
    | some e => .error e
    | none => answer (Search.ofQuery q settings.caseSensitive) items

/-- The patterns that a pass asks for. -/
def requests (settings : Settings) (q : Query) : List (Text × Regex.Flags) :=
  if q.isBlank then [] else Search.asked (Search.flags settings.caseSensitive) q.patterns

variable {c : Cache} (settings : Settings) (items : List Item) (q : Query)

/-- A pass through a faithful cache gives what it gives without one, where there is room for what the
cache keeps. -/
theorem evaluate_fst_within (hc : c.Faithful) (hasRoom : Text → Bool) :
    (evaluate settings items q c hasRoom).1 =
      outcome settings items q (c.roomFor (Search.flags settings.caseSensitive) hasRoom) := by
  unfold evaluate outcome
  by_cases hq : q.isBlank = true
  · rw [if_pos hq, if_pos hq]
  · rw [if_neg hq, if_neg hq]
    simp only [Search.prepare_eq hc]
    cases Search.failure? (c.roomFor (Search.flags settings.caseSensitive) hasRoom)
      (Search.flags settings.caseSensitive) q.patterns <;> rfl

/-- A pass through a faithful cache gives what it gives without one, and changes the cache by its
requests alone. -/
theorem evaluate_eq (hc : c.Faithful) :
    evaluate settings items q c = (outcome settings items q, c.getAll (requests settings q)) := by
  refine Prod.ext ?_ ?_
  · rw [evaluate_fst_within settings items q hc, Cache.roomFor_true]
  · unfold evaluate requests
    by_cases hq : q.isBlank = true
    · rw [if_pos hq, if_pos hq]
      rfl
    · rw [if_neg hq, if_neg hq]
      exact Search.prepare_snd hc q settings.caseSensitive

end Filter

/-! ### Uses of a cache -/

namespace Regex.Cache

/-- A use of a cache: a pattern is read, the cache is cleared, or a pass is made. -/
inductive Use where
  | get (t : Text) (flags : Flags)
  | clear
  | pass (settings : Settings) (items : List Item) (query : Query)

/-- What a use answers. -/
inductive Answer where
  | pattern (r : Except Failure (Option Pattern))
  | cleared
  | decisions (r : Except Failure DecisionMap)

namespace Use

/-- A use of a cache, with the cache behind it. -/
def run (c : Cache) : Use → Answer × Cache
  | get t flags => (.pattern (c.get t flags).1, (c.get t flags).2)
  | clear => (.cleared, [])
  | pass settings items q =>
    (.decisions (Filter.evaluate settings items q c).1, (Filter.evaluate settings items q c).2)

/-- The answer of a use without a cache. -/
def answer : Use → Answer
  | get t flags => .pattern (read? flags t)
  | clear => .cleared
  | pass settings items q => .decisions (Filter.outcome settings items q)

/-- The patterns that a use asks for. -/
def requests : Use → List (Text × Flags)
  | get t flags => [(t, flags)]
  | clear => []
  | pass settings _ q => Filter.requests settings q

/-- The patterns that have been asked for since the cache was last cleared, when those in `ks` had
been asked for before a use. -/
def requested (ks : List (Text × Flags)) : Use → List (Text × Flags)
  | clear => []
  | u => ks ++ u.requests

variable {c : Cache}

theorem run_fst (hc : c.Faithful) (u : Use) : (u.run c).1 = u.answer := by
  cases u with
  | get t flags => rw [run, hc.get_fst, answer]
  | clear => rfl
  | pass settings items q => rw [run, Filter.evaluate_eq settings items q hc, answer]

theorem run_snd (hc : c.Faithful) {u : Use} (hu : u ≠ .clear) : (u.run c).2 = c.getAll u.requests := by
  cases u with
  | get t flags => rfl
  | clear => exact absurd rfl hu
  | pass settings items q => rw [run, Filter.evaluate_eq settings items q hc, requests]

end Use

/-- The cache after uses, from an empty one on. -/
def after (us : List Use) : Cache := us.foldl (fun c u => (u.run c).2) []

/-- The patterns that uses have asked for since the cache was last cleared. -/
def requested (us : List Use) : List (Text × Flags) := us.foldl Use.requested []

/-- What a use leaves behind. -/
theorem Kept.run {ks : List (Text × Flags)} {c : Cache} (h : Kept ks c) (u : Use) :
    Kept (u.requested ks) (u.run c).2 := by
  -- a use that does not clear the cache is a list of readings
  by_cases hu : u = .clear
  · subst hu
    exact kept_nil
  · have hks : u.requested ks = ks ++ u.requests := by cases u <;> first | rfl | exact absurd rfl hu
    rw [hks, Use.run_snd h.faithful hu]
    exact h.getAll u.requests

/-- What a run leaves behind. -/
theorem kept_after (us : List Use) : Kept (requested us) (after us) := by
  -- induction from the end: the last use meets the cache that the others leave
  induction us using List.reverseRecOn with
  | nil => exact kept_nil
  | append_singleton us u ih =>
    rw [requested, after, List.foldl_concat, List.foldl_concat]
    exact ih.run u

/-- **A shared cache changes nothing.**  After any uses of a cache, each entry is the outcome of
reading its pattern, which is missing when that has a mistake.  The entries are those patterns that
were asked for since the cache was last cleared and that could be read or had a mistake, each once.
The next use answers what it answers with a cache of its own, and unless it clears the cache every
entry stays as it is.  A query whose patterns all are settled is made ready, in such a way that
patterns with a mistake match nothing and that nothing is accepted when there are no others. -/
theorem after_transparent (us : List Use) :
    (∀ t flags p?, ((t, flags), p?) ∈ after us →
      (∀ p, p? = some p ↔ read flags t = .ok p) ∧
      (p? = none ↔ ∃ m, read flags t = .error (.mistake m))) ∧
    (after us).map Prod.fst = ((requested us).filter isSettled).eraseDups ∧
    (after us).length = ((requested us).filter isSettled).eraseDups.length ∧
    (∀ u : Use, (u.run (after us)).1 = (u.run []).1 ∧
      (u ≠ .clear → ∀ k p?, (after us).lookup k = some p? →
        (u.run (after us)).2.lookup k = some p?)) ∧
    ∀ (q : Query) (cs : Bool), (∀ t ∈ q.patterns, isSettled (t, Search.flags cs) = true) →
      ∃ s, (Search.prepare q cs (after us)).1 = .ok s ∧ ∀ i,
        (s.hasPattern i = true ↔ ∃ t ∈ q.patterns, ∃ p, read (Search.flags cs) t = .ok p ∧
          (p.finds i.matchName = true ∨ p.finds i.path = true)) ∧
        (q.patterns ≠ [] → (∀ t ∈ q.patterns, ∃ m, read (Search.flags cs) t = .error (.mistake m)) →
          s.accepts i = false) := by
  have hkept := kept_after us
  have hfaithful := hkept.faithful
  refine ⟨fun t flags p? he => ?_, hkept.keys, ?_, fun u => ⟨?_, fun hu k p? hk => ?_⟩,
    fun q cs hq => ⟨Search.ofQuery q cs, ?_, fun i =>
      ⟨Search.hasPattern_ofQuery, fun hne hm => Search.accepts_of_mistaken hne hm i⟩⟩⟩
  · have hr : read? flags t = .ok p? := hkept.outcome _ he
    refine ⟨fun p => ?_, ?_⟩
    · rw [← read?_eq_ok_some, hr, Except.ok.injEq]
    · rw [← read?_eq_ok_none, hr, Except.ok.injEq]
  · rw [← hkept.keys, List.length_map]
  · rw [u.run_fst hfaithful, u.run_fst faithful_nil]
  · rw [Use.run_snd hfaithful hu]
    exact lookup_getAll hk u.requests
  · exact Search.prepare_of_faithful hfaithful fun t ht => isSettled_iff.mp (hq t ht)

/-- A pass that fails at its second pattern leaves the first one behind, and no third. -/
example :
    (after [.get ['('] {}, .pass {} [] { patterns := [['a'], "b\x7b4294967295\x7d".toList, ['c']] }]).map
      (fun e => (e.1.1, e.2.isSome)) = [(['('], false), (['a'], true)] := by
  decide

end Regex.Cache

end TreeSieve
