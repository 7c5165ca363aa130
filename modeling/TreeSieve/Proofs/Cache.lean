import TreeSieve.Search

/-!
# Proofs — Cache

A cache changes nothing about what reading a pattern gives, but for the room that this takes.

A cache is *faithful* (`Cache.Faithful`) when each pattern it keeps has the outcome of being read.
The empty cache is faithful, and reading through a faithful cache leaves one.  What such a cache keeps
needs no room: reading through it is reading where there is room for what it keeps as well
(`Cache.roomFor`), and that room stays the same from pattern to pattern (`Cache.roomFor_get`).

* `Cache.Faithful.get_fst`: through a faithful cache, a pattern has the outcome of being read.
* `Search.prepare_of_readable`: when each pattern of a query can be read or is mistaken, the query
  is made ready through any cache.
* `Search.prepare_eq`: through a faithful cache, a query fails with the first failure among its
  patterns, and when there is none it becomes `Search.ofQuery`, which knows of no cache.
-/

namespace TreeSieve

namespace Regex

variable {flags : Flags} {t : Text} {hasRoom : Text → Bool}

/-- A pattern whose reading ends with an expression or with a mistake. -/
def Readable (flags : Flags) (t : Text) : Prop := ∃ p?, read? flags t = .ok p?

/-- Whether reading a pattern ends with an expression or with a mistake, which caches keep. -/
def isSettled (k : Text × Flags) : Bool :=
  match read k.2 k.1 with
  | .ok _ | .error (.mistake _) => true
  | .error _ => false

/-- A pattern is settled when it can be read, or has a mistake. -/
theorem isSettled_iff {k : Text × Flags} : isSettled k = true ↔ Readable k.2 k.1 := by
  unfold isSettled Readable read?
  split <;> simp_all

/-- The pattern that a text is, if it is one. -/
def pattern? (flags : Flags) (t : Text) : Option Pattern :=
  match read? flags t with
  | .ok p? => p?
  | .error _ => none

/-- Reading within the room succeeds when there is room and reading does. -/
theorem readWithin_eq_ok {p? : Option Pattern} :
    readWithin hasRoom flags t = .ok p? ↔ hasRoom t = true ∧ read? flags t = .ok p? := by
  unfold readWithin
  split <;> simp_all

/-- Reading within the room fails as reading does, or for want of room. -/
theorem readWithin_eq_error {e : Failure} :
    readWithin hasRoom flags t = .error e ↔
      hasRoom t = true ∧ read? flags t = .error e ∨ hasRoom t = false ∧ e = .noRoom := by
  unfold readWithin
  cases hasRoom t with
  | true => simp
  | false => simpa using eq_comm

namespace Cache

/-- Each pattern that is kept has the outcome of being read. -/
def Faithful (cache : Cache) : Prop :=
  ∀ t flags p?, cache.lookup (t, flags) = some p? → read? flags t = .ok p?

/-- A cache that keeps nothing keeps nothing false. -/
theorem faithful_nil : Faithful [] := fun _ _ _ h => by cases h

/-- A pattern that can be read or is mistaken has an outcome through any cache. -/
theorem get_fst_of_readable (cache : Cache) (h : Readable flags t) :
    ∃ p?, (cache.get t flags).1 = .ok p? := by
  obtain ⟨p?, hp⟩ := h
  unfold get
  split
  · next q? _ => exact ⟨q?, rfl⟩
  · have hr : readWithin (fun _ => true) flags t = .ok p? := hp
    exact ⟨p?, by rw [hr]⟩

/-- The patterns for which there is room, with those that a cache keeps. -/
def roomFor (cache : Cache) (flags : Flags) (hasRoom : Text → Bool) (t : Text) : Bool :=
  hasRoom t || (cache.lookup (t, flags)).isSome

theorem roomFor_true (cache : Cache) (flags : Flags) :
    cache.roomFor flags (fun _ => true) = fun _ => true :=
  funext fun _ => Bool.true_or _

theorem lookup_eq_none_iff_key {cache : Cache} {k : Text × Flags} :
    cache.lookup k = none ↔ k ∉ cache.map Prod.fst := by
  rw [List.lookup_eq_none_iff]
  constructor
  · intro h hk
    obtain ⟨e, he, rfl⟩ := List.mem_map.mp hk
    exact absurd (beq_self_eq_true e.1) (by simpa using h e he)
  · intro h e he
    have hne : k ≠ e.1 := by
      rintro rfl
      exact h (List.mem_map_of_mem he)
    simpa using hne

/-- A pattern that the cache keeps needs no room. -/
theorem roomFor_iff {cache : Cache} :
    cache.roomFor flags hasRoom t = true ↔ hasRoom t = true ∨ (t, flags) ∈ cache.map Prod.fst := by
  rw [roomFor, Bool.or_eq_true, Option.isSome_iff_ne_none, ne_eq, lookup_eq_none_iff_key,
    Decidable.not_not]

/-- A pattern that has been read had room, and so keeping it makes no more room. -/
theorem roomFor_get {cache : Cache} {p? : Option Pattern}
    (h : (cache.get t flags hasRoom).1 = .ok p?) :
    (cache.get t flags hasRoom).2.roomFor flags hasRoom = cache.roomFor flags hasRoom := by
  unfold get at h ⊢
  split at h
  · rfl
  · next hnone =>
    split at h
    · next hr =>
      have hroom := (readWithin_eq_ok.mp hr).1
      funext u
      rw [roomFor, roomFor, List.lookup_append]
      by_cases hu : u = t
      · rw [hu, hroom, Bool.true_or, Bool.true_or]
      · have hne : ((u, flags) == (t, flags)) = false := by simp [hu]
        rw [List.lookup_cons, hne, List.lookup_nil, Option.or_none]
    · cases h

namespace Faithful

variable {cache : Cache}

/-- A faithful cache gives what reading within its room gives. -/
theorem get_fst_within (h : cache.Faithful) (t : Text) (flags : Flags) (hasRoom : Text → Bool) :
    (cache.get t flags hasRoom).1 = readWithin (cache.roomFor flags hasRoom) flags t := by
  unfold get
  split
  · next p? hl =>
    exact (readWithin_eq_ok.mpr ⟨by rw [roomFor, hl, Option.isSome_some, Bool.or_true],
      h t flags p? hl⟩).symm
  · next hl =>
    have hroom : readWithin (cache.roomFor flags hasRoom) flags t =
        readWithin hasRoom flags t := by
      rw [readWithin, readWithin, roomFor, hl, Option.isSome_none, Bool.or_false]
    rw [hroom]
    split
    · next hr => exact hr.symm
    · next hr => exact hr.symm

theorem get_fst (h : cache.Faithful) (t : Text) (flags : Flags) :
    (cache.get t flags).1 = read? flags t := by
  rw [h.get_fst_within, roomFor_true]
  rfl

/-- A faithful cache stays so. -/
theorem get_snd (h : cache.Faithful) (t : Text) (flags : Flags) (hasRoom : Text → Bool) :
    (cache.get t flags hasRoom).2.Faithful := by
  unfold get
  split
  · exact h
  · next hl =>
    split
    · next p? hr =>
      intro u f q? hu
      rw [List.lookup_append, Option.or_eq_some_iff] at hu
      rcases hu with hu | ⟨-, hu⟩
      · exact h u f q? hu
      · simp only [List.lookup_cons, List.lookup_nil] at hu
        split at hu
        · next he => cases eq_of_beq he; cases hu; exact (readWithin_eq_ok.mp hr).2
        · cases hu
    · exact h

end Faithful

end Cache

end Regex

namespace Search

open Regex (Cache pattern? readWithin)

variable {f : Regex.Flags} {hasRoom : Text → Bool} {cache : Cache} {ts : List Text} {q : Query}
  {cs : Bool}

/-- A query whose patterns all can be read or are mistaken. -/
def Readable (q : Query) (caseSensitive : Bool) : Prop :=
  ∀ t ∈ q.patterns, Regex.Readable (flags caseSensitive) t

/-- A query made ready without a cache; patterns that cannot be read are left out. -/
def ofQuery (q : Query) (caseSensitive : Bool) : Search :=
  ⟨q, caseSensitive, q.patterns.filterMap (pattern? (flags caseSensitive))⟩

/-! ### Through any cache -/

theorem readPatterns_cons {t : Text} (ts : List Text) {p? : Option Regex.Pattern}
    (h : (cache.get t f hasRoom).1 = .ok p?) :
    (readPatterns f (t :: ts) cache hasRoom).1 =
      (readPatterns f ts (cache.get t f hasRoom).2 hasRoom).1.map (p?.toList ++ ·) := by
  rw [readPatterns]
  rcases hg : cache.get t f hasRoom with ⟨r, c⟩
  rw [hg] at h
  cases h
  rfl

/-- Patterns that can be read are read through any cache. -/
theorem readPatterns_of_readable :
    ∀ {ts : List Text} (cache : Cache), (∀ t ∈ ts, Regex.Readable f t) →
      ∃ ps, (readPatterns f ts cache).1 = .ok ps
  | [], _, _ => ⟨[], rfl⟩
  | t :: ts, cache, h => by
    obtain ⟨p?, hp⟩ := cache.get_fst_of_readable (h t List.mem_cons_self)
    obtain ⟨ps, hps⟩ := readPatterns_of_readable (cache.get t f).2
      fun u hu => h u (List.mem_cons_of_mem t hu)
    refine ⟨p?.toList ++ ps, ?_⟩
    rw [readPatterns_cons ts hp, hps]
    rfl

/-- A query whose patterns can be read is made ready through any cache. -/
theorem prepare_of_readable (cache : Cache) (h : Readable q cs) :
    ∃ s, (prepare q cs cache).1 = .ok s := by
  obtain ⟨ps, hps⟩ := readPatterns_of_readable cache h
  exact ⟨⟨q, cs, ps⟩, by simp only [prepare, hps]; rfl⟩

/-- A query without patterns is made ready without a look at the cache. -/
theorem prepare_of_no_patterns (hq : q.patterns = []) (cs : Bool) (cache : Cache) :
    prepare q cs cache = (.ok (ofQuery q cs), cache) := by
  rw [prepare, ofQuery, hq]
  rfl

/-! ### Through a faithful cache -/

/-- The first failure among patterns; a mistake is none. -/
def failure? (hasRoom : Text → Bool) (f : Regex.Flags) (ts : List Text) : Option Regex.Failure :=
  ts.findSome? fun t => match readWithin hasRoom f t with
    | .ok _ => none
    | .error e => some e

theorem failure?_cons_ok {t : Text} {p? : Option Regex.Pattern} (h : readWithin hasRoom f t = .ok p?)
    (ts : List Text) : failure? hasRoom f (t :: ts) = failure? hasRoom f ts := by
  simp only [failure?, List.findSome?_cons, h]

theorem failure?_cons_error {t : Text} {e : Regex.Failure} (h : readWithin hasRoom f t = .error e)
    (ts : List Text) : failure? hasRoom f (t :: ts) = some e := by
  simp only [failure?, List.findSome?_cons, h]

/-- No pattern fails when there is room for all, and each can be read or is mistaken. -/
theorem failure?_eq_none :
    failure? hasRoom f ts = none ↔ ∀ t ∈ ts, hasRoom t = true ∧ Regex.Readable f t := by
  simp only [failure?, List.findSome?_eq_none_iff, Regex.Readable, ← exists_and_left,
    ← Regex.readWithin_eq_ok]
  refine forall₂_congr fun t _ => ?_
  cases readWithin hasRoom f t <;> simp

/-- The first failure among patterns is that of one of them. -/
theorem readWithin_of_failure? {e : Regex.Failure} (h : failure? hasRoom f ts = some e) :
    ∃ t ∈ ts, readWithin hasRoom f t = .error e := by
  obtain ⟨t, ht, he⟩ := List.exists_of_findSome?_eq_some h
  refine ⟨t, ht, ?_⟩
  split at he
  · cases he
  · next hr =>
    cases he
    exact hr

/-- Reading patterns through a faithful cache gives what it gives without one, where there is room
for what the cache keeps. -/
theorem readPatterns_fst (hc : cache.Faithful) :
    (readPatterns f ts cache hasRoom).1 = match failure? (cache.roomFor f hasRoom) f ts with
      | some e => .error e
      | none => .ok (ts.filterMap (pattern? f)) := by
  induction ts generalizing cache with
  | nil => rfl
  | cons t ts ih =>
    have hfst := hc.get_fst_within t f hasRoom
    cases hr : readWithin (cache.roomFor f hasRoom) f t with
    | error e =>
      rw [failure?_cons_error hr]
      rw [hr] at hfst
      rw [readPatterns]
      rcases hg : cache.get t f hasRoom with ⟨r, d⟩
      rw [hg] at hfst
      cases hfst
      rfl
    | ok p? =>
      have hok := hfst.trans hr
      have hpat : pattern? f t = p? := by rw [pattern?, (Regex.readWithin_eq_ok.mp hr).2]
      rw [readPatterns_cons ts hok, ih (hc.get_snd t f hasRoom), Cache.roomFor_get hok,
        failure?_cons_ok hr, List.filterMap_cons, hpat]
      cases failure? (cache.roomFor f hasRoom) f ts with
      | some e => rfl
      | none => cases p? <;> rfl

/-- **A query made ready through a faithful cache** fails with the first failure among its patterns,
and when there is none it knows of no cache. -/
theorem prepare_eq (hc : cache.Faithful) (q : Query) (cs : Bool) (hasRoom : Text → Bool) :
    (prepare q cs cache hasRoom).1 =
      match failure? (cache.roomFor (flags cs) hasRoom) (flags cs) q.patterns with
      | some e => .error e
      | none => .ok (ofQuery q cs) := by
  simp only [prepare, readPatterns_fst hc]
  cases failure? (cache.roomFor (flags cs) hasRoom) (flags cs) q.patterns <;> rfl

/-- Through a faithful cache a query is made ready as it is without one. -/
theorem prepare_of_faithful (hc : cache.Faithful) (h : Readable q cs) :
    (prepare q cs cache).1 = .ok (ofQuery q cs) := by
  rw [prepare_eq hc, Cache.roomFor_true, failure?_eq_none.mpr fun t ht => ⟨rfl, h t ht⟩]

end Search

end TreeSieve
