import TreeSieve.Proofs.Regex.Meaning

/-!
# Proofs — Regex — Matching

Backtracking finds what an expression means.  A rest of a match `Accepts` a set of places when it
finds exactly these, whatever is remembered; the program of a regular expression, in front of such a
rest, accepts the places from which the expression leads to one of them (`Node.accepts_program`).

What the matcher does to be fast has to be justified on the way: the next character that the
characters of a repetition wait for (`Foretold`), alternatives that are left out by their first
character (`Begins`), and rounds that do not get ahead, which are not made.

* `Node.accepts_program`: matching against meaning.
* `Pattern.finds_iff`: a pattern is found in a text when it leads from some place of the text.
-/

namespace TreeSieve.Regex

/-- The rest accepts the places that satisfy `P` and no others, whatever is remembered. -/
def Rest.Accepts (k : Rest) (P : Place → Prop) : Prop := ∀ p m, (k p m).found = true ↔ P p

/-- The step tries the rest at the places that a relation leads to. -/
def Step.Follows (s : Step) (R : Place → Place → Prop) : Prop :=
  ∀ k P, Rest.Accepts k P → Rest.Accepts (s k) fun p => ∃ q, R p q ∧ P q

theorem accepts_accept : Rest.Accepts accept fun _ => True :=
  fun _ _ => ⟨fun _ => trivial, fun _ => rfl⟩

namespace Outcome

@[simp] theorem found_fail (m : Memory) : (fail m).found = false := rfl

@[simp] theorem found_lookBack (p : Place) (o : Outcome) : (o.lookBack p).found = o.found := by
  simp only [lookBack]
  split
  · rfl
  · next h => simpa using h

@[simp] theorem found_orElse (o : Outcome) (other : Memory → Outcome) :
    (o.orElse other).found = (o.found || (other o.memory).found) := by
  simp only [orElse]
  split
  · next h => simp [h]
  · next h => simp [h]

end Outcome

/-! ### Repetitions of one character -/

/-- The next character of a place has a code point. -/
def Place.HasNext (code : Nat) (p : Place) : Prop := p.after.head?.any (·.toNat = code) = true

/-- Where the rest accepts, the next character has the code point that is foretold. -/
def Foretold (next? : Option Nat) (P : Place → Prop) : Prop :=
  ∀ code ∈ next?, ∀ p, P p → p.HasNext code

theorem foretold_none (P : Place → Prop) : Foretold none P := fun _ h => nomatch h

namespace CharTest

variable {t : CharTest} {n i j N : Nat} {p o q : Place}

theorem pos_of_rounds (h : Rounds t.Reads n p q) : q.pos = p.pos + n := by
  induction h with
  | refl => rfl
  | more h _ ih =>
    obtain ⟨x, -, hx⟩ := Place.step?_eq_some.mp h
    have hpos := hx.pos
    simp only [List.length_cons, List.length_nil] at hpos
    omega

/-- So many characters lead to one place. -/
theorem rounds_eq (h : Rounds t.Reads n p q) (h' : Rounds t.Reads n p o) : q = o := by
  induction h with
  | refl => exact (rounds_zero_iff.mp h').symm
  | more h _ ih =>
    obtain ⟨o', hr, t'⟩ := rounds_succ_iff.mp h'
    obtain rfl := Option.some.inj (h.symm.trans hr)
    exact ih t'

theorem length_of_rounds (h : Rounds t.Reads n p q) : n ≤ p.after.length := by
  obtain ⟨xs, hxs⟩ := h.takes fun _ _ => reads_takes
  have hlen := hxs.length_after
  have hpos := pos_of_rounds h
  omega

/-- As many characters as possible are those of the longest run among `N`. -/
theorem rounds_past (t : CharTest) (N : Nat) (p : Place) :
    ∃ c ≤ N, Rounds t.Reads c p (p.past t N) ∧
      ∀ n q, n ≤ N → Rounds t.Reads n p q → n ≤ c := by
  induction N generalizing p with
  | zero => exact ⟨0, Nat.le_refl 0, .refl p, fun _ _ hn _ => hn⟩
  | succ N ih =>
    cases hs : p.step? t with
    | none =>
      refine ⟨0, Nat.zero_le _, ?_, fun n q _ h => ?_⟩
      · simp only [Place.past, hs]
        exact .refl p
      · cases h with
        | refl => exact Nat.le_refl 0
        | more h => exact absurd (h.symm.trans hs) (Option.some_ne_none _)
    | some o =>
      obtain ⟨c, hc, hr, hmax⟩ := ih o
      refine ⟨c + 1, by omega, ?_, fun n q hn h => ?_⟩
      · simp only [Place.past, hs]
        exact .more hs hr
      · cases h with
        | refl => exact Nat.zero_le _
        | more h h' =>
          obtain rfl := Option.some.inj (h.symm.trans hs)
          have := hmax _ _ (by omega) h'
          omega

/-- One character back from the end of a run. -/
theorem back_of_rounds (h : Rounds t.Reads (n + 1) p q) : Rounds t.Reads n p (q.back 1) := by
  obtain ⟨o, hn, h1⟩ := rounds_add_iff.mp h
  obtain ⟨o', hr, h0⟩ := rounds_succ_iff.mp h1
  rw [rounds_zero_iff.mp h0]
  obtain ⟨x, -, hx⟩ := Place.step?_eq_some.mp hr
  obtain ⟨k, b, a⟩ := o
  obtain ⟨k', b', a'⟩ := o'
  obtain ⟨ha, hb, hk⟩ := hx
  simp only [List.cons_append, List.nil_append, List.reverse_cons, List.reverse_nil,
    List.length_cons, List.length_nil, Nat.zero_add] at ha hb hk
  rw [ha] at hn
  simpa [Place.back, hb, hk] using hn

variable {k : Rest} {P : Place → Prop} {follow? : Option Nat}

/-- The rest is not tried where the next character shows that it fails. -/
theorem found_unless_foretold (hk : k.Accepts P) (hf : Foretold follow? P) (q : Place)
    (m m' : Memory) :
    (if follow?.all fun code => q.after.head?.any (·.toNat = code) then k q m
      else .fail m').found = true ↔ P q := by
  split
  · exact hk q m
  · next hfits =>
    refine ⟨fun h => absurd h Bool.false_ne_true, fun hP => absurd ?_ hfits⟩
    rw [Option.all_eq_true]
    exact fun code hc => hf code hc q hP

/-- Fewer and fewer characters are tried, down to those that cannot be given back. -/
theorem found_giveBack (hk : k.Accepts P) (hf : Foretold follow? P) (inRounds : Bool)
    (start : Memory) {spare : Nat} (hs : spare ≤ n) (h : Rounds t.Reads n p q) (m : Memory) :
    (giveBack inRounds follow? start k spare q m).found = true ↔
      ∃ i, n - spare ≤ i ∧ i ≤ n ∧ ∃ o, Rounds t.Reads i p o ∧ P o := by
  -- on how many characters can be given back, which steps back along the run
  induction spare generalizing n q m with
  | zero =>
    rw [giveBack, Outcome.found_orElse, Bool.or_eq_true, found_unless_foretold hk hf]
    simp only [Outcome.found_fail, Bool.false_eq_true, or_false]
    constructor
    · exact fun hP => ⟨n, by omega, Nat.le_refl n, q, h, hP⟩
    · rintro ⟨i, hi, hin, o, ho, hP⟩
      obtain rfl : i = n := by omega
      rwa [rounds_eq h ho]
  | succ spare ih =>
    obtain ⟨n, rfl⟩ : ∃ c, n = c + 1 := ⟨n - 1, by omega⟩
    rw [giveBack, Outcome.found_orElse, Bool.or_eq_true, found_unless_foretold hk hf,
      ih (by omega) (back_of_rounds h)]
    constructor
    · rintro (hP | ⟨i, hi, hin, o, ho, hP⟩)
      · exact ⟨n + 1, by omega, Nat.le_refl _, q, h, hP⟩
      · exact ⟨i, by omega, by omega, o, ho, hP⟩
    · rintro ⟨i, hi, hin, o, ho, hP⟩
      rcases Nat.lt_or_ge n i with hlt | hge
      · obtain rfl : i = n + 1 := by omega
        exact .inl (by rwa [rounds_eq h ho])
      · exact .inr ⟨i, by omega, hge, o, ho, hP⟩

theorem hasRoom_iff : p.hasRoom n = true ↔ n ≤ p.after.length := by
  cases n with
  | zero => simp [Place.hasRoom]
  | succ n =>
    simp only [Place.hasRoom, Nat.succ_ne_zero, decide_false, Bool.false_or, Nat.add_sub_cancel,
      Bool.not_eq_true', List.isEmpty_eq_false_iff, ne_eq, List.drop_eq_nil_iff, Nat.not_le,
      Nat.add_one_le_iff]

/-- The characters of a greedy repetition. -/
theorem accepts_repeated (hk : k.Accepts P) (hf : Foretold follow? P) (least : Nat)
    (most? : Option Nat) (inRounds : Bool) :
    Rest.Accepts (t.repeated least most? follow? inRounds .greedy k) fun p =>
      ∃ q, (∃ n, least ≤ n ∧ (∀ most ∈ most?, n ≤ most) ∧ Rounds t.Reads n p q) ∧ P q := by
  intro p m
  obtain ⟨c, hc, hlast, hmax⟩ := rounds_past t (room most? p) p
  have hpos : (p.past t (room most? p)).pos - p.pos = c := by
    have := pos_of_rounds hlast
    omega
  -- every number of rounds that the repetition allows is at most `c`
  have hle : ∀ n q, (∀ most ∈ most?, n ≤ most) → Rounds t.Reads n p q → n ≤ c := by
    intro n q hn h
    refine hmax n q ?_ h
    cases most? with
    | none => exact length_of_rounds h
    | some most => exact hn most rfl
  simp only [repeated, takeMost, hpos]
  split
  · next hroom =>
    refine ⟨fun h => absurd h Bool.false_ne_true, ?_⟩
    rintro ⟨q, ⟨n, hn, -, h⟩, -⟩
    have hfits : p.hasRoom least = true :=
      hasRoom_iff.mpr (Nat.le_trans hn (length_of_rounds h))
    simp [hfits] at hroom
  · split
    · next hfew =>
      refine ⟨fun h => absurd h Bool.false_ne_true, ?_⟩
      rintro ⟨q, ⟨n, hn, hmost, h⟩, -⟩
      have := hle n q hmost h
      omega
    · next hfew =>
      rw [found_giveBack hk hf inRounds _ (by omega) hlast]
      constructor
      · rintro ⟨i, hi, hic, q, h, hP⟩
        refine ⟨q, ⟨i, by omega, fun most hm => ?_, h⟩, hP⟩
        rw [Option.mem_def.mp hm, room, Option.getD_some] at hc
        exact Nat.le_trans hic hc
      · rintro ⟨q, ⟨n, hn, hmost, h⟩, hP⟩
        exact ⟨n, by omega, hle n q hmost h, q, h, hP⟩

end CharTest

/-! ### Repetitions of anything else -/

namespace Step

variable {s : Step} {R : Place → Place → Prop} {k : Rest} {P : Place → Prop}

theorem accepts_times (hs : s.Follows R) (hk : k.Accepts P) (n : Nat) :
    Rest.Accepts (times s k n) fun p => ∃ q, Rounds R n p q ∧ P q := by
  induction n with
  | zero =>
    intro p m
    simp only [times, rounds_zero_iff, exists_eq_left]
    exact hk p m
  | succ n ih =>
    intro p m
    rw [times, Outcome.found_lookBack, hs _ _ ih]
    simp only [rounds_succ_iff]
    constructor
    · rintro ⟨o, h, q, t, hP⟩
      exact ⟨q, ⟨o, h, t⟩, hP⟩
    · rintro ⟨q, ⟨o, h, t⟩, hP⟩
      exact ⟨o, h, q, t, hP⟩

/-- Optional rounds are made as long as they get ahead. -/
theorem accepts_manyFirst (hs : s.Follows R) (hR : Advances R) (hk : k.Accepts P)
    (last? : Option Nat) (fuel : Nat) :
    Rest.Accepts (manyFirst s k last? fuel) fun p =>
      P p ∨ last? ≠ some p.pos ∧ ∃ n ≤ fuel, ∃ q, Rounds (Forward R) n p q ∧ P q := by
  induction fuel generalizing last? with
  | zero =>
    intro p m
    rw [manyFirst, Outcome.found_lookBack, hk]
    refine ⟨.inl, ?_⟩
    rintro (hP | ⟨-, n, hn, q, t, hP⟩)
    · exact hP
    · obtain rfl := Nat.le_zero.mp hn
      rwa [← rounds_zero_iff.mp t]
  | succ fuel ih =>
    intro p m
    simp only [manyFirst]
    split
    · next hlast =>
      rw [Outcome.found_lookBack, hk]
      exact ⟨.inl, fun h => h.elim id fun h => absurd hlast h.1⟩
    · next hlast =>
      rw [Outcome.found_orElse, Bool.or_eq_true, Outcome.found_lookBack, hk, hs _ _ (ih _)]
      constructor
      · rintro (⟨o, h, hP | ⟨hne, n, hn, q, t, hP⟩⟩ | hP)
        · -- the last round made: it counts only if it gets ahead, and else the rest accepts `p`
          obtain ⟨xs, hxs⟩ := hR _ _ h
          by_cases hpos : o.pos = p.pos
          · exact .inl (hxs.eq_of_pos hpos ▸ hP)
          · have := hxs.pos
            exact .inr ⟨hlast, 1, by omega, o, .more ⟨h, by omega⟩ (.refl o), hP⟩
        · obtain ⟨xs, hxs⟩ := hR _ _ h
          have hpos := hxs.pos
          have hne : p.pos ≠ o.pos := fun h => hne (congrArg some h)
          exact .inr ⟨hlast, n + 1, by omega, q, .more ⟨h, by omega⟩ t, hP⟩
        · exact .inl hP
      · rintro (hP | ⟨-, n, hn, q, t, hP⟩)
        · exact .inr hP
        · rcases t with _ | ⟨h, t⟩
          · exact .inr hP
          · refine .inl ⟨_, h.1, .inr ⟨fun he => ?_, _, Nat.le_of_succ_le_succ hn, q, t, hP⟩⟩
            exact absurd (Option.some.inj he) (Nat.ne_of_lt h.2)

/-- The rounds of a greedy repetition. The optional rounds that can be made are no fewer than there
are characters, so their bound leaves nothing out. -/
theorem accepts_repeated (hs : s.Follows R) (hR : Advances R) (hk : k.Accepts P) {least : Nat}
    {most? : Option Nat} (hmost : ∀ most ∈ most?, least ≤ most) (inRounds : Bool) :
    Rest.Accepts (repeated s least most? inRounds .greedy k) fun p =>
      ∃ q, (∃ n, least ≤ n ∧ (∀ most ∈ most?, n ≤ most) ∧ Rounds R n p q) ∧ P q := by
  intro p m
  rw [repeated, accepts_times hs (accepts_manyFirst hs hR hk none _)]
  constructor
  · rintro ⟨o, t, hP | ⟨-, n, hn, q, t', hP⟩⟩
    · exact ⟨o, ⟨least, Nat.le_refl _, hmost, t⟩, hP⟩
    · refine ⟨q, ⟨least + n, Nat.le_add_right _ _, fun most hm => ?_,
        rounds_add_iff.mpr ⟨o, t, t'.mono fun _ _ h => h.1⟩⟩, hP⟩
      have hle := hmost most hm
      rw [Option.mem_def.mp hm, optionalRounds] at hn
      omega
  · rintro ⟨q, ⟨n, hn, hle, t⟩, hP⟩
    obtain ⟨o, t, t'⟩ := rounds_add_iff.mp (show Rounds R (least + (n - least)) p q by
      rwa [Nat.add_sub_cancel' hn])
    -- the optional rounds without those that stay in place, which are not made
    obtain ⟨i, hi, t'⟩ := t'.forward hR
    refine ⟨o, t, .inr ⟨nofun, i, ?_, q, t', hP⟩⟩
    obtain ⟨xs, hxs⟩ := t.takes hR
    have hlen := hxs.length_after
    have hfew := t'.le_length hR
    have hsquare : p.pos + p.after.length + 2
        ≤ (p.pos + p.after.length + 2) * (p.pos + p.after.length + 2) :=
      Nat.le_mul_self _
    cases most? with
    | none => simp only [optionalRounds]; omega
    | some most =>
      have := hle most rfl
      simp only [optionalRounds]
      omega

end Step

/-! ### Programs -/

/-- The next character of a place passes a test, if there is one. -/
def Begins (t? : Option CharTest) (p : Place) : Prop := ∀ t ∈ t?, (p.step? t).isSome = true

theorem begins_none (p : Place) : Begins none p := fun _ h => nomatch h

theorem begins_of_step? {t : CharTest} {p q : Place} (h : p.step? t = some q) :
    Begins (some t) p := by
  rintro _ ⟨⟩
  rw [h, Option.isSome_some]

namespace Program

variable {k : Rest} {P A B : Place → Prop} {a b : Program}

theorem accepts_one (t : CharTest) (hk : k.Accepts P) (inRounds : Bool) :
    Rest.Accepts ((one t).run inRounds k) fun p => ∃ q, t.Reads p q ∧ P q := by
  intro p m
  simp only [run, CharTest.Reads]
  split
  · next q hq =>
    simp only [hq, Option.some.injEq, exists_eq_left']
    exact hk q m
  · next hq => simp [hq]

theorem accepts_anchor (multiline ascii : Bool) (x : Anchor) (hk : k.Accepts P) (inRounds : Bool) :
    Rest.Accepts ((anchor multiline ascii x).run inRounds k) fun p =>
      x.holds multiline ascii p = true ∧ P p := by
  intro p m
  simp only [run]
  split
  · next hx => simpa [hx] using hk p m
  · next hx => simp [hx]

/-- An alternative may be left out where it is barred, as it leads nowhere there. -/
theorem accepts_either {inRounds : Bool} (ha : Rest.Accepts (a.run inRounds k) A)
    (hb : Rest.Accepts (b.run inRounds k) B) (hbar : ∀ p, A p → a.isBarred p = false) :
    Rest.Accepts ((either a b).run inRounds k) fun p => A p ∨ B p := by
  intro p m
  rw [run, Outcome.found_orElse, Bool.or_eq_true, hb]
  refine or_congr_left ?_
  split
  · next hbarred =>
    refine ⟨fun h => absurd h Bool.false_ne_true, fun hA => ?_⟩
    rw [hbar p hA] at hbarred
    exact absurd hbarred Bool.false_ne_true
  · exact ha p _

/-- A look ahead stays where it is, and asks whether something can be accepted there. -/
theorem accepts_look {inRounds : Bool} (negated : Bool) (ha : Rest.Accepts (a.run inRounds accept) A)
    (hk : k.Accepts P) :
    Rest.Accepts ((look 0 negated a).run inRounds k) fun p => (A p ↔ negated = false) ∧ P p := by
  intro p m
  have hlook := ha p (m.look p)
  cases negated <;> cases hfound : (a.run inRounds accept p (m.look p)).found <;>
    simp [run, Place.back, ← hlook, hfound, hk p _]

end Program

namespace Node

variable {f : Flags} {n : Node} {next? : Option Nat} {p q : Place} {P : Place → Prop}

/-- What an expression takes begins with the first test of its program. -/
theorem begins_firstTest? {nextTest? : Option CharTest} (h : n.Leads f p q)
    (hq : Begins nextTest? q) :
    Begins ((n.program f next?).firstTest? nextTest?) p := by
  induction n generalizing nextTest? next? p q with
  | empty =>
    obtain rfl : q = p := h
    exact hq
  | literal | notLiteral | set | any => exact begins_of_step? h
  | seq a b iha ihb =>
    obtain ⟨o, ha, hb⟩ := h
    exact iha ha (ihb hb hq)
  | rounds =>
    simp only [program]
    split <;> exact begins_none p
  | switched | atomic | behind | same | given => exact h.elim
  | _ => exact begins_none p

/-- An alternative is left out only where it leads nowhere. -/
theorem not_isBarred (h : n.Leads f p q) : (n.program f none).isBarred p = false := by
  have hbegins : Begins ((n.program f none).firstTest? none) p :=
    begins_firstTest? h (begins_none q)
  rw [Program.isBarred, Option.any_eq_false]
  intro t ht
  have hsome := hbegins t ht
  rw [Option.isNone_eq_false_iff.mpr hsome, Bool.and_false]

theorem hasNext_of_only? {t : CharTest} {code : Nat} (ht : t.only? = some code)
    (h : p.step? t = some q) : p.HasNext code := by
  obtain ⟨x, hx, htakes⟩ := Place.step?_eq_some.mp h
  rw [Place.HasNext, htakes.after]
  simp only [CharTest.only?] at ht
  split at ht
  · obtain rfl := Option.some.inj ht
    rw [CharTest.passes, Bool.bne_false] at hx
    exact decide_eq_true (of_decide_eq_true hx)
  · cases ht

/-- What an expression takes begins with the code point that must stand there. -/
theorem hasNext_firstCode? (h : n.Leads f p q)
    (hq : ∀ code ∈ next?, q.HasNext code) : ∀ code ∈ n.firstCode? f next?, p.HasNext code := by
  induction n generalizing next? p q with
  | empty =>
    obtain rfl : q = p := h
    exact hq
  | literal code => exact fun _ hc => hasNext_of_only? hc h
  | seq a b iha ihb =>
    obtain ⟨o, ha, hb⟩ := h
    exact iha ha (ihb hb hq)
  | switched => exact h.elim
  | _ => exact fun _ hc => nomatch hc

/-- An expression of one character takes what its test lets pass. -/
theorem leads_of_charTest? {t : CharTest} (hn : n.isRegular = true) (ht : n.charTest? f = some t) :
    n.Leads f = t.Reads := by
  cases n <;> simp only [charTest?, reduceCtorEq, Option.some.injEq] at ht
  case switched => exact absurd hn Bool.false_ne_true
  all_goals
    subst ht
    rfl

/-- **Matching follows meaning.**  In front of a rest that accepts the places of `P`, the program of a
regular expression accepts the places from which the expression leads to one of them. -/
theorem accepts_program (hn : n.isRegular = true) {k : Rest} (hk : k.Accepts P)
    (hf : Foretold next? P) (inRounds : Bool) :
    Rest.Accepts ((n.program f next?).run inRounds k) fun p => ∃ q, n.Leads f p q ∧ P q := by
  induction n generalizing next? inRounds k P with
  | empty =>
    intro p m
    simp only [program, Program.run, Leads, exists_eq_left]
    exact hk p m
  | never =>
    intro p m
    simp [program, Program.run, Leads]
  | literal | notLiteral | set | any => exact Program.accepts_one _ hk inRounds
  | anchor x =>
    simp only [program, Leads, and_assoc, exists_and_left, exists_eq_left]
    exact Program.accepts_anchor f.multiline f.ascii x hk inRounds
  | seq a b iha ihb =>
    obtain ⟨ha, hb⟩ := Bool.and_eq_true_iff.mp hn
    -- what is foretold behind `a` is what `b` begins with
    have hfb : Foretold (b.firstCode? f next?) fun p => ∃ q, b.Leads f p q ∧ P q := by
      rintro code hc p ⟨q, hq, hP⟩
      exact hasNext_firstCode? hq (fun code hc => hf code hc q hP) code hc
    intro p m
    simp only [program, Program.run, Leads]
    rw [iha ha (ihb hb hk hf inRounds) hfb inRounds p m]
    constructor
    · rintro ⟨o, ha, q, hb, hP⟩
      exact ⟨q, ⟨o, ha, hb⟩, hP⟩
    · rintro ⟨q, ⟨o, ha, hb⟩, hP⟩
      exact ⟨o, ha, q, hb, hP⟩
  | alt a b iha ihb =>
    obtain ⟨ha, hb⟩ := Bool.and_eq_true_iff.mp hn
    simp only [program, Leads, or_and_right, exists_or]
    refine Program.accepts_either (iha ha hk (foretold_none P) inRounds)
      (ihb hb hk (foretold_none P) inRounds) ?_
    rintro p ⟨q, hq, -⟩
    exact not_isBarred hq
  | group i body ih =>
    intro p m
    simp only [program, Program.run, Leads]
    exact ih hn (fun p m => hk p _) (foretold_none P) inRounds p _
  | ahead negated body ih =>
    have hbody := ih hn accepts_accept (foretold_none _) inRounds
    simp only [and_true] at hbody
    simp only [program, Leads, and_assoc, exists_eq_left]
    exact Program.accepts_look negated hbody hk
  | rounds least most? greed body ih =>
    simp only [isRegular, Bool.and_eq_true, decide_eq_true_eq] at hn
    obtain ⟨⟨hmost, rfl⟩, hb⟩ := hn
    simp only [program]
    split
    · next t ht =>
      simp only [Program.run, Leads, leads_of_charTest? hb ht]
      exact CharTest.accepts_repeated hk hf least most? inRounds
    · simp only [Program.run, Leads]
      refine Step.accepts_repeated (fun k P hk => ih hb hk (foretold_none P) _)
        (fun _ _ => Leads.takes) hk (fun most hm => ?_) inRounds
      rw [Option.all_eq_true] at hmost
      simpa using hmost most hm
  | switched | atomic | behind | same | given => exact absurd hn Bool.false_ne_true

/-- An expression takes at least as many characters as its least width. -/
theorem Leads.width_le (groups : List (Nat × Nat × Nat)) (h : n.Leads f p q) :
    p.pos + (n.width groups).1 ≤ q.pos := by
  induction n generalizing p q with
  | empty | anchor | ahead =>
    obtain ⟨xs, hxs⟩ := h.takes
    exact hxs.pos ▸ Nat.le_add_right _ _
  | literal | notLiteral | set | any =>
    obtain ⟨x, -, hx⟩ := Place.step?_eq_some.mp h
    exact Nat.le_of_eq hx.pos.symm
  | seq a b iha ihb =>
    obtain ⟨o, ha, hb⟩ := h
    have hleft := iha ha
    have hright := ihb hb
    simp only [width]
    omega
  | alt a b iha ihb =>
    simp only [width]
    rcases h with h | h
    · have := iha h
      omega
    · have := ihb h
      omega
  | group _ _ ih => exact ih h
  | rounds least most? greed body ih =>
    obtain ⟨k, hk, -, t⟩ := h
    have hrounds : p.pos + (body.width groups).1 * k ≤ q.pos := by
      clear hk
      induction t with
      | refl => exact Nat.le_refl _
      | more h _ iht =>
        have := ih h
        rw [Nat.mul_succ]
        omega
    have hleast := Nat.mul_le_mul_left (body.width groups).1 hk
    simp only [width]
    omega
  | never | switched | atomic | behind | same | given => exact h.elim

end Node

/-! ### Search -/

namespace Pattern

variable {pat : Pattern} {P : Place → Prop}

/-- A search goes from place to place. -/
theorem isSome_searchFrom (hpat : ∀ p m, (pat.program.run false accept p m).found = true ↔ P p)
    (ho : pat.opening? = none) (n : Nat) (p : Place) :
    (pat.searchFrom n p).isSome = true ↔ ∃ xs q, xs.length < n ∧ p.Takes xs q ∧ P q := by
  induction n generalizing p with
  | zero => simp [searchFrom]
  | succ n ih =>
    simp only [searchFrom, ho, Option.all_none, if_true]
    split
    · next hfound =>
      exact ⟨fun _ => ⟨[], p, Nat.succ_pos n, .refl p, (hpat _ _).mp hfound⟩, fun _ => rfl⟩
    · next hfound =>
      have hne : ¬ P p := fun hP => hfound ((hpat _ _).mpr hP)
      split
      · next hend =>
        refine ⟨fun h => absurd h Bool.false_ne_true, ?_⟩
        rintro ⟨xs, q, -, htakes, hP⟩
        obtain ⟨rfl, -⟩ := List.append_eq_nil_iff.mp (htakes.after.symm.trans hend)
        exact absurd (Place.takes_nil_iff.mp htakes ▸ hP) hne
      · next x rest hnext =>
        have hstep : p.Takes [x] ⟨p.pos + 1, x :: p.before, rest⟩ := ⟨hnext, rfl, rfl⟩
        rw [ih]
        constructor
        · rintro ⟨xs, q, hlen, htakes, hP⟩
          exact ⟨x :: xs, q, Nat.succ_lt_succ hlen, hstep.trans htakes, hP⟩
        · rintro ⟨xs, q, hlen, htakes, hP⟩
          cases xs with
          | nil => exact absurd (Place.takes_nil_iff.mp htakes ▸ hP) hne
          | cons y ys =>
            obtain ⟨o, h1, hys⟩ := Place.takes_append_iff.mp (show p.Takes ([y] ++ ys) q from htakes)
            obtain ⟨rfl, -⟩ := List.cons.inj (h1.after.symm.trans hnext)
            rw [h1.eq hstep] at hys
            exact ⟨ys, q, Nat.lt_of_succ_lt_succ hlen, hys, hP⟩

/-- The edges of a group cross only in a pattern that has groups. -/
theorem search_ne_crossed (hg : pat.groups = 0) (t : Text) : pat.search t ≠ .crossed := by
  rw [search]
  split
  · exact Finding.noConfusion
  · rw [hg, List.range_zero, List.any_nil, if_neg Bool.false_ne_true]
    exact Finding.noConfusion

theorem finds_eq_isSome (hg : pat.groups = 0) (t : Text) :
    pat.finds t = (pat.searchFrom (pat.startCount t.length) ⟨0, [], t⟩).isSome := by
  rw [finds, search]
  split
  · next h =>
    rw [h]
    rfl
  · next h =>
    rw [h, hg]
    rfl

/-- A search looks at every place that has enough characters behind it. -/
theorem lt_startCount (ho : pat.opening? = none) {i n : Nat} (h : i + pat.least ≤ n) :
    i < pat.startCount n := by
  rw [startCount, ho]
  simp only [Option.isSome_none, Bool.false_eq_true, if_false]
  split <;> omega

/-- **A pattern is found where it leads from a place of the text.**  The pattern is that of a regular
expression without groups, whose first character is not known. -/
theorem finds_iff {f : Flags} {n : Node} (hn : n.isRegular = true)
    (ho : n.opening? f.ascii f = none) (widths : List (Nat × Nat × Nat)) (t : Text) :
    (ofNode f 0 widths n).finds t = true ↔ ∃ p q, p.IsIn t ∧ n.Leads f p q := by
  have hpat : ∀ p m, ((ofNode f 0 widths n).program.run false accept p m).found = true ↔
      ∃ q, n.Leads f p q := by
    intro p m
    have h := Node.accepts_program (f := f) hn accepts_accept (foretold_none _) false p m
    simp only [and_true] at h
    exact h
  have hopening : (ofNode f 0 widths n).opening? = none := by
    simp only [ofNode, ho, ite_self]
  rw [finds_eq_isSome rfl, isSome_searchFrom hpat hopening]
  constructor
  · rintro ⟨xs, p, -, htakes, q, hq⟩
    exact ⟨p, q, htakes.isIn (Place.isIn_start t), hq⟩
  · rintro ⟨p, q, hp, hq⟩
    refine ⟨p.before.reverse, p, lt_startCount hopening ?_, hp.takes, q, hq⟩
    obtain ⟨xs, hxs⟩ := hq.takes
    have hlen := (hp.takes.trans hxs).length_after
    have hwidth : p.pos + (ofNode f 0 widths n).least ≤ q.pos := hq.width_le widths
    rw [List.length_reverse, ← hp.pos]
    simp only [Nat.zero_add] at hlen
    omega

end Pattern

end TreeSieve.Regex
