import TreeSieve.Regex.Matcher

/-!
# Proofs — Regex — Meaning

What an expression means, apart from how it is matched.  `Node.Leads f p q` says that the expression
takes the text between the places `p` and `q`; choices are unions and repetitions are `Rounds`, so
no order of tries is left in it.

The meaning is given to the expressions that keep nothing and give up nothing (`Node.isRegular`): no
references to groups, no atomic groups, no looks behind, and greedy repetitions only.

* `Node.Leads.takes`: an expression leads forward.
* `Node.leads_sequence`: a sequence leads along its parts.
-/

namespace TreeSieve.Regex

/-! ### Places -/

namespace Place

/-- The text `xs` stands between the places `p` and `q`. -/
structure Takes (p : Place) (xs : Text) (q : Place) : Prop where
  after : p.after = xs ++ q.after
  before : q.before = xs.reverse ++ p.before
  pos : q.pos = p.pos + xs.length

/-- A place of the text `t`, numbered by the characters before it. -/
structure IsIn (p : Place) (t : Text) : Prop where
  text : p.before.reverse ++ p.after = t
  pos : p.pos = p.before.length

variable {p o q : Place} {xs ys t : Text}

theorem Takes.refl (p : Place) : p.Takes [] p := ⟨rfl, rfl, rfl⟩

/-- Taking one run and then another is taking both. -/
theorem Takes.trans (h : p.Takes xs o) (h' : o.Takes ys q) : p.Takes (xs ++ ys) q where
  after := by rw [h.after, h'.after, List.append_assoc]
  before := by rw [h'.before, h.before, List.reverse_append, List.append_assoc]
  pos := by rw [h'.pos, h.pos, List.length_append, Nat.add_assoc]

/-- The place behind a text that stands at a place. -/
theorem exists_takes (h : p.after = xs ++ ys) : ∃ q, p.Takes xs q ∧ q.after = ys :=
  ⟨⟨p.pos + xs.length, xs.reverse ++ p.before, ys⟩, ⟨h, rfl, rfl⟩, rfl⟩

/-- A run of two parts is taken one after the other. -/
theorem takes_append_iff : p.Takes (xs ++ ys) q ↔ ∃ o, p.Takes xs o ∧ o.Takes ys q := by
  constructor
  · intro h
    have hafter : p.after = xs ++ (ys ++ q.after) := by rw [h.after, List.append_assoc]
    obtain ⟨o, ho, hoa⟩ := exists_takes hafter
    refine ⟨o, ho, hoa, ?_, ?_⟩
    · rw [h.before, ho.before, List.reverse_append, List.append_assoc]
    · rw [h.pos, ho.pos, List.length_append, Nat.add_assoc]
  · rintro ⟨o, h, h'⟩
    exact h.trans h'

theorem takes_nil_iff : p.Takes [] q ↔ q = p := by
  constructor
  · intro h
    obtain ⟨n, b, a⟩ := p
    obtain ⟨n', b', a'⟩ := q
    obtain ⟨ha, hb, hn⟩ := h
    simp only [List.nil_append, List.reverse_nil, List.length_nil, Nat.add_zero] at ha hb hn
    rw [ha, hb, hn]
  · rintro rfl
    exact .refl _

/-- A text leads to one place. -/
theorem Takes.eq (h : p.Takes xs q) (h' : p.Takes xs o) : q = o := by
  obtain ⟨n, b, a⟩ := q
  obtain ⟨n', b', a'⟩ := o
  have ha : a = a' := List.append_cancel_left (h.after.symm.trans h'.after)
  have hb : b = b' := h.before.trans h'.before.symm
  have hn : n = n' := h.pos.trans h'.pos.symm
  rw [ha, hb, hn]

/-- No text but the empty one leads to a place with the same number. -/
theorem Takes.eq_of_pos (h : p.Takes xs q) (hpos : q.pos = p.pos) : q = p := by
  have hlen := h.pos
  obtain rfl : xs = [] := List.eq_nil_of_length_eq_zero (by omega)
  exact takes_nil_iff.mp h

/-- What is taken moves the place by its length. -/
theorem Takes.length_after (h : p.Takes xs q) :
    q.pos + q.after.length = p.pos + p.after.length := by
  rw [h.pos, h.after, List.length_append]
  omega

theorem Takes.mem_after {c : Char} (h : p.Takes xs q) (hc : c ∈ q.after) : c ∈ p.after :=
  h.after ▸ List.mem_append_right xs hc

theorem Takes.isIn (h : p.Takes xs q) (hp : p.IsIn t) : q.IsIn t where
  text := by
    rw [← hp.text, h.after, h.before]
    simp
  pos := by rw [h.pos, h.before, hp.pos, List.length_append, List.length_reverse, Nat.add_comm]

theorem isIn_start (t : Text) : (⟨0, [], t⟩ : Place).IsIn t := ⟨rfl, rfl⟩

/-- A place of a text is reached from its start. -/
theorem IsIn.takes (h : p.IsIn t) : (⟨0, [], t⟩ : Place).Takes p.before.reverse p where
  after := h.text.symm
  before := by simp
  pos := by rw [h.pos, List.length_reverse, Nat.zero_add]

/-- The next character passes a test. -/
theorem step?_eq_some {c : CharTest} :
    p.step? c = some q ↔ ∃ x, c.passes x = true ∧ p.Takes [x] q := by
  obtain ⟨n, b, a⟩ := p
  obtain ⟨n', b', a'⟩ := q
  constructor
  · intro h
    match a with
    | [] => simp [step?] at h
    | x :: xs =>
      simp only [step?] at h
      split at h
      · next hx =>
        cases h
        exact ⟨x, hx, rfl, rfl, rfl⟩
      · cases h
  · rintro ⟨x, hx, ha, hb, hn⟩
    simp only [List.cons_append, List.nil_append, List.reverse_cons, List.reverse_nil,
      List.length_cons, List.length_nil, Nat.zero_add] at ha hb hn
    rw [ha, hb, hn]
    simp [step?, hx]

end Place

/-! ### Rounds -/

/-- So many rounds of a relation lead from one place to another. -/
inductive Rounds (R : Place → Place → Prop) : Nat → Place → Place → Prop where
  | refl (p : Place) : Rounds R 0 p p
  | more {n : Nat} {p o q : Place} (h : R p o) (t : Rounds R n o q) : Rounds R (n + 1) p q

/-- A relation leads forward, each time over some text. -/
def Advances (R : Place → Place → Prop) : Prop := ∀ p q, R p q → ∃ xs, p.Takes xs q

section

variable {R S : Place → Place → Prop} {m n : Nat} {p o q : Place}

theorem rounds_zero_iff : Rounds R 0 p q ↔ q = p := by
  constructor
  · rintro ⟨⟩
    rfl
  · rintro rfl
    exact .refl _

/-- The first of some rounds comes before the others. -/
theorem rounds_succ_iff : Rounds R (n + 1) p q ↔ ∃ o, R p o ∧ Rounds R n o q := by
  constructor
  · rintro (_ | ⟨h, t⟩)
    exact ⟨_, h, t⟩
  · rintro ⟨o, h, t⟩
    exact .more h t

/-- Rounds can be split anywhere. -/
theorem rounds_add_iff : Rounds R (m + n) p q ↔ ∃ o, Rounds R m p o ∧ Rounds R n o q := by
  induction m generalizing p with
  | zero => simp [rounds_zero_iff]
  | succ m ih =>
    simp only [Nat.succ_add, rounds_succ_iff, ih]
    constructor
    · rintro ⟨o, h, o', t, t'⟩
      exact ⟨o', ⟨o, h, t⟩, t'⟩
    · rintro ⟨o', ⟨o, h, t⟩, t'⟩
      exact ⟨o, h, o', t, t'⟩

/-- Rounds of a relation are rounds of a wider one. -/
theorem Rounds.mono (hRS : ∀ p q, R p q → S p q) (h : Rounds R n p q) : Rounds S n p q := by
  induction h with
  | refl p => exact .refl p
  | more h _ ih => exact .more (hRS _ _ h) ih

/-- Rounds that advance take some run. -/
theorem Rounds.takes (hR : Advances R) (h : Rounds R n p q) :
    ∃ xs, p.Takes xs q := by
  induction h with
  | refl p => exact ⟨[], .refl p⟩
  | more h _ ih =>
    obtain ⟨xs, hxs⟩ := hR _ _ h
    obtain ⟨ys, hys⟩ := ih
    exact ⟨xs ++ ys, hxs.trans hys⟩

/-- A round that gets ahead. -/
def Forward (R : Place → Place → Prop) (p q : Place) : Prop := R p q ∧ p.pos < q.pos

/-- Rounds that do not get ahead can be left out. -/
theorem Rounds.forward (hR : Advances R) (h : Rounds R n p q) :
    ∃ m ≤ n, Rounds (Forward R) m p q := by
  induction h with
  | refl p => exact ⟨0, Nat.le_refl 0, .refl p⟩
  | @more n p o q h _ ih =>
    obtain ⟨m, hm, t⟩ := ih
    obtain ⟨xs, hxs⟩ := hR _ _ h
    by_cases hpos : o.pos = p.pos
    · -- a round over the empty text ends where it began, and the rounds behind it do without it
      rw [hxs.eq_of_pos hpos] at t
      exact ⟨m, by omega, t⟩
    · have hlen := hxs.pos
      exact ⟨m + 1, by omega, .more ⟨h, by omega⟩ t⟩

/-- Rounds that get ahead are no more than there are characters. -/
theorem Rounds.le_length (hR : Advances R)
    (h : Rounds (Forward R) n p q) : n + q.after.length ≤ p.after.length := by
  induction h with
  | refl p => omega
  | more h _ ih =>
    obtain ⟨xs, hxs⟩ := hR _ _ h.1
    have hlen := hxs.length_after
    have hpos := h.2
    omega

end

/-! ### Characters -/

namespace CharTest

variable {t : CharTest} {n : Nat} {p q : Place}

theorem passes_literal {c : Char} {code : Nat} :
    (literal .exact false code).passes c = true ↔ c.toNat = code := by
  change (decide (c.toNat = code) != false) = true ↔ _
  rw [Bool.bne_false, decide_eq_true_iff]

theorem passes_notLiteral {c : Char} {code : Nat} :
    (literal .exact true code).passes c = true ↔ c.toNat ≠ code := by
  change (decide (c.toNat = code) != true) = true ↔ _
  rw [Bool.bne_true, Bool.not_eq_true', decide_eq_false_iff_not]

theorem passes_inLine {c : Char} : inLine.passes c = true ↔ c ≠ '\n' := bne_iff_ne

/-- One character that passes the test. -/
def Reads (t : CharTest) (p q : Place) : Prop := p.step? t = some q

/-- A test reads one character that passes it. -/
theorem reads_iff : t.Reads p q ↔ ∃ x, t.passes x = true ∧ p.Takes [x] q := Place.step?_eq_some

theorem reads_takes (h : t.Reads p q) : ∃ xs, p.Takes xs q := by
  obtain ⟨x, -, hx⟩ := reads_iff.mp h
  exact ⟨[x], hx⟩

/-- Rounds of a test take as many characters that pass. -/
theorem rounds_reads_iff :
    Rounds t.Reads n p q ↔ ∃ xs, xs.length = n ∧ (∀ x ∈ xs, t.passes x = true) ∧ p.Takes xs q := by
  induction n generalizing p with
  | zero =>
    rw [rounds_zero_iff]
    constructor
    · intro h
      exact ⟨[], rfl, nofun, Place.takes_nil_iff.mpr h⟩
    · rintro ⟨xs, hlen, -, h⟩
      obtain rfl := List.eq_nil_of_length_eq_zero hlen
      exact Place.takes_nil_iff.mp h
  | succ n ih =>
    simp only [rounds_succ_iff, ih, reads_iff]
    constructor
    · rintro ⟨o, ⟨x, hx, hxo⟩, xs, hlen, hxs, ho⟩
      exact ⟨x :: xs, congrArg (· + 1) hlen, List.forall_mem_cons.mpr ⟨hx, hxs⟩, hxo.trans ho⟩
    · rintro ⟨_ | ⟨x, xs⟩, hlen, hxs, h⟩
      · cases hlen
      · obtain ⟨hx, hxs⟩ := List.forall_mem_cons.mp hxs
        obtain ⟨o, hxo, ho⟩ := Place.takes_append_iff.mp (show p.Takes ([x] ++ xs) q from h)
        exact ⟨o, ⟨x, hx, hxo⟩, xs, Nat.succ.inj hlen, hxs, ho⟩

end CharTest

/-! ### Expressions -/

namespace Node

/-- Whether an expression keeps nothing and gives up nothing while it is matched. -/
def isRegular : Node → Bool
  | empty | never | literal _ | notLiteral _ | set .. | any | anchor _ => true
  | seq a b | alt a b => a.isRegular && b.isRegular
  | group _ body | ahead _ body => body.isRegular
  | rounds least most? greed body =>
    most?.all (least ≤ ·) && greed = .greedy && body.isRegular
  | switched .. | atomic _ | behind .. | same _ | given .. => false

/-- The expression takes the text between two places. -/
def Leads (f : Flags) : Node → Place → Place → Prop
  | empty, p, q => q = p
  | literal code, p, q => (CharTest.ofLiteral f false code).Reads p q
  | notLiteral code, p, q => (CharTest.ofLiteral f true code).Reads p q
  | set negated items, p, q => (CharTest.ofSet f negated items).Reads p q
  | any, p, q => (if f.dotAll then CharTest.any else .inLine).Reads p q
  | anchor a, p, q => a.holds f.multiline f.ascii p = true ∧ q = p
  | seq a b, p, q => ∃ o, a.Leads f p o ∧ b.Leads f o q
  | alt a b, p, q => a.Leads f p q ∨ b.Leads f p q
  | group _ body, p, q => body.Leads f p q
  | ahead negated body, p, q => q = p ∧ ((∃ o, body.Leads f p o) ↔ negated = false)
  | rounds least most? _ body, p, q =>
    ∃ n, least ≤ n ∧ (∀ most ∈ most?, n ≤ most) ∧ Rounds (body.Leads f) n p q
  | never, _, _ | switched .., _, _ | atomic _, _, _ | behind .., _, _ | same _, _, _
  | given .., _, _ => False

variable {f : Flags} {n a b : Node} {p q : Place}

/-- **An expression leads forward**, over the text that it takes. -/
theorem Leads.takes (h : n.Leads f p q) : ∃ xs, p.Takes xs q := by
  induction n generalizing p q with
  | empty => exact ⟨[], Place.takes_nil_iff.mpr h⟩
  | anchor => exact ⟨[], Place.takes_nil_iff.mpr h.2⟩
  | ahead => exact ⟨[], Place.takes_nil_iff.mpr h.1⟩
  | literal | notLiteral | set | any =>
    exact CharTest.reads_takes h
  | seq a b iha ihb =>
    obtain ⟨o, ha, hb⟩ := h
    obtain ⟨xs, hxs⟩ := iha ha
    obtain ⟨ys, hys⟩ := ihb hb
    exact ⟨xs ++ ys, hxs.trans hys⟩
  | alt a b iha ihb => exact h.elim iha ihb
  | group _ _ ih => exact ih h
  | rounds _ _ _ _ ih =>
    obtain ⟨k, -, -, t⟩ := h
    exact t.takes fun _ _ => ih
  | never | switched | atomic | behind | same | given => exact h.elim

/-- **A sequence** leads where its second half leads from where its first half does. -/
theorem leads_append : (a.append b).Leads f p q ↔ ∃ o, a.Leads f p o ∧ b.Leads f o q := by
  induction a generalizing p with
  | empty => simp [append, Leads]
  | seq c d _ ih =>
    simp only [append, Leads, ih]
    constructor
    · rintro ⟨o, hc, o', hd, hb⟩
      exact ⟨o', ⟨o, hc, hd⟩, hb⟩
    · rintro ⟨o', ⟨o, hc, hd⟩, hb⟩
      exact ⟨o, hc, o', hd, hb⟩
  | _ => cases b <;> simp [append, Leads]

/-- A sequence leads along its parts. -/
theorem leads_sequence {c : Node} {ns : List Node} :
    (sequence (c :: ns)).Leads f p q ↔ ∃ o, c.Leads f p o ∧ (sequence ns).Leads f o q :=
  leads_append

theorem leads_sequence_append {ms ns : List Node} :
    (sequence (ms ++ ns)).Leads f p q ↔
      ∃ o, (sequence ms).Leads f p o ∧ (sequence ns).Leads f o q := by
  induction ms generalizing p with
  | nil => simp [sequence, Leads]
  | cons m ms ih =>
    rw [List.cons_append]
    simp only [leads_sequence, ih]
    constructor
    · rintro ⟨o, hm, o', hms, hns⟩
      exact ⟨o', ⟨o, hm, hms⟩, hns⟩
    · rintro ⟨o', ⟨o, hm, hms⟩, hns⟩
      exact ⟨o, hm, o', hms, hns⟩

/-- Repetitions of an expression of one character take characters that pass its test. -/
theorem leads_rounds_of_test {t : CharTest} {body : Node} {least : Nat} {greed : Greed}
    (hbody : body.Leads f = t.Reads) :
    (rounds least none greed body).Leads f p q ↔
      ∃ xs, least ≤ xs.length ∧ (∀ x ∈ xs, t.passes x = true) ∧ p.Takes xs q := by
  simp only [Leads, hbody, CharTest.rounds_reads_iff]
  constructor
  · rintro ⟨n, hn, -, xs, rfl, hxs, h⟩
    exact ⟨xs, hn, hxs, h⟩
  · rintro ⟨xs, hn, hxs, h⟩
    exact ⟨xs.length, hn, nofun, xs, rfl, hxs, h⟩

theorem isRegular_append : (a.append b).isRegular = (a.isRegular && b.isRegular) := by
  induction a with
  | empty => simp [append, isRegular]
  | seq c d _ ih => simp [append, isRegular, ih, Bool.and_assoc]
  | _ => cases b <;> simp [append, isRegular]

/-- A sequence is regular when its members are. -/
theorem isRegular_sequence {ns : List Node} :
    (sequence ns).isRegular = ns.all isRegular := by
  induction ns with
  | nil => rfl
  | cons n ns ih => exact (isRegular_append).trans (by rw [← sequence, ih, List.all_cons])

end Node

end TreeSieve.Regex
