import TreeSieve.Proofs.Glob.Matching
import TreeSieve.Proofs.Glob.Steps

/-!
# Proofs — Glob — Crossing

Which texts the pattern of one name takes whole.  Its expression is a row of character sets, and a text
is taken when it is made of runs of characters for these (`Spells`).

The wildcards leave out the slash, but a set that is written in a pattern does not: a negated set holds
a slash unless it names it, a range may run across it, and a set without members takes in the next
wildcard, slash and all.  The pattern of a name then takes texts of several names.

* `crosses_iff`: a pattern takes some text with a slash when one of its sets holds the slash and no set
  that needs a character is without any.
* `slash_not_mem_of_takesAll`: it takes none when all sets in it just list some characters.
-/

namespace TreeSieve

namespace Regex

/-- The rest that accepts the end of the text. -/
def atEnd : Rest := fun p m => if p.after.isEmpty then accept p m else .fail m

/-- Whether a pattern takes the whole of a text. -/
def Pattern.takesAll (pat : Pattern) (t : Text) : Bool :=
  (pat.program.run false atEnd ⟨0, [], t⟩ ⟨[], ⟨0, [], t⟩⟩).found

theorem accepts_atEnd : Rest.Accepts atEnd fun p => p.after = [] := by
  intro p m
  unfold atEnd
  split
  · next h => exact iff_of_true rfl (List.isEmpty_iff.mp h)
  · next h => exact iff_of_false Bool.false_ne_true fun hp => h (List.isEmpty_iff.mpr hp)

/-- **A pattern takes a text whole** when its expression leads from one end of it to the other. -/
theorem Pattern.takesAll_iff {f : Flags} {n : Node} (hn : n.isRegular = true) (groups : Nat)
    (widths : List (Nat × Nat × Nat)) (t : Text) :
    (ofNode f groups widths n).takesAll t = true ↔ ∃ q, n.Leads f ⟨0, [], t⟩ q ∧ q.after = [] :=
  Node.accepts_program hn accepts_atEnd (foretold_none _) false _ _

end Regex

namespace Glob

open Regex (Node Place SetItem CharTest)

variable {s : CharSet} {sets : List CharSet} {p q : Place} {t u : Text} {c : Char}

/-! ### Sets -/

/-- Whether a set holds a character. -/
def CharSet.has (s : CharSet) (c : Char) : Bool :=
  s.items.any (·.has .exact false c.toNat) != s.negated

theorem any_eraseDups (items : List SetItem) (f : SetItem → Bool) :
    items.eraseDups.any f = items.any f := by
  rw [Bool.eq_iff_iff]
  simp only [List.any_eq_true, List.mem_eraseDups]

/-- A set takes one character that it holds, also when it is read as a single character. -/
theorem leads_setNode (negated starred : Bool) (items : List SetItem) :
    (Regex.setNode negated items).Leads {} p q ↔
      ∃ c, CharSet.has ⟨negated, items, starred⟩ c = true ∧ p.Takes [c] q := by
  have hhas : ∀ c, CharSet.has ⟨negated, items, starred⟩ c =
      (items.eraseDups.any (·.has .exact false c.toNat) != negated) := by
    intro c
    rw [any_eraseDups]
    rfl
  simp only [hhas]
  unfold Regex.setNode
  split
  · next code h =>
    have hpasses : ∀ c, (CharTest.literal .exact negated code).passes c =
        ([SetItem.one code].any (·.has .exact false c.toNat) != negated) := by
      intro c
      change (decide (c.toNat = code) != negated) = ((decide (code = c.toNat) || false) != negated)
      rw [Bool.or_false, decide_eq_decide.mpr eq_comm]
    simp only [h, ← hpasses]
    cases negated <;> exact CharTest.reads_iff
  · have htest : CharTest.ofSet {} negated items.eraseDups =
        .set .exact false negated items.eraseDups := congrArg
      (CharTest.set · false negated items.eraseDups) (ite_self _)
    change (CharTest.ofSet {} negated items.eraseDups).Reads p q ↔ _
    rw [htest]
    exact CharTest.reads_iff

theorem leads_charSet : s.part.node.Leads {} p q ↔
    ∃ xs, (∀ x ∈ xs, s.has x = true) ∧ (s.starred = false → xs.length = 1) ∧ p.Takes xs q := by
  obtain ⟨negated, items, starred⟩ := s
  cases starred with
  | true =>
    have hbody : (Regex.setNode negated items).Leads {} =
        (CharTest.set .exact false negated items).Reads := by
      funext p q
      rw [eq_iff_iff, leads_setNode negated true items, CharTest.reads_iff]
      rfl
    refine (Node.leads_rounds_of_test hbody).trans ?_
    simp only [Nat.zero_le, true_and, Bool.true_eq_false, false_implies]
    rfl
  | false =>
    refine (leads_setNode negated false items).trans ?_
    constructor
    · rintro ⟨c, hc, htakes⟩
      exact ⟨[c], List.forall_mem_singleton.mpr hc, fun _ => rfl, htakes⟩
    · rintro ⟨xs, hxs, hlen, htakes⟩
      obtain ⟨c, rfl⟩ := List.length_eq_one_iff.mp (hlen rfl)
      exact ⟨c, hxs c (List.mem_singleton_self c), htakes⟩

/-! ### Names -/

/-- A text is made of runs of characters for sets, one after the other; a set without a star has one
character. -/
def Spells : List CharSet → Text → Prop
  | [], t => t = []
  | s :: sets, t => ∃ xs u, t = xs ++ u ∧ (∀ x ∈ xs, s.has x = true) ∧
      (s.starred = false → xs.length = 1) ∧ Spells sets u

theorem along_charSets :
    Along (sets.map CharSet.part) p q ↔ ∃ t, Spells sets t ∧ p.Takes t q := by
  induction sets generalizing p with
  | nil =>
    rw [List.map_nil, along_nil]
    simp only [Spells, exists_eq_left, Place.takes_nil_iff]
  | cons s sets ih =>
    simp only [List.map_cons, along_cons, leads_charSet, ih, Spells]
    constructor
    · rintro ⟨o, ⟨xs, hxs, hone, hpo⟩, u, hu, hoq⟩
      exact ⟨xs ++ u, ⟨xs, u, rfl, hxs, hone, hu⟩, hpo.trans hoq⟩
    · rintro ⟨_, ⟨xs, u, rfl, hxs, hone, hu⟩, hpq⟩
      obtain ⟨o, hpo, hoq⟩ := Place.takes_append_iff.mp hpq
      exact ⟨o, ⟨xs, hxs, hone, hpo⟩, u, hu, hoq⟩

/-- The pattern of a name takes the texts that its sets spell. -/
theorem takesAll_iff_spells {pattern : Regex.Pattern}
    (hread : Regex.read {} ((parts t).flatMap Part.regex) = .ok pattern) :
    ∃ sets : List CharSet, steps none ((parts t).map Part.piece) = some (sets.map .oneOf) ∧
      ∀ u, pattern.takesAll u = true ↔ Spells sets u := by
  obtain ⟨sets, hsets, rfl⟩ := read_name_iff.mp hread
  refine ⟨sets, hsets, fun u => ?_⟩
  have hregular : (Node.sequence (sets.map (·.part.node))).isRegular = true := by
    rw [Regex.Node.isRegular_sequence, List.all_map, List.all_eq_true]
    exact fun s _ => isRegular_part (.oneOf s)
  have halong : ∀ p q, (Node.sequence (sets.map (·.part.node))).Leads {} p q ↔
      ∃ t, Spells sets t ∧ p.Takes t q := by
    intro p q
    rw [← along_charSets, Along, List.map_map]
    rfl
  rw [Regex.Pattern.takesAll_iff hregular]
  simp only [halong]
  constructor
  · rintro ⟨q, ⟨u', hu', htakes⟩, hend⟩
    have hafter : u = u' ++ q.after := htakes.after
    rwa [hafter, hend, List.append_nil]
  · intro hu
    obtain ⟨q, htakes, hend⟩ := Place.exists_takes (p := ⟨0, [], u⟩) (List.append_nil u).symm
    exact ⟨q, ⟨u, hu, htakes⟩, hend⟩

/-- No set that needs a character is without any. -/
def CanSpell (sets : List CharSet) : Prop :=
  ∀ s ∈ sets, s.starred = false → ∃ c, s.has c = true

/-- A set takes any of its characters. -/
theorem Spells.cons (hs : s.has c = true) (h : Spells sets u) : Spells (s :: sets) (c :: u) :=
  ⟨[c], u, rfl, List.forall_mem_singleton.mpr hs, fun _ => rfl, h⟩

/-- In front of a text that is spelled, a set takes some character, or none if it needs none. -/
theorem Spells.exists_cons (hs : s.starred = false → ∃ c, s.has c = true) (h : Spells sets u) :
    ∃ xs, Spells (s :: sets) (xs ++ u) := by
  cases hstar : s.starred with
  | true => exact ⟨[], [], u, rfl, nofun, fun hfalse => (Bool.noConfusion (hstar.symm.trans hfalse)), h⟩
  | false =>
    obtain ⟨c, hc⟩ := hs hstar
    exact ⟨[c], h.cons hc⟩

theorem exists_spells_iff : (∃ t, Spells sets t) ↔ CanSpell sets := by
  induction sets with
  | nil => exact iff_of_true ⟨[], rfl⟩ (fun _ h => nomatch h)
  | cons s sets ih =>
    rw [CanSpell, List.forall_mem_cons]
    constructor
    · rintro ⟨_, xs, u, rfl, hxs, hone, hu⟩
      refine ⟨fun hs => ?_, ih.mp ⟨u, hu⟩⟩
      obtain ⟨c, rfl⟩ := List.length_eq_one_iff.mp (hone hs)
      exact ⟨c, hxs c (List.mem_singleton_self c)⟩
    · rintro ⟨hs, hsets⟩
      obtain ⟨u, hu⟩ := ih.mpr hsets
      obtain ⟨xs, hxs⟩ := hu.exists_cons hs
      exact ⟨xs ++ u, hxs⟩

theorem Spells.exists_has (h : Spells sets t) (hc : c ∈ t) : ∃ s ∈ sets, s.has c = true := by
  induction sets generalizing t with
  | nil =>
    obtain rfl : t = [] := h
    cases hc
  | cons s sets ih =>
    obtain ⟨xs, u, rfl, hxs, -, hu⟩ := h
    rcases List.mem_append.mp hc with hc | hc
    · exact ⟨s, List.mem_cons_self, hxs c hc⟩
    · obtain ⟨s', hs', hhas⟩ := ih hu hc
      exact ⟨s', List.mem_cons_of_mem s hs', hhas⟩

/-- A character stands in some text that sets spell when one of them holds it. -/
theorem exists_spells_mem_iff :
    (∃ t, Spells sets t ∧ c ∈ t) ↔ (∃ s ∈ sets, s.has c = true) ∧ CanSpell sets := by
  constructor
  · rintro ⟨t, ht, hc⟩
    exact ⟨ht.exists_has hc, exists_spells_iff.mp ⟨t, ht⟩⟩
  · rintro ⟨⟨s, hs, hc⟩, hcan⟩
    induction sets with
    | nil => cases hs
    | cons s' sets ih =>
      obtain ⟨hneeds, hsets⟩ := List.forall_mem_cons.mp hcan
      rcases List.mem_cons.mp hs with rfl | hs
      · obtain ⟨u, hu⟩ := exists_spells_iff.mpr hsets
        exact ⟨c :: u, hu.cons hc, List.mem_cons_self⟩
      · obtain ⟨u, hu, hcu⟩ := ih hsets hs
        obtain ⟨xs, hxs⟩ := hu.exists_cons hneeds
        exact ⟨xs ++ u, hxs, List.mem_append_right xs hcu⟩

/-! ### Slashes -/

/-- **When the pattern of a name crosses a slash.**  Its expression is a row of sets, and it takes some
text with a slash when one of them holds the slash and each that needs a character has one. -/
theorem crosses_iff {name : Text} {pattern : Regex.Pattern}
    (hread : Regex.read {} ((parts name).flatMap Part.regex) = .ok pattern) :
    ∃ sets : List CharSet, steps none ((parts name).map Part.piece) = some (sets.map .oneOf) ∧
      ((∃ t, pattern.takesAll t = true ∧ '/' ∈ t) ↔
        (∃ s ∈ sets, s.has '/' = true) ∧
          ∀ s ∈ sets, s.starred = false → ∃ c, s.has c = true) := by
  obtain ⟨sets, hsets, htakes⟩ := takesAll_iff_spells hread
  refine ⟨sets, hsets, ?_⟩
  simp only [htakes]
  exact exists_spells_mem_iff

/-- A name with a negated set. -/
def negatedName : Text := "a[!b]c".toList

/-- The sets of the name: the letters around, and all characters but one between them. -/
def negatedSets : List CharSet :=
  [⟨false, [.one 97], false⟩, ⟨true, [.one 98], false⟩, ⟨false, [.one 99], false⟩]

theorem steps_negatedName :
    steps none ((parts negatedName).map Part.piece) = some (negatedSets.map .oneOf) := by
  have hparts : parts negatedName = [.char 'a', .oneOf true ['b'], .char 'c'] := by cbv
  rw [hparts]
  rfl

theorem crosses_iff_negatedName :
    ∃ pattern, Regex.read {} ((parts negatedName).flatMap Part.regex) = .ok pattern ∧
      ∃ t, pattern.takesAll t = true ∧ '/' ∈ t := by
  have hread := read_name_iff.mpr ⟨negatedSets, steps_negatedName, rfl⟩
  obtain ⟨sets, hsets, h⟩ := crosses_iff hread
  rw [steps_negatedName] at hsets
  obtain rfl : negatedSets = sets :=
    List.map_injective_iff.mpr (fun _ _ => Step.oneOf.inj) (Option.some.inj hsets)
  refine ⟨_, hread, h.mpr ⟨⟨_, .tail _ (.head _), by decide⟩, ?_⟩⟩
  simp only [negatedSets, List.forall_mem_cons, List.not_mem_nil, false_implies, implies_true]
  exact ⟨fun _ => ⟨'a', by decide⟩, fun _ => ⟨'/', by decide⟩, fun _ => ⟨'c', by decide⟩, trivial⟩

/-- It takes a text of two names whole. -/
theorem takesAll_negatedName :
    '/' ∉ negatedName ∧ ∃ pattern,
      Regex.read {} ((parts negatedName).flatMap Part.regex) = .ok pattern ∧
        pattern.takesAll "a/c".toList = true ∧ '/' ∈ "a/c".toList :=
  ⟨by decide, _, read_name_iff.mpr ⟨negatedSets, steps_negatedName, rfl⟩, by decide, by decide⟩

/-! ### Names that stay within one name -/

/-- A part that is no set, or a set that lists some characters, without ranges. -/
def Part.IsSimple : Part → Prop
  | oneOf negated body => negated = false ∧ body ≠ [] ∧ '-' ∉ body
  | _ => True

/-- A part that writes no slash. -/
def Part.IsSlashless : Part → Prop
  | oneOf _ body => '/' ∉ body
  | char c => c ≠ '/'
  | _ => True

theorem isSlashless_of_mem_parts {part : Part} (ht : '/' ∉ t) (h : part ∈ parts t) :
    part.IsSlashless := by
  fun_induction parts t with
  | case1 => cases h
  | case2 cs ih | case3 cs _ ih =>
    rcases List.mem_cons.mp h with rfl | h
    · trivial
    · exact ih (List.not_mem_of_not_mem_cons ht) h
  | case4 cs set rest hset _ _ ih =>
    obtain ⟨⟨body, r⟩, hcut, heq⟩ := Option.map_eq_some_iff.mp hset
    cases heq
    obtain ⟨heq, -⟩ := Text.cut?_eq_some hcut
    -- the body and the rest are parts of the text behind the bracket
    have hsub : ∀ c ∈ body ++ ']' :: rest, c ∈ cs := by
      intro c hc
      rw [← heq] at hc
      split at hc
      · exact List.mem_cons_of_mem _ hc
      · exact List.mem_cons_of_mem _ hc
      · exact hc
    have hcs := List.not_mem_of_not_mem_cons ht
    rcases List.mem_cons.mp h with rfl | h
    · exact fun hm => hcs (hsub _ (List.mem_append_left _ hm))
    · exact ih (fun hm => hcs (hsub _ (List.mem_append_right _ (List.mem_cons_of_mem _ hm)))) h
  | case5 cs _ _ _ ih | case6 c cs _ _ _ ih =>
    obtain ⟨hc, hcs⟩ := List.ne_and_not_mem_of_not_mem_cons ht
    rcases List.mem_cons.mp h with rfl | h
    · exact hc.symm
    · exact ih hcs h

theorem members_of_not_mem {ms : List Mark} (h : .bare '-' ∉ ms) :
    members ms = some (ms.map fun m => .one m.char.toNat) := by
  fun_induction members ms with
  | case1 => rfl
  | case2 | case3 | case4 => simp at h
  | case5 m ms _ _ ih => rw [ih (List.not_mem_of_not_mem_cons h), Option.map_some, List.map_cons]

theorem char_ofBody (c : Char) : (Mark.ofBody c).char = c := by
  unfold Mark.ofBody
  split <;> rfl

/-- A list of characters holds these only. -/
theorem has_list {cs : Text} (h : c ∉ cs) :
    CharSet.has ⟨false, cs.map fun d => .one d.toNat, false⟩ c = false := by
  rw [CharSet.has, Bool.bne_false, List.any_eq_false]
  intro item hitem
  obtain ⟨d, hd, rfl⟩ := List.mem_map.mp hitem
  have hne : d.toNat ≠ c.toNat := fun heq => h (Char.toNat_inj.mp heq ▸ hd)
  exact fun heq => hne (of_decide_eq_true heq)

/-- A part that is no set, or just lists characters, is read as a set of its own, which does not hold
the slash. -/
theorem exists_set_of_isSimple {part : Part} (hsimple : part.IsSimple) (hslash : part.IsSlashless) :
    ∃ s : CharSet, s.has '/' = false ∧
      ∀ ps, steps none (part.piece :: ps) = (steps none ps).map (.oneOf s :: ·) := by
  cases part with
  | anyRun => exact ⟨⟨true, [.one 47], true⟩, by decide, fun _ => rfl⟩
  | anyOne => exact ⟨⟨true, [.one 47], false⟩, by decide, fun _ => rfl⟩
  | char c =>
    exact ⟨⟨false, [c].map fun d => .one d.toNat, false⟩,
      has_list fun hm => hslash (List.mem_singleton.mp hm).symm, fun _ => rfl⟩
  | oneOf negated body =>
    obtain ⟨rfl, hne, hminus⟩ := hsimple
    obtain ⟨c, cs, rfl⟩ := List.exists_cons_of_ne_nil hne
    have hmarks : .bare '-' ∉ (c :: cs).map Mark.ofBody := by
      intro hm
      obtain ⟨d, hd, heq⟩ := List.mem_map.mp hm
      have hchar := char_ofBody d
      rw [heq] at hchar
      exact hminus ((show '-' = d from hchar) ▸ hd)
    refine ⟨⟨false, (c :: cs).map fun d => .one d.toNat, false⟩, has_list hslash, fun ps => ?_⟩
    change closed false ((c :: cs).map Mark.ofBody) false (steps none ps) = _
    rw [closed, members_of_not_mem hmarks, Option.bind_some, List.map_map]
    simp only [Function.comp_def, char_ofBody]

/-- **Names that stay within one name.**  A pattern of a name takes no text with a slash when its sets
are neither negated nor empty and have no ranges. -/
theorem slash_not_mem_of_takesAll {name : Text} {pattern : Regex.Pattern} (hname : '/' ∉ name)
    (hsimple : ∀ part ∈ parts name, part.IsSimple)
    (hread : Regex.read {} ((parts name).flatMap Part.regex) = .ok pattern)
    (ht : pattern.takesAll t = true) : '/' ∉ t := by
  obtain ⟨sets, hsets, htakes⟩ := takesAll_iff_spells hread
  have hnone : ∀ s ∈ sets, s.has '/' = false := by
    have hslash : ∀ part ∈ parts name, part.IsSlashless := fun _ => isSlashless_of_mem_parts hname
    clear htakes hread
    generalize parts name = ps at hsimple hslash hsets
    induction ps generalizing sets with
    | nil =>
      obtain rfl : sets = [] := List.map_eq_nil_iff.mp (Option.some.inj hsets).symm
      exact fun _ h => nomatch h
    | cons part ps ih =>
      obtain ⟨hpart, hps⟩ := List.forall_mem_cons.mp hsimple
      obtain ⟨hpartslash, hpsslash⟩ := List.forall_mem_cons.mp hslash
      obtain ⟨s, hs, hstep⟩ := exists_set_of_isSimple hpart hpartslash
      rw [List.map_cons, hstep] at hsets
      obtain ⟨ss, hss, heq⟩ := Option.map_eq_some_iff.mp hsets
      cases sets with
      | nil => cases heq
      | cons s' sets =>
        obtain ⟨hhead, rfl⟩ := List.cons.inj heq
        obtain rfl := Step.oneOf.inj hhead
        exact List.forall_mem_cons.mpr ⟨hs, ih sets hps hpsslash hss⟩
  intro hmem
  obtain ⟨s, hs, hhas⟩ := ((htakes t).mp ht).exists_has hmem
  exact absurd (hhas.symm.trans (hnone s hs)) Bool.noConfusion

end Glob

end TreeSieve
