import TreeSieve.Proofs.Glob.Matching
import TreeSieve.Proofs.Glob.Steps

/-!
# Proofs — Glob — Below

A pattern that is found in a path is found in the paths below it, as far as line feeds allow.

What the components of a pattern take, with sets or without, is the same when more text follows
(`Leads.extend`): nothing in their expression asks what stands behind (`Node.looksBack`).  Only the end
of the expression does, and it goes on over a slash and a line (`IsEnd`).

* `finds_below`: a pattern found in a path without a line feed at its end is found in every path of one
  line below it.
-/

namespace TreeSieve

namespace Regex

/-! ### More text -/

/-- The place with more text behind. -/
def Place.extend (p : Place) (u : Text) : Place := { p with after := p.after ++ u }

/-- Whether an expression asks nothing about the text behind what it takes. -/
def Node.looksBack : Node → Bool
  | anchor .lineStart | anchor .textStart => true
  | anchor _ | ahead .. => false
  | seq a b | alt a b => a.looksBack && b.looksBack
  | group _ body | rounds _ _ _ body => body.looksBack
  | _ => true

variable {f : Flags} {n : Node} {k : Nat} {p q : Place} {R : Place → Place → Prop} {xs t u : Text}

/-- More text at the end does not change what was taken. -/
theorem Place.Takes.extend (h : p.Takes xs q) (u : Text) : (p.extend u).Takes xs (q.extend u) where
  after := by simp only [Place.extend, h.after, List.append_assoc]
  before := h.before
  pos := h.pos

theorem Place.IsIn.extend (h : p.IsIn t) (u : Text) : (p.extend u).IsIn (t ++ u) where
  text := by simp only [Place.extend, ← h.text, List.append_assoc]
  pos := h.pos

theorem CharTest.Reads.extend {c : CharTest} (h : c.Reads p q) (u : Text) :
    c.Reads (p.extend u) (q.extend u) := by
  obtain ⟨x, hx, htakes⟩ := CharTest.reads_iff.mp h
  exact CharTest.reads_iff.mpr ⟨x, hx, htakes.extend u⟩

/-- Rounds go on in a longer text when each of them does. -/
theorem Rounds.extend (hR : ∀ p q, R p q → R (p.extend u) (q.extend u)) (h : Rounds R k p q) :
    Rounds R k (p.extend u) (q.extend u) := by
  induction h with
  | refl p => exact .refl _
  | more h _ ih => exact .more (hR _ _ h) ih

/-- **An expression that looks back** takes the same text when more follows. -/
theorem Node.Leads.extend (hn : n.looksBack = true) (h : n.Leads f p q) (u : Text) :
    n.Leads f (p.extend u) (q.extend u) := by
  induction n generalizing p q with
  | empty => exact congrArg (Place.extend · u) h
  | literal | notLiteral | set | any => exact CharTest.Reads.extend h u
  | anchor a =>
    obtain ⟨ha, rfl⟩ := h
    cases a with
    | lineStart | textStart => exact ⟨ha, rfl⟩
    | lineEnd | textEnd | wordEdge | notWordEdge => exact absurd hn Bool.false_ne_true
  | seq a b iha ihb =>
    obtain ⟨ha, hb⟩ := Bool.and_eq_true_iff.mp hn
    obtain ⟨o, hpo, hoq⟩ := h
    exact ⟨o.extend u, iha ha hpo, ihb hb hoq⟩
  | alt a b iha ihb =>
    obtain ⟨ha, hb⟩ := Bool.and_eq_true_iff.mp hn
    exact h.imp (iha ha) (ihb hb)
  | group _ _ ih => exact ih hn h
  | rounds _ _ _ _ ih =>
    obtain ⟨k, hleast, hmost, hrounds⟩ := h
    exact ⟨k, hleast, hmost, hrounds.extend fun _ _ => ih hn⟩
  | ahead => exact absurd hn Bool.false_ne_true
  | never | switched | atomic | behind | same | given => exact h.elim

theorem Node.looksBack_append {a b : Node} :
    (a.append b).looksBack = (a.looksBack && b.looksBack) := by
  induction a with
  | empty => simp [append, looksBack]
  | seq c d _ ih => simp [append, looksBack, ih, Bool.and_assoc]
  | anchor x => cases x <;> cases b <;> simp [append, looksBack]
  | _ => cases b <;> simp [append, looksBack]

/-- A sequence looks back when its members do. -/
theorem Node.looksBack_sequence {ns : List Node} :
    (sequence ns).looksBack = ns.all looksBack := by
  induction ns with
  | nil => rfl
  | cons n ns ih => exact looksBack_append.trans (by rw [← sequence, ih, List.all_cons])

end Regex

namespace Glob

open Regex (Node Place)

variable {p q r : Place} {ps : List Regex.Part} {ss : List Step} {s t u : Text} {floating : Bool}

/-! ### What stands behind a path -/

/-- **Parts that look back** lead as far in a longer text. -/
theorem Along.extend (hps : ∀ r ∈ ps, r.node.looksBack = true) (h : Along ps p q) (u : Text) :
    Along ps (p.extend u) (q.extend u) := by
  refine Node.Leads.extend ?_ h u
  rw [Node.looksBack_sequence, List.all_map, List.all_eq_true]
  exact hps

/-- No step looks at what follows. -/
theorem looksBack_part (s : Step) : s.part.node.looksBack = true := by
  have hset : ∀ negated items, (Regex.setNode negated items).looksBack = true := by
    intro negated items
    unfold Regex.setNode
    split
    · split <;> rfl
    · rfl
  cases s with
  | oneOf s =>
    change s.part.node.looksBack = true
    unfold CharSet.part
    split
    · exact hset _ _
    · exact hset _ _
  | folders | rest => rfl

theorem looksBack_startPart (floating : Bool) : (startPart floating).node.looksBack = true := by
  cases floating <;> rfl

/-- Behind a path that has no line feed at its end, a slash and a line may follow. -/
theorem IsEnd.extend (ht : IsEnd t) (hline : t.getLast? ≠ some '\n') (hu : IsLine u) :
    IsEnd (t ++ '/' :: u) := by
  rcases ht with rfl | rfl | ⟨v, rfl, hv⟩
  · exact .inr (.inr ⟨u, rfl, hu⟩)
  · exact absurd rfl hline
  · obtain ⟨xs, e, rfl, hxs, rfl | rfl⟩ := isLine_iff.mp hv
    · obtain ⟨ys, e', rfl, hys, he'⟩ := isLine_iff.mp hu
      refine .inr (.inr ⟨xs ++ '/' :: (ys ++ e'), by simp, isLine_iff.mpr
        ⟨xs ++ '/' :: ys, e', by simp, ?_, he'⟩⟩)
      intro hm
      rcases List.mem_append.mp hm with hm | hm
      · exact hxs hm
      · exact (List.mem_cons.mp hm).elim (absurd · (by decide)) hys
    · rw [← List.cons_append, List.getLast?_concat] at hline
      exact absurd rfl hline

/-! ### Search -/

/-- The pattern of steps is found where they lead up to what may stand behind. -/
theorem finds_steps_iff :
    (Regex.Pattern.ofNode {} 0 [] (stepsNode [startPart floating] ss endParts)).finds s = true ↔
      ∃ p q, p.IsIn s ∧ Along (startPart floating :: ss.map Step.part) p q ∧ IsEnd q.after := by
  have hregular : (stepsNode [startPart floating] ss endParts).isRegular = true :=
    isRegular_stepsNode (isRegular_startPart floating) isRegular_endParts
  have hopening : (stepsNode [startPart floating] ss endParts).opening? false {} = none :=
    opening?_append_startPart floating _
  rw [Regex.Pattern.finds_iff hregular hopening]
  have hleads : ∀ p r, (stepsNode [startPart floating] ss endParts).Leads {} p r ↔
      ∃ q, Along (startPart floating :: ss.map Step.part) p q ∧ Along endParts q r := by
    intro p r
    rw [← along_append]
    rfl
  simp only [hleads, ← exists_along_endParts_iff]
  constructor
  · rintro ⟨p, r, hp, q, hpq, hqr⟩
    exact ⟨p, q, hp, hpq, r, hqr⟩
  · rintro ⟨p, q, hp, hpq, r, hqr⟩
    exact ⟨p, r, hp, q, hpq, hqr⟩

/-- A pattern without components is found nowhere. -/
theorem not_finds_of_nil {pattern : Regex.Pattern}
    (hread : Regex.read {} (regex ⟨floating, []⟩) = .ok pattern) : ¬ pattern.finds s = true := by
  have hparts : Regex.ReadsAs (regex ⟨floating, [].map Segment.ofText⟩) (pathParts floating []) :=
    readsAs_regex nofun
  have hempty : Regex.read {} (regex ⟨floating, []⟩) = .ok (.ofNode {} 0 [] (pathNode floating [])) :=
    Regex.read_of_readsAs hparts (isRegular_pathNode floating [])
  obtain rfl := Except.ok.inj (hread.symm.trans hempty)
  exact not_finds_nil floating s

/-- **Below a path.**  A pattern that is found in a path without a line feed at its end is found in
every path below it by one line. -/
theorem finds_below {pattern : Regex.Pattern} (hread : Regex.read {} (ofText t).regex = .ok pattern)
    (hs : s.getLast? ≠ some '\n') (hu : IsLine u) (h : pattern.finds s = true) :
    pattern.finds (s ++ '/' :: u) = true := by
  rw [ofText_eq] at hread
  by_cases hne : (outline t).components = []
  · rw [hne] at hread
    exact absurd h (not_finds_of_nil hread)
  obtain ⟨ss, -, rfl⟩ := (read_regex_iff hne).mp hread
  obtain ⟨p, q, hp, hpq, hend⟩ := finds_steps_iff.mp h
  refine finds_steps_iff.mpr ⟨p.extend ('/' :: u), q.extend ('/' :: u), hp.extend _, ?_, ?_⟩
  · refine hpq.extend (fun r hr => ?_) _
    rcases List.mem_cons.mp hr with rfl | hr
    · exact looksBack_startPart _
    · obtain ⟨s, -, rfl⟩ := List.mem_map.mp hr
      exact looksBack_part s
  · -- what stands behind the components is the end of the path
    obtain ⟨xs, hxs⟩ := Node.Leads.takes hpq
    have hlast : q.after.getLast? ≠ some '\n' := by
      intro hlast
      refine hs ?_
      rw [← hp.text, hxs.after, ← List.append_assoc, List.getLast?_append, hlast]
      rfl
    exact hend.extend hlast hu

end Glob

end TreeSieve
