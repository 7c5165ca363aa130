import TreeSieve.Note
import TreeSieve.Proofs.Options
import TreeSieve.Proofs.Text

/-!
# Proofs — Note

The tags of a note, and when there are none to be had.

* `mem_inlineTags_iff`: the tags in a text are its runs of tag characters behind a `#` that no letter
  and none of a few marks stands before.
* `tags_eq_ok_iff`: the tags of a note are those of its front matter and those of its body.
* `tags_eq_error_iff`: the front matter that makes reading fail (`Stops`); a malformed one does not
  (`tags_of_malformed`).
-/

namespace TreeSieve

namespace Note

variable {text front t : Text} {before? : Option Char} {ts : List Text} {f : Yaml.ValueFault}

/-! ### Tags in a text -/

/-- A tag as it stands in a body. -/
structure IsRun (t : Text) : Prop where
  ne_nil : t ≠ []
  chars : ∀ c ∈ t, isTagChar c = true

/-- A tag begins at a mark, or stands further behind. -/
theorem mem_inlineTags_cons {c : Char} {cs : Text} : t ∈ inlineTags before? (c :: cs) ↔
    (c = '#' ∧ allowsTag before? = true ∧ t ≠ [] ∧ cs.takeWhile isTagChar = t) ∨
      t ∈ inlineTags (some c) cs := by
  rw [inlineTags]
  by_cases h : (c = '#' && allowsTag before?) = true
  · have h' : c = '#' ∧ allowsTag before? = true := by simpa using h
    rw [if_pos h]
    cases hrun : cs.takeWhile isTagChar with
    | nil => exact (or_iff_right fun h => h.2.2.1 h.2.2.2.symm).symm
    | cons d run =>
      rw [List.mem_cons]
      refine or_congr_left ⟨fun ht => ?_, fun ht => ht.2.2.2.symm⟩
      exact ⟨h'.1, h'.2, by rw [ht]; exact List.cons_ne_nil d run, ht.symm⟩
  · rw [if_neg h]
    exact (or_iff_right fun h' => h (by simp [h'.1, h'.2.1])).symm

/-- **Tags in a text.**  A tag is a whole run of tag characters behind a `#` at a place that allows
one. -/
theorem mem_inlineTags_iff : t ∈ inlineTags before? text ↔ IsRun t ∧
    ∃ before rest, text = before ++ '#' :: (t ++ rest) ∧
      allowsTag (before.getLast?.or before?) = true ∧ ∀ c ∈ rest.head?, isTagChar c = false := by
  -- along the text: the `#` is its first character, or stands further behind
  induction text generalizing before? with
  | nil => simp [inlineTags]
  | cons c cs ih =>
    rw [mem_inlineTags_cons, ih, Text.takeWhile_eq_iff]
    constructor
    · rintro (⟨rfl, hbefore, hne, hchars, rest, rfl, hrest⟩ | ⟨hrun, before, rest, rfl, hbefore, hrest⟩)
      · exact ⟨⟨hne, hchars⟩, [], rest, rfl, hbefore, hrest⟩
      · refine ⟨hrun, c :: before, rest, rfl, ?_, hrest⟩
        rw [List.getLast?_cons]
        cases hlast : before.getLast? with
        | none => simpa [hlast] using hbefore
        | some d => simpa [hlast] using hbefore
    · rintro ⟨hrun, before, rest, heq, hbefore, hrest⟩
      rcases before with _ | ⟨d, before⟩
      · obtain ⟨rfl, rfl⟩ := List.cons.inj heq
        exact .inl ⟨rfl, hbefore, hrun.ne_nil, hrun.chars, rest, rfl, hrest⟩
      · obtain ⟨rfl, rfl⟩ := List.cons.inj heq
        refine .inr ⟨hrun, before, rest, rfl, ?_, hrest⟩
        rw [List.getLast?_cons] at hbefore
        cases hlast : before.getLast? with
        | none => simpa [hlast] using hbefore
        | some e => simpa [hlast] using hbefore

/-- A tag of the body is a run of tag characters. -/
theorem isRun_of_mem_bodyTags (h : t ∈ bodyTags text) : IsRun t :=
  (mem_inlineTags_iff.mp (List.mem_filter.mp h).1).1

namespace IsRun

variable {c : Char} (h : IsRun t)

include h

theorem isBlank_eq_false (hc : c ∈ t) : Text.isBlank c = false := by
  have hchar := h.chars c hc
  rw [isTagChar, Bool.and_eq_true] at hchar
  simpa using hchar.1

theorem not_mem (hc : tagEnds.contains c = true) : c ∉ t := by
  intro hmem
  have hchar := h.chars c hmem
  rw [isTagChar, hc] at hchar
  simp at hchar

theorem trim_eq : Text.trim t = t :=
  Text.trim_eq_self (fun _ hc => h.isBlank_eq_false (List.mem_of_mem_head? hc))
    fun _ hc => h.isBlank_eq_false (List.mem_of_mem_getLast? hc)

/-- A tag of a body is a tag in its normal form. -/
theorem normalize_eq : Tag.normalize t = t := by
  rw [Tag.normalize, h.trim_eq]
  split
  · exact absurd List.mem_cons_self (h.not_mem (by decide))
  · rfl

end IsRun

/-! ### Tags of a note -/

/-- The tags of a text are those of its front matter and of its body, without empty ones. -/
theorem tags_eq_ok_iff : tags text = .ok ts ↔ ∃ front, frontTags (split text).1 = .ok front ∧
    ts = Text.sortedSet ((front ++ bodyTags (split text).2).filter (!·.isEmpty)) := by
  simp only [tags, bind, Except.bind_eq_ok, pure, Except.pure, Except.ok.injEq]
  exact exists_congr fun front => and_congr_right fun _ => eq_comm

/-- The tags of the body are among those of the note. -/
theorem mem_of_mem_bodyTags (h : tags text = .ok ts) (ht : t ∈ bodyTags (split text).2) : t ∈ ts := by
  obtain ⟨front, -, rfl⟩ := tags_eq_ok_iff.mp h
  have hne := (isRun_of_mem_bodyTags ht).ne_nil
  rw [Text.mem_sortedSet, List.mem_filter, List.mem_append]
  exact ⟨.inr ht, by simpa using hne⟩

/-- Front matter that makes reading fail: a document with a faulty value, or one that gives the tags as
a list with a number that is too long to be written. -/
inductive Stops (text : Text) : Yaml.ValueFault → Prop
  | value {front : Text} {f : Yaml.ValueFault} : (split text).1 = some front →
      Yaml.read front = .error (.value f) → Stops text f
  | number {front : Text} {v : Value} {xs : List Value} : (split text).1 = some front →
      Yaml.read front = .ok v → tagField? v = some (.list xs) → Value.areWritable xs = false →
      Stops text .hugeNumber

/-- Only a number that cannot be written makes the tags of a document fail. -/
theorem tagsOfDocument_eq_error_iff {v : Value} : tagsOfDocument v = .error f ↔
    f = .hugeNumber ∧ ∃ xs, tagField? v = some (.list xs) ∧ Value.areWritable xs = false := by
  rw [tagsOfDocument]
  cases hfield : tagField? v with
  | none => simp
  | some w =>
    simp only
    cases w with
    | list xs =>
      cases hwritable : Value.areWritable xs with
      | true => simp [tagsOfValue, hwritable]
      | false =>
        simp only [tagsOfValue, hwritable, Bool.false_eq_true, if_false]
        exact ⟨fun h => ⟨(Except.error.inj h).symm, xs, rfl, hwritable⟩, fun h => by rw [h.1]⟩
    | _ => simp [tagsOfValue]

/-- Front matter fails just when it stops the reading. -/
theorem frontTags_eq_error_iff : frontTags (split text).1 = .error f ↔ Stops text f := by
  constructor
  · intro h
    cases hfront : (split text).1 with
    | none =>
      rw [hfront] at h
      cases h
    | some front =>
      rw [hfront] at h
      simp only [frontTags] at h
      cases hread : Yaml.read front with
      | error e =>
        rw [hread] at h
        cases e with
        | malformed => cases h
        | value g =>
          cases h
          exact .value hfront hread
      | ok v =>
        rw [hread] at h
        obtain ⟨rfl, xs, hfield, hlist⟩ := tagsOfDocument_eq_error_iff.mp h
        exact .number hfront hread hfield hlist
  · rintro (⟨hfront, hread⟩ | ⟨hfront, hread, hfield, hlist⟩)
    · simp only [hfront, frontTags, hread]
    · simp only [hfront, frontTags, hread]
      exact tagsOfDocument_eq_error_iff.mpr ⟨rfl, _, hfield, hlist⟩

/-- **Failures.** -/
theorem tags_eq_error_iff : tags text = .error f ↔ Stops text f := by
  rw [← frontTags_eq_error_iff]
  simp only [tags, bind]
  cases frontTags (split text).1 <;> simp [Except.bind, pure, Except.pure]

/-- **A text has tags**, if only none, unless its front matter stops the reading. -/
theorem exists_tags_iff : (∃ ts, tags text = .ok ts) ↔ ∀ f, ¬ Stops text f := by
  simp only [← tags_eq_error_iff]
  cases tags text <;> simp

/-- Malformed front matter is left aside: what remains are the tags of the body. -/
theorem tags_of_malformed (hfront : (split text).1 = some front)
    (hread : Yaml.read front = .error .malformed) :
    tags text = .ok (Text.sortedSet (bodyTags (split text).2)) := by
  refine tags_eq_ok_iff.mpr ⟨[], by simp only [hfront, frontTags, hread], ?_⟩
  rw [List.nil_append, List.filter_eq_self.mpr]
  exact fun t ht => by simpa using (isRun_of_mem_bodyTags ht).ne_nil

end Note

end TreeSieve
