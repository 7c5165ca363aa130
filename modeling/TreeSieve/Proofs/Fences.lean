import Mathlib.Data.List.Basic
import TreeSieve.Proofs.Note
import TreeSieve.Proofs.Parts

/-!
# Proofs — Fences

Fenced code and the tags around it.  A mark of fenced code opens and closes a block only at the start of
a line, so a block whose lines do not start with one is closed by the mark behind them, and taken out as
a whole (`withoutFences_fenced`).  A tag does not go past the end of a line, so none forms where the block
stood (`inlineTags_append`).

* `tags_fenced`: **the code in a block has no part in the tags of a note**, which are those of the lines
  in front of it and those of the rest behind it.
-/

namespace TreeSieve.Note

variable {a c info rest t line : Text}

/-- The mark of fenced code. -/
def fence : Text := "```".toList

/-- A block of fenced code: what stands behind the opening mark, and the lines up to the closing one. -/
def fenced (info c : Text) : Text := fence ++ (info ++ '\n' :: (c ++ fence))

/-- Whole lines, none of which starts with the mark of fenced code. -/
structure AreUnfenced (t : Text) : Prop where
  whole : ∀ c ∈ t.getLast?, c = '\n'
  unfenced : ∀ line ∈ Text.parts '\n' t, atFence line = false

namespace AreUnfenced

/-- Whole lines without a line feed are none. -/
theorem eq_nil (h : AreUnfenced a) (ha : '\n' ∉ a) : a = [] := by
  by_contra hne
  have hlast := h.whole _ (List.getLast?_eq_some_getLast hne)
  exact ha (hlast ▸ List.getLast_mem hne)

/-- The first line, and the lines behind it. -/
theorem of_append (h : AreUnfenced (line ++ '\n' :: a)) (hline : '\n' ∉ line) :
    atFence line = false ∧ AreUnfenced a := by
  have hparts := h.unfenced
  rw [Text.parts_append hline] at hparts
  refine ⟨hparts _ List.mem_cons_self, fun c hc => h.whole c ?_, fun l hl =>
    hparts l (List.mem_cons_of_mem _ hl)⟩
  rw [List.getLast?_append, List.getLast?_cons, Option.mem_def.mp hc]
  rfl

end AreUnfenced

/-! ### Marks at the start of a line -/

/-- A mark on one line stands at the start of a text when it stands at the start of its first line. -/
theorem isPrefixOf_append_feed {mark : Text} (hmark : '\n' ∉ mark) (line t : Text) :
    mark.isPrefixOf (line ++ '\n' :: t) = mark.isPrefixOf line := by
  induction mark generalizing line with
  | nil => cases line <;> rfl
  | cons m mark ih =>
    obtain ⟨hm, hmark⟩ := List.ne_and_not_mem_of_not_mem_cons hmark
    cases line with
    | nil => simp [List.isPrefixOf, hm.symm]
    | cons c line => simp only [List.cons_append, List.isPrefixOf, ih hmark]

/-- Whole lines, if there are any, end with a line feed. -/
theorem eq_nil_or_feed (ha : ∀ c ∈ a.getLast?, c = '\n') : a = [] ∨ ∃ b, a = b ++ ['\n'] := by
  rcases List.eq_nil_or_concat' a with rfl | ⟨b, d, rfl⟩
  · exact .inl rfl
  · exact .inr ⟨b, by rw [ha d (by simp)]⟩

/-- A mark on one line does not go past whole lines. -/
theorem isPrefixOf_append {mark : Text} (hmark : '\n' ∉ mark) (ha : ∀ c ∈ a.getLast?, c = '\n')
    (hne : a ≠ []) (t : Text) : mark.isPrefixOf (a ++ t) = mark.isPrefixOf a := by
  obtain ⟨b, rfl⟩ := (eq_nil_or_feed ha).resolve_left hne
  rw [List.append_assoc, List.singleton_append, isPrefixOf_append_feed hmark,
    isPrefixOf_append_feed hmark]

theorem atFence_append_feed (line t : Text) : atFence (line ++ '\n' :: t) = atFence line :=
  isPrefixOf_append_feed (by decide) line t

theorem behindFence?_append (ha : '\n' ∉ a) (t : Text) : behindFence? (a ++ t) = behindFence? t := by
  induction a with
  | nil => rfl
  | cons c a ih =>
    obtain ⟨hc, ha⟩ := List.ne_and_not_mem_of_not_mem_cons ha
    rw [List.cons_append, behindFence?, ← ih ha]
    simp [hc.symm]

/-- Behind its opening mark, a block goes to the mark behind its lines. -/
theorem behindFence?_fenced (hc : AreUnfenced c) (hinfo : '\n' ∉ info) (rest : Text) :
    behindFence? (info ++ '\n' :: (c ++ (fence ++ rest))) = some rest := by
  -- along the lines of the block, each of which takes the place of what stands behind the mark
  induction c using Text.byParts '\n' generalizing info with
  | last c hfeed =>
    rw [hc.eq_nil hfeed, behindFence?_append hinfo]
    rfl
  | more line c hline ih =>
    obtain ⟨hfence, hc⟩ := hc.of_append hline
    rw [behindFence?_append hinfo, behindFence?, List.append_assoc, List.cons_append,
      atFence_append_feed, hfence, Bool.and_false, if_neg Bool.false_ne_true]
    exact ih hc hline

/-! ### Taking out a block -/

theorem withoutFences_cons {lineStart : Bool} {c : Char} (h : (lineStart && atFence (c :: t)) = false) :
    withoutFences lineStart (c :: t) = c :: withoutFences (c = '\n') t := by
  rw [withoutFences, h, if_neg Bool.false_ne_true]

/-- A line that does not start with a mark stays. -/
theorem withoutFences_line {lineStart : Bool} (hline : '\n' ∉ line)
    (h : (lineStart && atFence line) = false) (t : Text) :
    withoutFences lineStart (line ++ '\n' :: t) = line ++ '\n' :: withoutFences true t := by
  induction line generalizing lineStart with
  | nil =>
    have hfence : atFence ('\n' :: t) = false := atFence_append_feed [] t
    rw [List.nil_append, withoutFences_cons (by rw [hfence, Bool.and_false])]
    rfl
  | cons c line ih =>
    obtain ⟨hc, hline⟩ := List.ne_and_not_mem_of_not_mem_cons hline
    rw [← atFence_append_feed (c :: line) t] at h
    have hcons : withoutFences lineStart (c :: (line ++ '\n' :: t)) =
        c :: withoutFences (c = '\n') (line ++ '\n' :: t) := withoutFences_cons h
    rw [List.cons_append, hcons, decide_eq_false hc.symm, ih hline (Bool.false_and _),
      List.cons_append]

/-- Whole lines that do not start with a mark stay. -/
theorem withoutFences_append (ha : AreUnfenced a) (t : Text) :
    withoutFences true (a ++ t) = a ++ withoutFences true t := by
  induction a using Text.byParts '\n' with
  | last a hfeed =>
    rw [ha.eq_nil hfeed]
    rfl
  | more line a hline ih =>
    obtain ⟨hfence, ha⟩ := ha.of_append hline
    rw [List.append_assoc, List.cons_append, withoutFences_line hline (by rw [hfence]; rfl),
      ih ha, List.append_assoc, List.cons_append]

/-- At a mark, everything up to behind the next mark is taken out. -/
theorem withoutFences_fence (h : behindFence? t = some rest) :
    withoutFences true (fence ++ t) = withoutFences false rest := by
  have hfence : atFence ('`' :: '`' :: '`' :: t) = true := rfl
  have hopen : withoutFences true ('`' :: '`' :: '`' :: t) = withoutFences false rest := by
    rw [withoutFences, hfence, Bool.and_self, if_pos rfl]
    split
    · next r hr =>
      obtain rfl : rest = r := Option.some.inj (h.symm.trans hr)
      rfl
    · next hnone => exact absurd (h.symm.trans hnone) (Option.some_ne_none rest)
  exact hopen

/-- **Taking out a block.**  It is taken out as a whole, and the rest goes on in the line of the closing
mark. -/
theorem withoutFences_fenced (ha : AreUnfenced a) (hinfo : '\n' ∉ info) (hc : AreUnfenced c)
    (rest : Text) :
    withoutFences true (a ++ (fenced info c ++ rest)) = a ++ withoutFences false rest := by
  have hblock : fenced info c ++ rest = fence ++ (info ++ '\n' :: (c ++ (fence ++ rest))) := by
    simp only [fenced, List.append_assoc, List.cons_append]
  rw [withoutFences_append ha, hblock, withoutFences_fence (behindFence?_fenced hc hinfo rest)]

/-! ### Tags around a block -/

/-- A line feed allows a tag behind it, as the start of a text does. -/
theorem inlineTags_feed (t : Text) : inlineTags (some '\n') t = inlineTags none t := by
  have hfeed : allowsTag (some '\n') = allowsTag none := by decide
  cases t with
  | nil => rfl
  | cons c t => rw [inlineTags, inlineTags, hfeed]

/-- A tag does not go past a line feed. -/
theorem takeWhile_append_feed (a t : Text) :
    (a ++ '\n' :: t).takeWhile isTagChar = a.takeWhile isTagChar := by
  have hfeed : isTagChar '\n' = false := by decide
  induction a with
  | nil => simp [hfeed]
  | cons c a ih => simp only [List.cons_append, List.takeWhile_cons, ih]

theorem inlineTags_append_feed (before? : Option Char) (a t : Text) :
    inlineTags before? (a ++ '\n' :: t) = inlineTags before? a ++ inlineTags none t := by
  induction a generalizing before? with
  | nil =>
    have hmark : ¬(decide ('\n' = '#') && allowsTag before?) = true := Bool.false_ne_true
    have hpass : inlineTags before? ('\n' :: t) = inlineTags (some '\n') t := by
      rw [inlineTags, if_neg hmark]
    rw [List.nil_append, hpass, inlineTags_feed]
    rfl
  | cons c a ih =>
    rw [List.cons_append, inlineTags, inlineTags, takeWhile_append_feed, ih]
    split
    · cases a.takeWhile isTagChar <;> rfl
    · rfl

/-- **Tags of two texts**, the first of which ends with a line. -/
theorem inlineTags_append (ha : ∀ c ∈ a.getLast?, c = '\n') (t : Text) :
    inlineTags none (a ++ t) = inlineTags none a ++ inlineTags none t := by
  obtain rfl | ⟨a, rfl⟩ := eq_nil_or_feed ha
  · rfl
  · have hend : inlineTags none (a ++ ['\n']) = inlineTags none a := by
      rw [inlineTags_append_feed, inlineTags, List.append_nil]
    rw [hend, List.append_assoc, List.singleton_append, inlineTags_append_feed]

/-- Lines that do not start with the opening of front matter have none, whatever is put behind them. -/
theorem split_append (hstart : "---".toList.isPrefixOf (a ++ t) = false) :
    split (a ++ t) = (none, a ++ t) := by
  have hopening : behindOpening? (a ++ t) = none := by
    rw [behindOpening?, hstart, if_neg Bool.false_ne_true]
  rw [split, hopening]
  rfl

/-- **Fenced code.**  Let `a` be whole lines that do not start with the mark of fenced code, nor as a
whole with the opening of front matter, and let a block of fenced code follow them, and any rest.  Then
the tags are the same whatever the code is and whatever stands behind its opening mark: the tags of the
lines in front, and those of the rest, read on its own and with its own fenced code taken out. -/
theorem tags_fenced (ha : AreUnfenced a) (hstart : "---".toList.isPrefixOf a = false) (rest : Text) :
    ∃ ts, (∀ info c, '\n' ∉ info → AreUnfenced c → tags (a ++ (fenced info c ++ rest)) = .ok ts) ∧
      ∀ t, t ∈ ts ↔ t ∈ bodyTags a ∨
        (t ∈ inlineTags none (withoutFences false rest) ∧ t.all Text.isDigit = false) := by
  have hfront (info c : Text) : "---".toList.isPrefixOf (a ++ (fenced info c ++ rest)) = false := by
    by_cases hne : a = []
    · rw [hne]
      rfl
    · rw [isPrefixOf_append (by decide) ha.whole hne, hstart]
  have hlines : withoutFences true a = a := by
    have h := withoutFences_append ha []
    rwa [List.append_nil, withoutFences, List.append_nil] at h
  let found := (inlineTags none (a ++ withoutFences false rest)).filter fun t => !t.all Text.isDigit
  refine ⟨Text.sortedSet (found.filter (!·.isEmpty)), fun info c hinfo hc => ?_, fun t => ?_⟩
  · rw [tags_eq_ok_iff, split_append (hfront info c)]
    refine ⟨[], rfl, ?_⟩
    rw [bodyTags, withoutFences_fenced ha hinfo hc, List.nil_append]
  · rw [Text.mem_sortedSet, bodyTags, hlines]
    simp only [found, inlineTags_append ha.whole, List.mem_filter, List.mem_append]
    constructor
    · rintro ⟨⟨ht | ht, hdigits⟩, -⟩
      · exact .inl ⟨ht, hdigits⟩
      · exact .inr ⟨ht, by simpa using hdigits⟩
    · have hne {u : Text} (ht : t ∈ inlineTags none u) : (!t.isEmpty) = true := by
        simpa using (mem_inlineTags_iff.mp ht).1.ne_nil
      rintro (⟨ht, hdigits⟩ | ⟨ht, hdigits⟩)
      · exact ⟨⟨.inl ht, hdigits⟩, hne ht⟩
      · exact ⟨⟨.inr ht, by simpa using hdigits⟩, hne ht⟩

theorem tags_fenced_twoBlocks : AreUnfenced "#a\n".toList ∧
    "---".toList.isPrefixOf "#a\n".toList = false ∧
    ∃ ts, (∀ info c, '\n' ∉ info → AreUnfenced c →
        tags ("#a\n".toList ++ (fenced info c ++ "x#no #b\n```\n#y\n``` #1 #c".toList)) = .ok ts) ∧
      ∀ t, t ∈ ts ↔ t ∈ ["a", "b", "c"].map (·.toList) := by
  have ha : AreUnfenced "#a\n".toList := ⟨fun _ hc => (Option.some.inj hc).symm, by decide⟩
  have hfront : bodyTags "#a\n".toList = ["a".toList] := by decide +kernel
  have hrest : inlineTags none (withoutFences false "x#no #b\n```\n#y\n``` #1 #c".toList) =
      ["b", "1", "c"].map (·.toList) := by decide +kernel
  have hdigits : ∀ t ∈ ["b", "1", "c"].map (·.toList),
      t.all Text.isDigit = false ↔ t ∈ ["b", "c"].map (·.toList) := by decide
  obtain ⟨ts, hts, hmem⟩ := tags_fenced ha (by decide) "x#no #b\n```\n#y\n``` #1 #c".toList
  refine ⟨ha, by decide, ts, hts, fun t => ?_⟩
  rw [hmem, hfront, hrest, and_congr_right (hdigits t), List.mem_singleton]
  simp only [List.map_cons, List.map_nil, List.mem_cons]
  tauto

end TreeSieve.Note
