import Mathlib.Algebra.Order.BigOperators.Group.List
import Mathlib.Algebra.Order.Group.Nat
import Mathlib.Data.List.Chain
import TreeSieve.Proofs.Note
import TreeSieve.Proofs.Path
import TreeSieve.Proofs.Snapshot.Steps

/-!
# Proofs — Marks

Tags and the marks in front of them.  Normalisation takes one mark away, and the blanks around the whole:
a word with another mark or with blanks behind its first mark (`Tag.IsMarkedTwice`) becomes a tag that is
not in its normal form.

* `Tag.normalize_normalize_iff`: the words that become tags in their normal form.
* `Note.tags_normal_iff`: the tags of a note are in their normal form just when no word of its front
  matter is marked twice.
* `Item.tagSet_eq_self_iff`: an item keeps a set of tags as it is just when they are in their normal form.
-/

namespace TreeSieve

/-! ### Ordered sets -/

namespace Text

variable {t : Text} {ts : List Text}

/-- A text comes before another one. -/
def IsBefore (t u : Text) : Prop := t ≠ u ∧ le t u = true

theorem insertSorted_of_head (h : ∀ u ∈ ts.head?, IsBefore t u) : insertSorted t ts = t :: ts := by
  cases ts with
  | nil => rfl
  | cons u ts =>
    obtain ⟨hne, hle⟩ := h u rfl
    rw [insertSorted, if_neg hne, if_pos hle]

theorem head?_insertSorted (t : Text) (ts : List Text) :
    ∀ u ∈ (insertSorted t ts).head?, u = t ∨ u ∈ ts.head? := by
  cases ts with
  | nil => exact fun u hu => .inl (Option.some.inj hu).symm
  | cons v ts =>
    rw [insertSorted]
    split
    · exact fun u hu => .inr hu
    · split
      · exact fun u hu => .inl (Option.some.inj hu).symm
      · exact fun u hu => .inr hu

theorem isChain_insertSorted (h : ts.IsChain IsBefore) : (insertSorted t ts).IsChain IsBefore := by
  induction ts with
  | nil => exact List.isChain_singleton t
  | cons u ts ih =>
    rw [insertSorted]
    split
    · exact h
    · next hne =>
      split
      · next hle => exact List.isChain_cons_cons.mpr ⟨⟨hne, hle⟩, h⟩
      · next hle =>
        obtain ⟨hhead, htail⟩ := List.isChain_cons.mp h
        refine (ih htail).cons fun v hv => ?_
        rcases head?_insertSorted t ts v hv with rfl | hv
        · have htotal := le_total u v
          rw [Bool.or_eq_true] at htotal
          exact ⟨Ne.symm hne, htotal.resolve_right hle⟩
        · exact hhead v hv

theorem isChain_sortedSet (ts : List Text) : (sortedSet ts).IsChain IsBefore := by
  induction ts with
  | nil => exact List.isChain_nil
  | cons t ts ih => exact isChain_insertSorted ih

/-- A list in increasing order is an ordered set. -/
theorem sortedSet_eq_self (h : ts.IsChain IsBefore) : sortedSet ts = ts := by
  induction ts with
  | nil => rfl
  | cons t ts ih =>
    obtain ⟨hhead, htail⟩ := List.isChain_cons.mp h
    have hcons : sortedSet (t :: ts) = insertSorted t (sortedSet ts) := rfl
    rw [hcons, ih htail, insertSorted_of_head hhead]

end Text

/-! ### Normal form -/

namespace Tag

variable {t w : Text}

/-- A mark is taken away, if the text has one when its blanks are. -/
theorem normalize_cases (t : Text) :
    (∃ rest, Text.trim t = '#' :: rest ∧ normalize t = rest) ∨
      ((Text.trim t).head? ≠ some '#' ∧ normalize t = Text.trim t) := by
  rw [normalize]
  split
  · next rest heq => exact .inl ⟨rest, heq, rfl⟩
  · next hmark =>
    refine .inr ⟨fun hhead => ?_, rfl⟩
    obtain ⟨rest, heq⟩ := List.head?_eq_some_iff.mp hhead
    exact hmark rest heq

theorem length_normalize_le (t : Text) : (normalize t).length ≤ (Text.trim t).length := by
  rcases normalize_cases t with ⟨rest, htrim, heq⟩ | ⟨-, heq⟩
  · rw [htrim, heq, List.length_cons]
    exact Nat.le_succ _
  · rw [heq]

/-- A tag in its normal form has no blanks around it, and no mark in front. -/
theorem normalize_eq_self_iff : normalize t = t ↔ Text.trim t = t ∧ t.head? ≠ some '#' := by
  constructor
  · intro h
    have htrim : Text.trim t = t := Text.trim_eq_self_of_length (by
      have hlength := length_normalize_le t
      rwa [h] at hlength)
    rcases normalize_cases t with ⟨rest, hmark, heq⟩ | ⟨hmark, -⟩
    · rw [htrim] at hmark
      have hlength := congrArg List.length (hmark.symm.trans (h.symm.trans heq))
      rw [List.length_cons] at hlength
      omega
    · exact ⟨htrim, by rwa [htrim] at hmark⟩
  · rintro ⟨htrim, hmark⟩
    rcases normalize_cases t with ⟨rest, heq, -⟩ | ⟨-, heq⟩
    · rw [← htrim, heq] at hmark
      exact absurd rfl hmark
    · rw [heq, htrim]

/-- A tag that normalisation changes gets shorter. -/
theorem length_normalize_lt (h : normalize t ≠ t) : (normalize t).length < t.length := by
  by_contra hle
  have htrim : Text.trim t = t :=
    Text.trim_eq_self_of_length ((Nat.not_lt.mp hle).trans (length_normalize_le t))
  rcases normalize_cases t with ⟨rest, hmark, heq⟩ | ⟨-, heq⟩
  · rw [htrim] at hmark
    rw [heq, hmark, List.length_cons] at hle
    omega
  · exact h (heq.trans htrim)

/-- A word with a second mark, or a blank, behind the mark at its start. -/
def IsMarkedTwice (w : Text) : Prop :=
  ∃ c rest, Text.trim w = '#' :: c :: rest ∧ (c = '#' ∨ Text.isBlank c = true)

/-- **Normal form.**  A word becomes a tag in its normal form unless it is marked twice. -/
theorem normalize_normalize_iff : normalize (normalize w) = normalize w ↔ ¬ IsMarkedTwice w := by
  rw [normalize_eq_self_iff]
  rcases normalize_cases w with ⟨rest, htrim, heq⟩ | ⟨hmark, heq⟩
  · rw [heq]
    cases rest with
    | nil =>
      refine iff_of_true ⟨rfl, nofun⟩ ?_
      rintro ⟨c, rest, h, -⟩
      cases h.symm.trans htrim
    | cons c rest =>
      have htwice : IsMarkedTwice w ↔ c = '#' ∨ Text.isBlank c = true := by
        constructor
        · rintro ⟨c', rest', h, hc⟩
          cases h.symm.trans htrim
          exact hc
        · exact fun hc => ⟨c, rest, htrim, hc⟩
      -- what stands behind the mark ends as the word does
      have hlast : ∀ d ∈ (c :: rest).getLast?, Text.isBlank d = false := fun d hd =>
        Text.getLast?_trim w d (by rw [htrim, List.getLast?_cons, Option.mem_def.mp hd]; rfl)
      rw [htwice, not_or, List.head?_cons, ne_eq, Option.some.injEq, Bool.not_eq_true, and_comm]
      refine and_congr_right fun _ => ⟨fun h => ?_, fun h => ?_⟩
      · exact Text.head?_trim (c :: rest) c (by rw [h]; rfl)
      · exact Text.trim_eq_self (fun d hd => Option.some.inj hd ▸ h) hlast
  · rw [heq]
    refine iff_of_true ⟨Text.trim_trim w, hmark⟩ ?_
    rintro ⟨c, rest, h, -⟩
    rw [h] at hmark
    exact hmark rfl

end Tag

namespace Item

variable {ts : List Text}

/-- **Items.**  A set of tags that are not empty is kept by an item as it is just when they are in their
normal form. -/
theorem tagSet_eq_self_iff (hsorted : Text.sortedSet ts = ts) (hne : ∀ t ∈ ts, t ≠ []) :
    tagSet ts = ts ↔ ∀ t ∈ ts, Tag.normalize t = t := by
  constructor
  · intro h
    -- a longest tag that is not in its normal form would have to come from a longer one
    by_contra hnot
    have hlong (n : Nat) : ∃ t ∈ ts, Tag.normalize t ≠ t ∧ n ≤ t.length := by
      induction n with
      | zero =>
        obtain ⟨t, ht⟩ := not_forall.mp hnot
        obtain ⟨hmem, hne⟩ := Classical.not_imp.mp ht
        exact ⟨t, hmem, hne, Nat.zero_le _⟩
      | succ n ih =>
        obtain ⟨t, ht, hnormal, hlength⟩ := ih
        rw [← h, mem_tagSet] at ht
        obtain ⟨-, u, hu, rfl⟩ := ht
        have hchanged : Tag.normalize u ≠ u := fun heq => hnormal (by rw [heq, heq])
        exact ⟨u, hu, hchanged, Nat.lt_of_le_of_lt hlength (Tag.length_normalize_lt hchanged)⟩
    obtain ⟨t, ht, -, hlength⟩ := hlong ((ts.map List.length).sum + 1)
    have hle : t.length ≤ (ts.map List.length).sum :=
      List.single_le_sum (fun _ _ => Nat.zero_le _) _ (List.mem_map_of_mem ht)
    exact absurd hlength (Nat.not_le.mpr (Nat.lt_succ_of_le hle))
  · intro h
    have hmap : ts.map Tag.normalize = ts := (List.map_congr_left h).trans (List.map_id ts)
    have hfilter : ts.filter (!·.isEmpty) = ts :=
      List.filter_eq_self.mpr fun t ht => by simpa using hne t ht
    rw [tagSet, hmap, hfilter, hsorted]

end Item

namespace Note

variable {text t : Text} {ts : List Text}

/-- The words of front matter that become tags. -/
def frontWords (text : Text) : List Text :=
  match (split text).1 with
  | none => []
  | some front =>
    match Yaml.read front with
    | .ok v =>
      match tagField? v with
      | some (.text t) => words t
      | some (.list xs) => (xs.filter (·.kind ≠ .null)).map Value.toText
      | _ => []
    | .error _ => []

/-- No word of the front matter is marked twice. -/
def IsMarkedOnce (text : Text) : Prop := ∀ w ∈ frontWords text, ¬ Tag.IsMarkedTwice w

/-- The tags of front matter are these words in their normal form. -/
theorem frontTags_eq {front : List Text} (h : frontTags (split text).1 = .ok front) :
    front = (frontWords text).map Tag.normalize := by
  rw [frontWords]
  cases hfront : (split text).1 with
  | none =>
    rw [hfront] at h
    cases h
    rfl
  | some t =>
    simp only [hfront, frontTags] at h ⊢
    cases hread : Yaml.read t with
    | error e =>
      rw [hread] at h
      cases e <;> cases h
      rfl
    | ok v =>
      simp only [hread, tagsOfDocument] at h ⊢
      cases hfield : tagField? v with
      | none =>
        rw [hfield] at h
        cases h
        rfl
      | some w =>
        simp only [hfield] at h ⊢
        cases w with
        | list xs =>
          simp only [tagsOfValue] at h ⊢
          split at h
          · cases h
            rw [List.map_map]
            rfl
          · cases h
        | _ =>
          cases h
          rfl

/-- Front matter that holds one text under the key of the tags gives the words of this text. -/
theorem tags_oneField {front body value : Text} (hsplit : split text = (some front, body))
    (hread : Yaml.read front = .ok (.map [(.text "tags".toList, .text value)])) :
    frontWords text = words value ∧ tags text = .ok (Text.sortedSet
      (((words value).map Tag.normalize ++ bodyTags body).filter (!·.isEmpty))) := by
  have hfield : tagField? (.map [(.text "tags".toList, .text value)]) = some (.text value) := rfl
  constructor
  · rw [frontWords, hsplit]
    simp only [hread, hfield]
  · refine tags_eq_ok_iff.mpr ⟨(words value).map Tag.normalize, ?_, ?_⟩
    · rw [hsplit]
      simp only [frontTags, hread, tagsOfDocument, hfield, tagsOfValue]
    · rw [hsplit]

/-- The tags of a note are the words of its front matter in their normal form, and those of its body. -/
theorem mem_tags_iff (h : tags text = .ok ts) : t ∈ ts ↔ t ≠ [] ∧
    (t ∈ (frontWords text).map Tag.normalize ∨ t ∈ bodyTags (split text).2) := by
  obtain ⟨front, hfront, rfl⟩ := tags_eq_ok_iff.mp h
  rw [Text.mem_sortedSet, List.mem_filter, List.mem_append, frontTags_eq hfront, and_comm]
  exact and_congr_left fun _ => by simp

/-- **Normal form.** -/
theorem tags_normal_iff (h : tags text = .ok ts) :
    (∀ t ∈ ts, Tag.normalize t = t) ↔ IsMarkedOnce text := by
  simp only [IsMarkedOnce, ← Tag.normalize_normalize_iff]
  constructor
  · intro hts w hw
    by_cases hnil : Tag.normalize w = []
    · rw [hnil]
      rfl
    · exact hts _ ((mem_tags_iff h).mpr ⟨hnil, .inl (List.mem_map_of_mem hw)⟩)
  · intro hwords t ht
    obtain ⟨-, ht | ht⟩ := (mem_tags_iff h).mp ht
    · obtain ⟨w, hw, rfl⟩ := List.mem_map.mp ht
      exact hwords w hw
    · exact (isRun_of_mem_bodyTags ht).normalize_eq

/-- The tags of a note are an ordered set without an empty one. -/
theorem isSet_tags (h : tags text = .ok ts) : Text.sortedSet ts = ts ∧ ∀ t ∈ ts, t ≠ [] := by
  refine ⟨?_, fun t ht => ((mem_tags_iff h).mp ht).1⟩
  obtain ⟨front, -, rfl⟩ := tags_eq_ok_iff.mp h
  exact Text.sortedSet_eq_self (Text.isChain_sortedSet _)

/-- An item keeps the tags of a note as they are just when no word of its front matter is marked twice. -/
theorem tagSet_eq_iff (h : tags text = .ok ts) : Item.tagSet ts = ts ↔ IsMarkedOnce text := by
  obtain ⟨hsorted, hne⟩ := isSet_tags h
  rw [Item.tagSet_eq_self_iff hsorted hne, tags_normal_iff h]

end Note

end TreeSieve
