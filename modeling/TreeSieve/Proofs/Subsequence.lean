import Mathlib.Data.List.Forall2
import TreeSieve.Proofs.Text
import TreeSieve.Subsequence

/-!
# Proofs — Subsequence

What the two scans for a subsequence find.

An embedding of a needle into a text gives each character of the needle a place where it stands, from
left to right (`IsEmbedding`).  It is the leftmost one when every embedding has each character at the
same place or behind it (`IsLeftmost`).  A scan takes a character at the first place left for it, and
gives nothing away by that: what an embedding has behind its first place is an embedding of the rest
of the needle (`IsEmbedding.tail`).

* `scan_iff`, `isSome_positionsFrom`: both scans succeed on the subsequences of a text.
* `fits_iff_leftmost`: **the scans are exact**, for texts and patterns as they are compared, and the
  places given are the leftmost ones.
-/

namespace TreeSieve.Subsequence

variable {needle hay : Text} {n h : Char} {ps qs : List Nat}

/-- The places are those of the characters of the needle in a text, from left to right. -/
structure IsEmbedding (needle hay : Text) (ps : List Nat) : Prop where
  increasing : ps.Pairwise (· < ·)
  reads : List.Forall₂ (fun p c => hay[p]? = some c) ps needle

/-- No embedding has a character further to the left. -/
structure IsLeftmost (needle hay : Text) (ps : List Nat) : Prop where
  embedding : IsEmbedding needle hay ps
  least : ∀ qs, IsEmbedding needle hay qs → List.Forall₂ (· ≤ ·) ps qs

/-! ### Embeddings into a text with one character more -/

theorem isEmbedding_nil : IsEmbedding [] hay ps ↔ ps = [] := by
  refine ⟨fun he => List.forall₂_nil_right_iff.mp he.reads, ?_⟩
  rintro rfl
  exact ⟨.nil, .nil⟩

/-- Places behind the first character are places in what follows it. -/
theorem isEmbedding_map_succ :
    IsEmbedding needle (h :: hay) (ps.map (· + 1)) ↔ IsEmbedding needle hay ps := by
  have hincreasing : (ps.map (· + 1)).Pairwise (· < ·) ↔ ps.Pairwise (· < ·) := by
    simp only [List.pairwise_map, Nat.add_lt_add_iff_right]
  have hreads : List.Forall₂ (fun p c => (h :: hay)[p]? = some c) (ps.map (· + 1)) needle ↔
      List.Forall₂ (fun p c => hay[p]? = some c) ps needle := by
    simp only [List.forall₂_map_left_iff, List.getElem?_cons_succ]
  exact ⟨fun he => ⟨hincreasing.mp he.increasing, hreads.mp he.reads⟩,
    fun he => ⟨hincreasing.mpr he.increasing, hreads.mpr he.reads⟩⟩

/-- An embedding that takes the first place takes its character. -/
theorem isEmbedding_zero_cons :
    IsEmbedding (n :: needle) (h :: hay) (0 :: ps.map (· + 1)) ↔
      h = n ∧ IsEmbedding needle hay ps := by
  constructor
  · rintro ⟨hincreasing, hreads⟩
    obtain ⟨hhead, htail⟩ := List.forall₂_cons.mp hreads
    exact ⟨Option.some.inj hhead, isEmbedding_map_succ.mp ⟨hincreasing.of_cons, htail⟩⟩
  · rintro ⟨rfl, he⟩
    have hsucc := (isEmbedding_map_succ (h := h)).mpr he
    refine ⟨List.pairwise_cons.mpr ⟨fun p hp => ?_, hsucc.increasing⟩, .cons rfl hsucc.reads⟩
    obtain ⟨q, -, rfl⟩ := List.mem_map.mp hp
    exact Nat.succ_pos q

/-- Places behind the first character are places in the rest of the text. -/
theorem exists_map_succ (hps : ∀ p ∈ ps, 0 < p) : ∃ qs : List Nat, ps = qs.map (· + 1) := by
  refine ⟨ps.map (· - 1), ?_⟩
  rw [List.map_map]
  exact (List.map_id' ps).symm.trans
    (List.map_congr_left fun p hp => (Nat.sub_add_cancel (hps p hp)).symm)

/-- Increasing places are all in the rest of the text, or all but the first. -/
theorem exists_map_succ_or (hps : ps.Pairwise (· < ·)) :
    ∃ qs : List Nat, ps = qs.map (· + 1) ∨ ps = 0 :: qs.map (· + 1) := by
  cases ps with
  | nil => exact ⟨[], .inl rfl⟩
  | cons p ps =>
    obtain ⟨hp, -⟩ := List.pairwise_cons.mp hps
    cases p with
    | zero =>
      obtain ⟨qs, rfl⟩ := exists_map_succ hp
      exact ⟨qs, .inr rfl⟩
    | succ p =>
      have hpos : ∀ q ∈ (p + 1) :: ps, 0 < q :=
        List.forall_mem_cons.mpr ⟨Nat.succ_pos p, fun q hq => Nat.zero_lt_of_lt (hp q hq)⟩
      obtain ⟨qs, hqs⟩ := exists_map_succ hpos
      exact ⟨qs, .inl hqs⟩

/-- Behind its first place, an embedding embeds the rest of the needle. -/
theorem IsEmbedding.tail (he : IsEmbedding (n :: needle) hay ps) :
    ∃ p qs, ps = p :: qs ∧ IsEmbedding needle hay qs := by
  obtain ⟨p, qs, -, hreads, rfl⟩ := List.forall₂_cons_right_iff.mp he.reads
  exact ⟨p, qs, rfl, he.increasing.of_cons, hreads⟩

/-! ### Leftmost embeddings -/

theorem isLeftmost_nil : IsLeftmost [] hay [] := by
  refine ⟨isEmbedding_nil.mpr rfl, fun qs hqs => ?_⟩
  rw [isEmbedding_nil.mp hqs]
  exact .nil

/-- A character that begins both the needle and the text is taken at once. -/
theorem IsLeftmost.take (hl : IsLeftmost needle hay ps) (n : Char) :
    IsLeftmost (n :: needle) (n :: hay) (0 :: ps.map (· + 1)) := by
  refine ⟨isEmbedding_zero_cons.mpr ⟨rfl, hl.embedding⟩, fun qs hqs => ?_⟩
  obtain ⟨rs, rfl | rfl⟩ := exists_map_succ_or hqs.increasing
  · -- the embedding passes over the character, so its other places embed the rest of the needle
    obtain ⟨r, rs, rfl, hrest⟩ := (isEmbedding_map_succ.mp hqs).tail
    refine .cons (Nat.zero_le _) ?_
    rw [List.forall₂_map_left_iff, List.forall₂_map_right_iff]
    exact (hl.least rs hrest).imp fun _ _ => Nat.succ_le_succ
  · refine .cons (Nat.le_refl 0) ?_
    rw [List.forall₂_map_left_iff, List.forall₂_map_right_iff]
    exact (hl.least rs (isEmbedding_zero_cons.mp hqs).2).imp fun _ _ => Nat.succ_le_succ

/-- A character that does not begin the needle is passed over. -/
theorem IsLeftmost.pass (hl : IsLeftmost (n :: needle) hay ps) (hne : h ≠ n) :
    IsLeftmost (n :: needle) (h :: hay) (ps.map (· + 1)) := by
  refine ⟨isEmbedding_map_succ.mpr hl.embedding, fun qs hqs => ?_⟩
  obtain ⟨rs, rfl | rfl⟩ := exists_map_succ_or hqs.increasing
  · rw [List.forall₂_map_left_iff, List.forall₂_map_right_iff]
    exact (hl.least rs (isEmbedding_map_succ.mp hqs)).imp fun _ _ => Nat.succ_le_succ
  · exact absurd (isEmbedding_zero_cons.mp hqs).1 hne

/-- Places that are no further on either side are the same. -/
theorem eq_of_forall₂_le (hpq : List.Forall₂ (· ≤ ·) ps qs) (hqp : List.Forall₂ (· ≤ ·) qs ps) :
    ps = qs := by
  induction hpq with
  | nil => rfl
  | cons hle _ ih =>
    obtain ⟨hge, hrest⟩ := List.forall₂_cons.mp hqp
    rw [Nat.le_antisymm hle hge, ih hrest]

/-- There is one leftmost embedding at most. -/
theorem IsLeftmost.eq (hp : IsLeftmost needle hay ps) (hq : IsLeftmost needle hay qs) : ps = qs :=
  eq_of_forall₂_le (hp.least qs hq.embedding) (hq.least ps hp.embedding)

/-! ### The scans -/

/-- A scan finds just the subsequences. -/
theorem scan_iff : scan needle hay = true ↔ needle.Sublist hay := by
  induction hay generalizing needle with
  | nil => cases needle <;> simp [scan]
  | cons h hay ih =>
    cases needle with
    | nil => simp [scan]
    | cons n needle =>
      rw [scan]
      split
      · next heq => rw [heq, ih, List.cons_sublist_cons]
      · next hne =>
        rw [ih]
        refine ⟨fun hsub => hsub.cons h, fun hsub => ?_⟩
        cases hsub with
        | cons _ hsub => exact hsub
        | cons_cons _ _ => exact absurd rfl hne

/-- Places are found just when the scan succeeds. -/
theorem isSome_positionsFrom (i : Nat) (needle hay : Text) :
    (positionsFrom i needle hay).isSome = scan needle hay := by
  fun_induction positionsFrom i needle hay with
  | case1 => rw [scan, Option.isSome_some]
  | case2 => rfl
  | case3 i ns h hs ih => rw [scan, if_pos rfl, Option.isSome_map, ih]
  | case4 i n ns h hs hne ih => rw [scan, if_neg hne, ih]

theorem positionsFrom_succ (i : Nat) (needle hay : Text) :
    positionsFrom (i + 1) needle hay = (positionsFrom i needle hay).map (List.map (· + 1)) := by
  induction hay generalizing i needle with
  | nil => cases needle <;> rfl
  | cons h hay ih =>
    cases needle with
    | nil => rfl
    | cons n needle =>
      rw [positionsFrom, positionsFrom]
      split
      · rw [ih (i + 1), Option.map_map, Option.map_map]
        rfl
      · exact ih (i + 1) (n :: needle)

/-- **A scan takes the leftmost places.** -/
theorem isLeftmost_of_positionsFrom (h : positionsFrom 0 needle hay = some ps) :
    IsLeftmost needle hay ps := by
  induction hay generalizing needle ps with
  | nil =>
    cases needle with
    | nil =>
      cases h
      exact isLeftmost_nil
    | cons n needle => cases h
  | cons c hay ih =>
    cases needle with
    | nil =>
      cases h
      exact isLeftmost_nil
    | cons n needle =>
      rw [positionsFrom, positionsFrom_succ, positionsFrom_succ] at h
      split at h
      · next heq =>
        rw [Option.map_map] at h
        obtain ⟨qs, hqs, rfl⟩ := Option.map_eq_some_iff.mp h
        rw [heq]
        exact (ih hqs).take n
      · next hne =>
        obtain ⟨qs, hqs, rfl⟩ := Option.map_eq_some_iff.mp h
        exact (ih hqs).pass hne

/-- What can be embedded is a subsequence. -/
theorem IsEmbedding.sublist (he : IsEmbedding needle hay ps) : needle.Sublist hay := by
  induction hay generalizing needle ps with
  | nil =>
    cases needle with
    | nil => exact List.Sublist.refl []
    | cons n needle =>
      obtain ⟨p, qs, hp, -⟩ := List.forall₂_cons_right_iff.mp he.reads
      cases hp
  | cons h hay ih =>
    obtain ⟨qs, rfl | rfl⟩ := exists_map_succ_or he.increasing
    · exact (ih (isEmbedding_map_succ.mp he)).cons h
    · obtain ⟨n, needle, hn, -, rfl⟩ := List.forall₂_cons_left_iff.mp he.reads
      obtain ⟨rfl, hrest⟩ := isEmbedding_zero_cons.mp he
      exact (ih hrest).cons_cons h

/-- **The places found** are the leftmost ones. -/
theorem positionsFrom_zero_iff :
    positionsFrom 0 needle hay = some ps ↔ IsLeftmost needle hay ps := by
  refine ⟨isLeftmost_of_positionsFrom, fun hl => ?_⟩
  have hsome : (positionsFrom 0 needle hay).isSome = true := by
    rw [isSome_positionsFrom, scan_iff]
    exact hl.embedding.sublist
  obtain ⟨qs, hqs⟩ := Option.isSome_iff_exists.mp hsome
  rw [hqs, hl.eq (isLeftmost_of_positionsFrom hqs)]

/-! ### Texts as they are compared -/

theorem key_nil (cs : Bool) : key cs [] = [] := by
  cases cs <;> rfl

/-- A text does not vanish in lower case. -/
theorem key_ne_nil (cs : Bool) {t : Text} (ht : t ≠ []) : key cs t ≠ [] := by
  cases t with
  | nil => exact absurd rfl ht
  | cons c t =>
    cases cs with
    | true => exact List.cons_ne_nil c t
    | false => exact List.append_ne_nil_of_left_ne_nil Text.lowerAt_ne_nil _

/-- What is asked about empty texts first is what the scan would answer. -/
theorem fits_eq_scan (cs : Bool) (text pattern : Text) :
    fits cs text pattern = scan (key cs pattern) (key cs text) := by
  match pattern, text with
  | [], _ =>
    rw [key_nil, scan]
    rfl
  | n :: ns, [] =>
    obtain ⟨m, ms, hm⟩ := List.exists_cons_of_ne_nil (key_ne_nil cs (List.cons_ne_nil n ns))
    rw [hm, key_nil, scan]
    rfl
  | _ :: _, _ :: _ => rfl

theorem positions?_eq_positionsFrom (cs : Bool) (text pattern : Text) :
    positions? cs text pattern = positionsFrom 0 (key cs pattern) (key cs text) := by
  match pattern, text with
  | [], _ =>
    rw [key_nil, positionsFrom]
    rfl
  | n :: ns, [] =>
    obtain ⟨m, ms, hm⟩ := List.exists_cons_of_ne_nil (key_ne_nil cs (List.cons_ne_nil n ns))
    rw [hm, key_nil, positionsFrom]
    rfl
  | _ :: _, _ :: _ => rfl

/-- A pattern fits when its key is a subsequence of that of the text. -/
theorem fits_iff {cs : Bool} {text pattern : Text} :
    fits cs text pattern = true ↔ (key cs pattern).Sublist (key cs text) := by
  rw [fits_eq_scan, scan_iff]

/-- Only the empty pattern fits an empty text. -/
theorem fits_nil_iff {cs : Bool} {pattern : Text} : fits cs [] pattern = true ↔ pattern = [] := by
  cases pattern <;> simp [fits]

/-- The places of a pattern are the leftmost ones of its key. -/
theorem positions?_eq_some_iff {cs : Bool} {text pattern : Text} :
    positions? cs text pattern = some ps ↔ IsLeftmost (key cs pattern) (key cs text) ps := by
  rw [positions?_eq_positionsFrom, positionsFrom_zero_iff]

theorem isSome_positions? (cs : Bool) (text pattern : Text) :
    (positions? cs text pattern).isSome = fits cs text pattern := by
  rw [fits_eq_scan, positions?_eq_positionsFrom, isSome_positionsFrom]

/-- **The two scans are exact and agree.**  A pattern fits a text exactly when it is a subsequence of
it, both as they are compared.  There are places for it exactly then; they are those of the leftmost
embedding. -/
theorem fits_iff_leftmost (cs : Bool) (text pattern : Text) :
    (fits cs text pattern = true ↔ (key cs pattern).Sublist (key cs text)) ∧
    ((positions? cs text pattern).isSome = fits cs text pattern) ∧
    ∀ ps, positions? cs text pattern = some ps ↔
      IsLeftmost (key cs pattern) (key cs text) ps :=
  ⟨fits_iff, isSome_positions? cs text pattern, fun _ => positions?_eq_some_iff⟩

example : positions? false "Data Governance".toList "dgov".toList = some [0, 5, 6, 7] := by
  decide +kernel

end TreeSieve.Subsequence
