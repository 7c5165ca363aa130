import Mathlib.Data.List.Infix
import TreeSieve.Proofs.Ancestors
import TreeSieve.Proofs.Item
import TreeSieve.Proofs.Parts

/-!
# Proofs — Containment

What lies below a folder, by its path alone.

A path lies below another one when it starts with that and a slash (`Path.IsBelow`).  The names on a
path are the last names of the path and of the paths that it lies below (`Path.mem_parts_iff`), and
it lies below its ancestors: walking upwards finds all of them, whatever slashes the path has
(`Path.mem_ancestors_iff`).

* `Item.IsPlaced`: name and parent of an item follow from its path, as they do when its record gives
  neither of them (`Item.IsRead.isPlaced`).
-/

namespace TreeSieve

namespace Text

variable {sep : Char} {v t a b n : Text}

/-- A text occurs where it is a run of characters. -/
theorem occurs_iff : occurs v t = true ↔ v <:+: t := by
  induction t with
  | nil => rw [occurs, List.isEmpty_iff, List.infix_nil]
  | cons c t ih =>
    rw [occurs, Bool.or_eq_true, List.isPrefixOf_iff_prefix, ih, List.infix_cons_iff]

theorem occurs_nil (t : Text) : occurs [] t = true := occurs_iff.mpr List.nil_infix

/-- What occurs in the start of a text occurs in the text. -/
theorem occurs_of_prefix (h : occurs v a = true) (hab : a <+: b) : occurs v b = true :=
  occurs_iff.mpr ((occurs_iff.mp h).trans hab.isInfix)

/-- A text is cut at its last separator. -/
theorem exists_lastCut (h : sep ∈ t) : ∃ a b, t = a ++ sep :: b ∧ sep ∉ b := by
  obtain ⟨b, a, hreverse, hb⟩ := List.eq_append_cons_of_mem (List.mem_reverse.mpr h)
  refine ⟨a.reverse, b.reverse, ?_, mt List.mem_reverse.mp hb⟩
  rw [← List.reverse_reverse t, hreverse]
  simp

/-- A start that ends with a separator ends with the last one or before it. -/
theorem concat_prefix_iff (hn : sep ∉ n) :
    a ++ [sep] <+: b ++ sep :: n ↔ a = b ∨ a ++ [sep] <+: b := by
  constructor
  · rintro ⟨rest, hrest⟩
    rw [List.append_assoc, List.singleton_append, List.append_eq_append_iff] at hrest
    obtain ⟨x, hb, hx⟩ | ⟨x, ha, hx⟩ := hrest
    · cases x with
      | nil => exact .inl (by rw [hb, List.append_nil])
      | cons c x =>
        cases hx
        exact .inr ⟨x, by rw [hb, List.append_assoc, List.singleton_append]⟩
    · cases x with
      | nil => exact .inl (by rw [ha, List.append_nil])
      | cons c x =>
        cases hx
        exact absurd (List.mem_append_right x List.mem_cons_self) hn
  · rintro (rfl | h)
    · exact ⟨n, by rw [List.append_assoc, List.singleton_append]⟩
    · exact h.trans (List.prefix_append b _)

end Text

namespace Path

variable {p a b n : Text}

/-- The path `p` starts with `a` and a slash. -/
def IsBelow (p a : Text) : Prop := a ++ ['/'] <+: p

/-! ### The last name and the parent of a path -/

theorem lastName_of_not_mem (h : '/' ∉ p) : lastName p = p := by
  rw [lastName, Text.cutLast?_of_not_mem h]

theorem parent_of_not_mem (h : '/' ∉ p) : parent p = root := by
  rw [parent, Text.cutLast?_of_not_mem h]

/-- The parent is what stands before the last slash, or the root if that is nothing. -/
theorem parent_append (a : Text) (hn : '/' ∉ n) :
    parent (a ++ '/' :: n) = if a = [] then root else a := by
  rw [parent, Text.cutLast?_append a hn]
  simp only [List.isEmpty_iff]

/-- Nothing before a slash belongs to the last name. -/
theorem lastName_append (a b : Text) : lastName (a ++ '/' :: b) = lastName b := by
  by_cases hb : '/' ∈ b
  · obtain ⟨c, n, rfl, hn⟩ := Text.exists_lastCut hb
    have hassoc : a ++ '/' :: (c ++ '/' :: n) = (a ++ '/' :: c) ++ '/' :: n := by simp
    rw [hassoc, lastName, Text.cutLast?_append _ hn, lastName, Text.cutLast?_append _ hn]
  · rw [lastName_of_not_mem hb, lastName, Text.cutLast?_append _ hb]

/-- The last name has no slash. -/
theorem slash_not_mem_lastName (p : Text) : '/' ∉ lastName p := by
  by_cases hp : '/' ∈ p
  · obtain ⟨a, n, rfl, hn⟩ := Text.exists_lastCut hp
    rwa [lastName_append, lastName_of_not_mem hn]
  · rwa [lastName_of_not_mem hp]

/-! ### The names on a path -/

/-- The last name is one of the names of a path. -/
theorem lastName_mem_parts (p : Text) : lastName p ∈ Text.parts '/' p := by
  induction p using Text.byParts '/' with
  | last a ha => rw [lastName_of_not_mem ha, Text.parts_of_not_mem ha, List.mem_singleton]
  | more a b ha ih =>
    rw [lastName_append, Text.parts_append ha]
    exact List.mem_cons_of_mem a ih

theorem lastName_mem_parts_append (a b : Text) : lastName a ∈ Text.parts '/' (a ++ '/' :: b) := by
  induction a using Text.byParts '/' with
  | last a ha =>
    rw [lastName_of_not_mem ha, Text.parts_append ha]
    exact List.mem_cons_self
  | more a c ha ih =>
    rw [lastName_append, List.append_assoc, List.cons_append, Text.parts_append ha]
    exact List.mem_cons_of_mem a ih

/-- **The names on a path** are the last names of the path and of those that it lies below. -/
theorem mem_parts_iff :
    n ∈ Text.parts '/' p ↔ ∃ a, (a = p ∨ IsBelow p a) ∧ lastName a = n := by
  constructor
  · intro h
    induction p using Text.byParts '/' with
    | last a ha =>
      rw [Text.parts_of_not_mem ha, List.mem_singleton] at h
      exact ⟨a, .inl rfl, (lastName_of_not_mem ha).trans h.symm⟩
    | more a b ha ih =>
      rw [Text.parts_append ha] at h
      rcases List.mem_cons.mp h with rfl | h
      · exact ⟨_, .inr ⟨b, by simp⟩, lastName_of_not_mem ha⟩
      · obtain ⟨c, hc, hname⟩ := ih h
        refine ⟨a ++ '/' :: c, ?_, by rw [lastName_append, hname]⟩
        rcases hc with rfl | ⟨d, rfl⟩
        · exact .inl rfl
        · exact .inr ⟨d, by simp⟩
  · rintro ⟨a, rfl | ⟨b, rfl⟩, rfl⟩
    · exact lastName_mem_parts a
    · rw [List.append_assoc]
      exact lastName_mem_parts_append a b

/-! ### The ancestors of a path -/

theorem slash_mem_of_isBelow (h : IsBelow p a) : '/' ∈ p :=
  h.subset (List.mem_append_right a List.mem_cons_self)

/-- A path begins every path below it. -/
theorem prefix_of_eq_or_isBelow (h : a = p ∨ IsBelow p a) : a <+: p := by
  rcases h with rfl | h
  · exact List.prefix_rfl
  · exact (List.prefix_append a _).trans h

theorem ne_of_isBelow (h : IsBelow p a) : a ≠ p := by
  rintro rfl
  have hlength := h.length_le
  rw [List.length_append] at hlength
  exact absurd hlength (Nat.not_succ_le_self a.length)

theorem isBelow_root_iff : IsBelow root a ↔ a = [] := by
  refine (Text.concat_prefix_iff (b := []) List.not_mem_nil).trans (or_iff_left fun h => ?_)
  exact List.not_mem_nil (slash_mem_of_isBelow h)

/-- What a path lies below is its parent, or the parent lies below it. -/
theorem isBelow_iff_parent (hne : a ≠ []) (hroot : a ≠ root) :
    IsBelow p a ↔ a = parent p ∨ IsBelow (parent p) a := by
  have hout : ¬(a = root ∨ IsBelow root a) := by
    rw [isBelow_root_iff]
    exact not_or.mpr ⟨hroot, hne⟩
  by_cases hslash : '/' ∈ p
  · obtain ⟨b, n, rfl, hn⟩ := Text.exists_lastCut hslash
    rw [parent_append b hn, IsBelow, Text.concat_prefix_iff hn]
    split
    · next hb =>
      -- before the first slash there is nothing to lie below
      refine iff_of_false ?_ hout
      rintro (rfl | h)
      · exact hne hb
      · exact List.not_mem_nil (hb ▸ slash_mem_of_isBelow h)
    · rfl
  · rw [parent_of_not_mem hslash]
    exact iff_of_false (mt slash_mem_of_isBelow hslash) hout

/-- **Walking upwards** finds all paths that a path lies below. -/
theorem mem_ancestors_iff (hne : a ≠ []) (hroot : a ≠ root) : a ∈ ancestors p ↔ IsBelow p a := by
  induction p using ancestors.induct with
  | case1 =>
    rw [ancestors_root, isBelow_root_iff]
    exact iff_of_false List.not_mem_nil hne
  | case2 p hp _ ih => rw [mem_ancestors hp, ih, ← isBelow_iff_parent hne hroot]

end Path

namespace Item

/-- The name and the parent of an item that is not the root follow from its path. -/
structure IsPlaced (i : Item) : Prop where
  path_ne_nil : i.path ≠ []
  path_ne_root : i.path ≠ Path.root
  name : i.name = Path.lastName i.path
  parent? : i.parent? = some (Path.parent i.path)

/-- The item with a path whose name and parent follow from that. -/
def placed (k : ItemKind) (p : Text) : Item := ⟨p, Path.lastName p, k, some (Path.parent p), []⟩

theorem isPlaced_placed {p : Text} (k : ItemKind) (hne : p ≠ []) (hroot : p ≠ Path.root) :
    (placed k p).IsPlaced :=
  ⟨hne, hroot, rfl, rfl⟩

variable {i : Item}

/-- A placed item has the parent that its path says. -/
theorem IsPlaced.parent_eq (h : i.IsPlaced) : i.parent = Path.parent i.path := by
  rw [parent, h.parent?]
  exact if_neg (mt List.isEmpty_iff.mp (Path.parent_ne_nil i.path))

theorem IsPlaced.parent_ne_nil (h : i.IsPlaced) : i.parent ≠ [] := by
  rw [h.parent_eq]
  exact Path.parent_ne_nil i.path

/-- An item lies below the folder that is its parent, and below what that lies below. -/
theorem IsPlaced.isBelow_iff {a : Text} (h : i.IsPlaced) (hne : a ≠ []) (hroot : a ≠ Path.root) :
    Path.IsBelow i.path a ↔ a = i.parent ∨ Path.IsBelow i.parent a := by
  rw [h.parent_eq]
  exact Path.isBelow_iff_parent hne hroot

/-- Searches look at the whole name of a folder. -/
theorem matchName_of_isFolder (h : i.isFolder = true) : i.matchName = i.name := by
  rw [matchName, if_pos h]

theorem matchName_of_not_mem (h : '.' ∉ i.name) : i.matchName = i.name := by
  rw [matchName, Text.cutLast?_of_not_mem h, ite_self]

/-! ### Items of records -/

variable {entries : List (Value × Value)} {kind? : Option ItemKind}

/-- Whether a record gives no name, or a void one. -/
def isNameless (entries : List (Value × Value)) : Bool :=
  match Value.lookup entries "name".toList with
  | some v => v.isVoid
  | none => true

/-- What follows from the path of a record. -/
theorem IsRead.derive_eq (h : IsRead entries kind? i) (ht : HasTextPath entries) :
    derive entries = some
    { name? := if isNameless entries && i.path ≠ Path.root then some (Path.lastName i.path) else none
      parent? := if (Value.lookup entries "parent_path".toList).isNone then
          some (if i.path = Path.root then none else some (Path.parent i.path))
        else none } := by
  obtain ⟨t, ht, hpath, hne⟩ := h.exists_text ht
  rw [derive, ht]
  simp only [hpath, List.isEmpty_iff, hne, if_false]
  rfl

/-- The name of an item that is not the root follows from its path when none is given. -/
theorem IsRead.name_eq (h : IsRead entries kind? i) (ht : HasTextPath entries)
    (hname : isNameless entries = true) (hroot : i.path ≠ Path.root) :
    i.name = Path.lastName i.path := by
  have hn := h.name
  rw [nameIn, h.derive_eq ht, hname] at hn
  simp only [ne_eq, hroot, not_false_eq_true, decide_true, Bool.and_self, if_true,
    Option.bind_some] at hn
  exact (Except.ok.inj hn).symm

end Item

end TreeSieve
