import TreeSieve.Item
import TreeSieve.Proofs.Options
import TreeSieve.Proofs.Text

/-!
# Proofs — Item

Items as the fields of a record.  A record is read as an item when every field is read without a
fault and the tags can be walked through (`Item.ofEntries_ok_iff`), so what is accepted can be said
field by field.

* `Item.IsRead.tags_eq`: a file has the tags that its record gives as a set of texts, normalised.
-/

namespace TreeSieve.Item

/-- The path of a record. -/
def pathIn (entries : List (Value × Value)) : Checked Text :=
  match Value.lookup entries "path".toList with
  | some v => Checked.named "path".toList (pathOfValue v)
  | none => Checked.named "path".toList (Checked.fault .missing)

/-- The name of a record, which may follow from its path. -/
def nameIn (entries : List (Value × Value)) : Checked Text :=
  match (derive entries).bind Derived.name? with
  | some n => .ok n
  | none => Value.field entries "name".toList Value.asText []

/-- The kind that is given, or that of a record. -/
def kindIn (entries : List (Value × Value)) : Option ItemKind → Checked ItemKind
  | some k => .ok k
  | none => Value.field entries "kind".toList kindOfValue .file

/-- The parent of a record, which may follow from its path. -/
def parentIn (entries : List (Value × Value)) : Checked (Option Text) :=
  match (derive entries).bind Derived.parent? with
  | some p => .ok p
  | none => Value.field entries "parent_path".toList parentOfValue none

/-- Whether the kind that is given, or that of a record, is the folder. -/
def isFolderIn (entries : List (Value × Value)) : Option ItemKind → Bool
  | some k => k = .folder
  | none => namesFolder (Value.lookup entries "kind".toList)

/-- The tags of a record; those of a folder are left aside. -/
def tagsIn (entries : List (Value × Value)) (kind? : Option ItemKind) :
    Except Rejection (List Text) :=
  if (derive entries).isSome && isFolderIn entries kind? then .ok []
  else match Value.lookup entries "tags".toList with
    | some v => tagsOfValue v
    | none => .ok []

variable {entries : List (Value × Value)} {kind? : Option ItemKind} {i : Item} {ts : List Text}

/-- The item is that of a record: each field is read without a fault. -/
structure IsRead (entries : List (Value × Value)) (kind? : Option ItemKind) (i : Item) : Prop where
  path : pathIn entries = .ok i.path
  name : nameIn entries = .ok i.name
  kind : kindIn entries kind? = .ok i.kind
  parent : parentIn entries = .ok i.parent?
  tags : tagsIn entries kind? = .ok i.tags

/-- An item of fields that may have faults. -/
def assemble (path name : Checked Text) (kind : Checked ItemKind) (parent : Checked (Option Text))
    (tags : List Text) : Checked Item :=
  Checked.both (fun f t => f t)
    (Checked.both (fun f p => f p)
      (Checked.both (fun f k => f k)
        (Checked.both (fun p n => fun k pp ts => Item.mk p n k pp ts) path name) kind) parent)
    (.ok tags)

theorem assemble_eq_ok {path name : Checked Text} {kind : Checked ItemKind}
    {parent : Checked (Option Text)} {tags : List Text} :
    assemble path name kind parent tags = .ok i ↔
      ∃ p n k pp, path = .ok p ∧ name = .ok n ∧ kind = .ok k ∧ parent = .ok pp ∧
        i = ⟨p, n, k, pp, tags⟩ := by
  cases path <;> cases name <;> cases kind <;> cases parent <;>
    simp [assemble, Checked.both, eq_comm]

theorem ofEntries_eq (entries : List (Value × Value)) (kind? : Option ItemKind) :
    ofEntries entries kind? = (tagsIn entries kind?).bind fun tags =>
      (assemble (pathIn entries) (nameIn entries) (kindIn entries kind?) (parentIn entries)
        tags).mapError (.faults typeName) := by
  cases kind? <;> rfl

/-- **Reading items**, field by field. -/
theorem ofEntries_ok_iff : ofEntries entries kind? = .ok i ↔ IsRead entries kind? i := by
  simp only [ofEntries_eq, Except.bind_eq_ok, Except.mapError_eq_ok,
    assemble_eq_ok]
  constructor
  · rintro ⟨tags, ht, p, n, k, pp, hp, hn, hk, hpp, rfl⟩
    exact ⟨hp, hn, hk, hpp, ht⟩
  · rintro ⟨hp, hn, hk, hpp, ht⟩
    exact ⟨_, ht, _, _, _, _, hp, hn, hk, hpp, rfl⟩

/-! ### Paths -/

/-- A path is read when it is given as a text or by its bytes and something is left of it. -/
theorem pathOfValue_eq_ok {v : Value} {p : Text} :
    pathOfValue v = .ok p ↔ ∃ t, v.asText = .ok t ∧ Path.normalize t = p ∧ p ≠ [] := by
  rw [pathOfValue, Except.bind_eq_ok]
  refine exists_congr fun t => and_congr_right fun _ => ?_
  by_cases ht : t = []
  · have hnil : Path.normalize [] = [] := by decide
    rw [ht, hnil]
    exact iff_of_false nofun fun h => h.2 h.1.symm
  · rw [List.isEmpty_eq_false_iff.mpr ht, if_neg Bool.false_ne_true]
    by_cases hp : Path.normalize t = []
    · rw [hp]
      exact iff_of_false nofun fun h => h.2 h.1.symm
    · simp only [List.isEmpty_iff, hp, if_false, Except.ok.injEq]
      exact ⟨fun h => ⟨h, h ▸ hp⟩, fun h => h.1⟩

theorem pathIn_eq_ok {p : Text} (h : pathIn entries = .ok p) :
    ∃ v t, Value.lookup entries "path".toList = some v ∧ v.asText = .ok t ∧
      Path.normalize t = p ∧ p ≠ [] := by
  rw [pathIn] at h
  split at h
  · next v hv =>
    obtain ⟨t, ht, hp⟩ := pathOfValue_eq_ok.mp (Checked.named_eq_ok.mp h)
    exact ⟨v, t, hv, ht, hp⟩
  · cases h

/-- The path of a record is given as a text, and not by its bytes. -/
def HasTextPath (entries : List (Value × Value)) : Prop :=
  ∃ t, Value.lookup entries "path".toList = some (.text t)

/-- A path that is given as a text. -/
theorem pathIn_eq_ok_iff {t p : Text} (ht : Value.lookup entries "path".toList = some (.text t)) :
    pathIn entries = .ok p ↔ Path.normalize t ≠ [] ∧ p = Path.normalize t := by
  rw [pathIn, ht]
  refine Checked.named_eq_ok.trans (pathOfValue_eq_ok.trans ?_)
  constructor
  · rintro ⟨u, hu, rfl, hne⟩
    cases hu
    exact ⟨hne, rfl⟩
  · rintro ⟨hne, rfl⟩
    exact ⟨t, rfl, rfl, hne⟩

theorem IsRead.exists_text (h : IsRead entries kind? i) (hpath : HasTextPath entries) :
    ∃ t, Value.lookup entries "path".toList = some (.text t) ∧ Path.normalize t = i.path ∧
      i.path ≠ [] := by
  obtain ⟨t, ht⟩ := hpath
  obtain ⟨hne, hp⟩ := (pathIn_eq_ok_iff ht).mp h.path
  exact ⟨t, ht, hp.symm, hp ▸ hne⟩

/-- A parent other than null is read as a text. -/
theorem parentOfValue_eq {v : Value} (hnull : v ≠ .null) : parentOfValue v = v.asText.map some := by
  cases v with
  | null => exact absurd rfl hnull
  | _ => rfl

/-! ### Kinds -/

/-- A field that names the folder is that of a folder. -/
theorem kindOfValue_of_namesFolder {v : Value} (h : namesFolder (some v) = true) :
    kindOfValue v = .ok .folder := by
  cases v with
  | text t =>
    have hlower : Text.lower t = ItemKind.folder.name := by simpa [namesFolder] using h
    have hkind : ItemKind.ofName? t = some .folder := by
      rw [ItemKind.ofName?, hlower]
      rfl
    rw [kindOfValue, hkind]
  | _ => cases h

theorem isFolderIn_of_kindIn (h : kindIn entries kind? = .ok .file) :
    isFolderIn entries kind? = false := by
  cases kind? with
  | some k =>
    cases h
    rfl
  | none =>
    rw [kindIn, Value.field] at h
    rw [isFolderIn]
    cases hv : Value.lookup entries "kind".toList with
    | none => rfl
    | some v =>
      rw [hv] at h
      cases hfolder : namesFolder (some v) with
      | false => rfl
      | true =>
        simp only [kindOfValue_of_namesFolder hfolder] at h
        cases h

/-! ### Tags -/

/-- The tags of an item are the normal forms that are not empty. -/
theorem mem_tagSet {t : Text} : t ∈ tagSet ts ↔ t ≠ [] ∧ ∃ u ∈ ts, Tag.normalize u = t := by
  rw [tagSet, Text.mem_sortedSet, List.mem_filter, List.mem_map, and_comm]
  exact and_congr_left fun _ => by simp

theorem tagTexts_map_text : tagTexts (ts.map .text) = .ok ts := by
  induction ts with
  | nil => rfl
  | cons t ts ih => rw [List.map_cons, tagTexts, ih, Except.map]

/-- In a value that is neither null nor a text, tags are sought among the members. -/
theorem tagsOfValue_eq {v : Value} (hnull : v ≠ .null) (htext : ∀ t, v ≠ .text t) :
    tagsOfValue v = v.members.bind fun vs => (tagTexts vs).bind fun ts => .ok (tagSet ts) := by
  cases v with
  | null => exact absurd rfl hnull
  | text t => exact absurd rfl (htext t)
  | _ => rfl

/-- **What gives tags**: nothing, one text, or members among which they are sought. -/
theorem tagsOfValue_cases (v : Value) :
    (v = .null ∧ tagsOfValue v = .ok []) ∨ (∃ t, v = .text t ∧ tagsOfValue v = .ok (tagSet [t])) ∨
      (v ≠ .null ∧ tagsOfValue v =
        v.members.bind fun vs => (tagTexts vs).bind fun ts => .ok (tagSet ts)) := by
  by_cases hnull : v = .null
  · exact .inl ⟨hnull, hnull ▸ rfl⟩
  by_cases htext : ∃ t, v = .text t
  · obtain ⟨t, rfl⟩ := htext
    exact .inr (.inl ⟨t, rfl, rfl⟩)
  · exact .inr (.inr ⟨hnull, tagsOfValue_eq hnull (not_exists.mp htext)⟩)

/-- The tags of a value whose members are texts. -/
theorem tagsOfValue_of_members {v : Value} (hnull : v ≠ .null) (htext : ∀ t, v ≠ .text t)
    (hmembers : v.members = .ok (ts.map .text)) : tagsOfValue v = .ok (tagSet ts) := by
  rw [tagsOfValue_eq hnull htext, hmembers, Except.bind, tagTexts_map_text, Except.bind]

theorem tagsOfValue_set : tagsOfValue (.set (ts.map .text)) = .ok (tagSet ts) :=
  tagsOfValue_of_members nofun nofun rfl

theorem tagsOfValue_list : tagsOfValue (.list (ts.map .text)) = .ok (tagSet ts) :=
  tagsOfValue_of_members nofun nofun rfl

/-- The tags of a file are those of its record. -/
theorem IsRead.tags_eq (h : IsRead entries kind? i) (hfile : i.isFolder = false)
    (htags : Value.lookup entries "tags".toList = some (.set (ts.map .text))) :
    i.tags = tagSet ts := by
  have hkind : i.kind = .file := by
    cases hk : i.kind with
    | file => rfl
    | folder => simp [isFolder, hk] at hfile
  have hfolder : isFolderIn entries kind? = false := isFolderIn_of_kindIn (hkind ▸ h.kind)
  have htagsIn := h.tags
  rw [tagsIn, hfolder, Bool.and_false, if_neg Bool.false_ne_true, htags] at htagsIn
  simp only [tagsOfValue_set] at htagsIn
  exact (Except.ok.inj htagsIn).symm

end TreeSieve.Item
