import TreeSieve.Proofs.Item

/-!
# Proofs — Item — Rejection

What becomes of records that are no items.  The fields are read one by one, and each that cannot be read
adds one fault at its name; only tags can turn down a record at once, when there is something else in
their place than texts.

* `Item.areFieldFaults_of_assemble`: the faults of a record, at most one for each field, in order.
* `Item.tagsOfValue_eq_error_iff`: which values give no tags, and why.
* `Item.ofEntries_checked_iff`: **a record is read or turned down with the faults of its fields** just when
  its tags are left aside or can be read; `Item.ofValue_unchecked` shows what happens otherwise.
-/

namespace TreeSieve

namespace Checked

variable {α β γ : Type} {x : Checked α} {place : List Text} {name : Text}

/-- The faults that were found. -/
def faults : Checked α → List Fault
  | .ok _ => []
  | .error fs => fs

/-- The faults of both fields are kept, in order. -/
theorem faults_both (f : α → β → γ) (x : Checked α) (y : Checked β) :
    (both f x y).faults = x.faults ++ y.faults := by
  cases x <;> cases y <;> simp [both, faults]

/-- Read, or turned down by one fault at a place. -/
def IsReadAt (place : List Text) (x : Checked α) : Prop :=
  (∃ a, x = .ok a) ∨ ∃ c, x = .error [⟨place, c⟩]

theorem isReadAt_ok (a : α) : IsReadAt place (.ok a) := .inl ⟨a, rfl⟩

theorem isReadAt_fault (c : Cause) : IsReadAt [] (fault c : Checked α) := .inr ⟨c, rfl⟩

/-- A name around a field moves its fault inside. -/
theorem IsReadAt.named (h : IsReadAt [] x) : IsReadAt [name] (named name x) := by
  rcases h with ⟨a, rfl⟩ | ⟨c, rfl⟩
  · exact .inl ⟨a, rfl⟩
  · exact .inr ⟨c, rfl⟩

/-- There is at most the one fault, at its place. -/
theorem IsReadAt.places (h : IsReadAt place x) : (x.faults.map Fault.place).Sublist [place] := by
  rcases h with ⟨a, rfl⟩ | ⟨c, rfl⟩
  · exact List.nil_sublist _
  · exact List.Sublist.refl _

/-- Without a fault the field has been read. -/
theorem IsReadAt.exists_ok (h : IsReadAt place x) (hfaults : x.faults = []) : ∃ a, x = .ok a := by
  rcases h with h | ⟨c, rfl⟩
  · exact h
  · cases hfaults

/-- A field that is read from whatever stands in it. -/
theorem isReadAt_field {read : Value → Checked α} (h : ∀ v, IsReadAt [] (read v))
    (entries : List (Value × Value)) (name : Text) (default : α) :
    IsReadAt [name] (Value.field entries name read default) := by
  rw [Value.field]
  split
  · next v _ => exact (h v).named
  · exact isReadAt_ok default

/-- A text is read, or is turned down by one fault. -/
theorem isReadAt_asText (v : Value) : IsReadAt [] v.asText := by
  cases v with
  | text t => exact isReadAt_ok t
  | bytes bs =>
    rw [Value.asText]
    cases Value.bytesText? bs with
    | some t => exact isReadAt_ok t
    | none => exact isReadAt_fault .badText
  | _ => exact isReadAt_fault _

end Checked

namespace Item

open Checked (IsReadAt isReadAt_ok isReadAt_fault isReadAt_field isReadAt_asText)

variable {entries : List (Value × Value)} {kind? : Option ItemKind} {v : Value} {vs : List Value}
  {r : Rejection} {k : Value.Kind}

/-! ### The faults of fields -/

/-- A path is read, or is turned down as no text, as an empty one, or as one that normalisation
empties. -/
theorem isReadAt_pathOfValue (v : Value) : IsReadAt [] (pathOfValue v) := by
  rw [pathOfValue]
  rcases isReadAt_asText v with ⟨t, ht⟩ | ⟨c, hc⟩
  · rw [ht, Except.bind]
    split
    · exact isReadAt_fault _
    · dsimp only
      split
      · exact isReadAt_fault _
      · exact isReadAt_ok _
  · rw [hc]
    exact isReadAt_fault c

theorem isReadAt_kindOfValue (v : Value) : IsReadAt [] (kindOfValue v) := by
  cases v with
  | text t =>
    rw [kindOfValue]
    split
    · exact isReadAt_ok _
    · exact isReadAt_fault _
  | _ => exact isReadAt_fault _

theorem isReadAt_parentOfValue (v : Value) : IsReadAt [] (parentOfValue v) := by
  by_cases hnull : v = .null
  · rw [hnull]
    exact isReadAt_ok none
  · rw [parentOfValue_eq hnull]
    rcases isReadAt_asText v with ⟨t, ht⟩ | ⟨c, hc⟩
    · rw [ht]
      exact isReadAt_ok (some t)
    · rw [hc]
      exact isReadAt_fault c

/-- The field of the path is never left out without a fault. -/
theorem isReadAt_pathIn (entries : List (Value × Value)) :
    IsReadAt ["path".toList] (pathIn entries) := by
  rw [pathIn]
  split
  · next v _ => exact (isReadAt_pathOfValue v).named
  · exact (isReadAt_fault .missing).named

/-- A name that follows from the path is always read. -/
theorem isReadAt_nameIn (entries : List (Value × Value)) :
    IsReadAt ["name".toList] (nameIn entries) := by
  rw [nameIn]
  split
  · exact isReadAt_ok _
  · exact isReadAt_field isReadAt_asText entries _ _

theorem isReadAt_kindIn (entries : List (Value × Value)) (kind? : Option ItemKind) :
    IsReadAt ["kind".toList] (kindIn entries kind?) := by
  cases kind? with
  | some k => exact isReadAt_ok k
  | none => exact isReadAt_field isReadAt_kindOfValue entries _ _

theorem isReadAt_parentIn (entries : List (Value × Value)) :
    IsReadAt ["parent_path".toList] (parentIn entries) := by
  rw [parentIn]
  split
  · exact isReadAt_ok _
  · exact isReadAt_field isReadAt_parentOfValue entries _ _

/-- Faults of the fields of a record: at least one, and at most one for each field, in order. -/
structure AreFieldFaults (fs : List Fault) : Prop where
  ne_nil : fs ≠ []
  places : (fs.map Fault.place).Sublist
    [["path".toList], ["name".toList], ["kind".toList], ["parent_path".toList]]

/-- A record has the faults of its fields, in the order in which they are read. -/
theorem faults_assemble (path name : Checked Text) (kind : Checked ItemKind)
    (parent : Checked (Option Text)) (tags : List Text) :
    (assemble path name kind parent tags).faults =
      path.faults ++ name.faults ++ kind.faults ++ parent.faults := by
  simp only [assemble, Checked.faults_both]
  exact List.append_nil _

/-- **The faults of a record** whose tags can be read. -/
theorem areFieldFaults_of_assemble {tags : List Text} {fs : List Fault}
    (h : assemble (pathIn entries) (nameIn entries) (kindIn entries kind?) (parentIn entries) tags =
      .error fs) : AreFieldFaults fs := by
  have hpath := isReadAt_pathIn entries
  have hname := isReadAt_nameIn entries
  have hkind := isReadAt_kindIn entries kind?
  have hparent := isReadAt_parentIn entries
  have hfaults := faults_assemble (pathIn entries) (nameIn entries) (kindIn entries kind?)
    (parentIn entries) tags
  rw [h] at hfaults
  constructor
  · rintro rfl
    -- a record without faults would have been read
    obtain ⟨hrest, hp⟩ := List.append_eq_nil_iff.mp hfaults.symm
    obtain ⟨hrest, hk⟩ := List.append_eq_nil_iff.mp hrest
    obtain ⟨hpa, hn⟩ := List.append_eq_nil_iff.mp hrest
    obtain ⟨p, hpa⟩ := hpath.exists_ok hpa
    obtain ⟨n, hn⟩ := hname.exists_ok hn
    obtain ⟨k, hk⟩ := hkind.exists_ok hk
    obtain ⟨pp, hp⟩ := hparent.exists_ok hp
    rw [assemble_eq_ok.mpr ⟨p, n, k, pp, hpa, hn, hk, hp, rfl⟩] at h
    cases h
  · have hfs : fs = Checked.faults (pathIn entries) ++ Checked.faults (nameIn entries) ++
        Checked.faults (kindIn entries kind?) ++ Checked.faults (parentIn entries) := hfaults
    rw [hfs]
    simp only [List.map_append]
    exact ((hpath.places.append hname.places).append hkind.places).append hparent.places

/-! ### Tags that cannot be read -/

/-- A member that is no text ends the search for tags. -/
theorem tagTexts_cons_of_not_text (h : ∀ t, v ≠ .text t) :
    tagTexts (v :: vs) = .error (.notTrimmable v.kind) := by
  cases v with
  | text t => exact absurd rfl (h t)
  | _ => rfl

/-- A text lets the search for tags go on. -/
theorem tagTexts_cons_text_eq_error_iff {t : Text} :
    tagTexts (.text t :: vs) = .error r ↔ tagTexts vs = .error r := by
  rw [tagTexts]
  cases tagTexts vs <;> simp [Except.map]

/-- Tags are sought in order, and the first member that is no text ends the search. -/
theorem tagTexts_eq_error_iff : tagTexts vs = .error r ↔ ∃ (before : List Text) (u : Value) (after : _),
    vs = before.map .text ++ u :: after ∧ (∀ t, u ≠ .text t) ∧ r = .notTrimmable u.kind := by
  induction vs with
  | nil =>
    refine iff_of_false nofun ?_
    rintro ⟨before, u, after, h, -⟩
    exact List.append_ne_nil_of_right_ne_nil _ (List.cons_ne_nil u after) h.symm
  | cons v vs ih =>
    by_cases hv : ∃ t, v = .text t
    · obtain ⟨t, rfl⟩ := hv
      rw [tagTexts_cons_text_eq_error_iff, ih]
      constructor
      · rintro ⟨before, u, after, rfl, hu⟩
        exact ⟨t :: before, u, after, rfl, hu⟩
      · rintro ⟨before, u, after, h, hu⟩
        cases before with
        | nil =>
          cases h
          exact absurd rfl (hu.1 t)
        | cons s before =>
          cases h
          exact ⟨before, u, after, rfl, hu⟩
    · have hnot : ∀ t, v ≠ .text t := not_exists.mp hv
      rw [tagTexts_cons_of_not_text hnot, Except.error.injEq]
      constructor
      · rintro rfl
        exact ⟨[], v, vs, rfl, hnot, rfl⟩
      · rintro ⟨before, u, after, h, -, rfl⟩
        cases before with
        | nil =>
          cases h
          rfl
        | cons s before =>
          cases h
          exact absurd rfl (hnot s)

/-- Members that are read are texts. -/
theorem eq_map_of_tagTexts {ts : List Text} (h : tagTexts vs = .ok ts) : vs = ts.map .text := by
  induction vs generalizing ts with
  | nil =>
    cases h
    rfl
  | cons v vs ih =>
    cases v with
    | text t =>
      rw [tagTexts] at h
      obtain ⟨us, hus, rfl⟩ := Except.map_eq_ok.mp h
      rw [List.map_cons, ← ih hus]
    | _ => cases h

/-- What has no members is turned down for its kind. -/
theorem kind_of_members_eq_error (h : v.members = .error r) : r = .notIterable v.kind := by
  cases v with
  | null | bool | int | float | date | moment | cycle =>
    cases h
    rfl
  | _ => cases h

/-- Tags can be read when there are none, one text, or a value whose members are texts. -/
inductive GivesTags : Value → Prop where
  | null : GivesTags .null
  | text (t : Text) : GivesTags (.text t)
  | list (ts : List Text) : GivesTags (.list (ts.map .text))
  | set (ts : List Text) : GivesTags (.set (ts.map .text))
  | pair (s t : Text) : GivesTags (.pair (.text s) (.text t))
  /-- The keys of a map are its members. -/
  | map {entries : List (Value × Value)} (keys : List Text)
      (h : entries.map Prod.fst = keys.map .text) : GivesTags (.map entries)
  | noBytes : GivesTags (.bytes [])

/-- The members of a value that gives tags are texts. -/
theorem GivesTags.members (h : GivesTags v) (hnull : v ≠ .null) :
    ∃ ts : List Text, v.members = .ok (ts.map .text) := by
  cases h with
  | null => exact absurd rfl hnull
  | text t => exact ⟨t.map fun c => [c], by rw [Value.members, List.map_map]; rfl⟩
  | list ts => exact ⟨ts, rfl⟩
  | set ts => exact ⟨ts, rfl⟩
  | pair s t => exact ⟨[s, t], rfl⟩
  | map keys h => exact ⟨keys, by rw [Value.members, h]⟩
  | noBytes => exact ⟨[], rfl⟩

/-- A value whose members are texts gives tags. -/
theorem givesTags_of_members {ts : List Text} (h : v.members = .ok (ts.map .text)) : GivesTags v := by
  cases v with
  | text t => exact .text t
  | list xs =>
    cases h
    exact .list ts
  | set xs =>
    cases h
    exact .set ts
  | pair a b =>
    match ts, h with
    | [s, t], h =>
      cases h
      exact .pair s t
  | map es => exact .map ts (Except.ok.inj h)
  | bytes bs =>
    cases bs with
    | nil => exact .noBytes
    | cons b bs =>
      cases ts <;> cases h
  | _ => cases h

/-- **No tags**: the value has no members, or one of them is no text. -/
theorem tagsOfValue_eq_error_iff : tagsOfValue v = .error r ↔
    (v ≠ .null ∧ v.members = .error r) ∨ ∃ vs, v.members = .ok vs ∧ tagTexts vs = .error r := by
  obtain ⟨rfl, heq⟩ | ⟨t, rfl, heq⟩ | ⟨hnull, heq⟩ := tagsOfValue_cases v
  · refine iff_of_false nofun ?_
    rintro (⟨hne, -⟩ | ⟨vs, hvs, -⟩)
    · exact hne rfl
    · cases hvs
  · obtain ⟨ts, hts⟩ := (GivesTags.text t).members nofun
    refine iff_of_false nofun ?_
    rintro (⟨-, h⟩ | ⟨vs, hvs, h⟩)
    · cases h
    · -- the members of a text are texts
      rw [Except.ok.inj (hvs.symm.trans hts), tagTexts_map_text] at h
      cases h
  · rw [heq]
    cases hmembers : v.members with
    | error r' => simp [Except.bind, hnull]
    | ok vs => cases htexts : tagTexts vs <;> simp [Except.bind, htexts]

theorem givesTags_of_tagsOfValue {ts : List Text} (h : tagsOfValue v = .ok ts) : GivesTags v := by
  obtain ⟨rfl, -⟩ | ⟨t, rfl, -⟩ | ⟨-, heq⟩ := tagsOfValue_cases v
  · exact .null
  · exact .text t
  · rw [heq] at h
    obtain ⟨vs, hvs, h⟩ := Except.bind_eq_ok.mp h
    obtain ⟨us, hus, -⟩ := Except.bind_eq_ok.mp h
    exact givesTags_of_members (eq_map_of_tagTexts hus ▸ hvs)

theorem GivesTags.exists_tags (h : GivesTags v) : ∃ ts, tagsOfValue v = .ok ts := by
  obtain ⟨-, heq⟩ | ⟨t, -, heq⟩ | ⟨hnull, heq⟩ := tagsOfValue_cases v
  · exact ⟨[], heq⟩
  · exact ⟨tagSet [t], heq⟩
  · obtain ⟨ts, hts⟩ := h.members hnull
    exact ⟨tagSet ts, by rw [heq, hts, Except.bind, tagTexts_map_text, Except.bind]⟩

/-- **Tags that can be read.** -/
theorem exists_tagsOfValue_iff : (∃ ts, tagsOfValue v = .ok ts) ↔ GivesTags v :=
  ⟨fun ⟨_, h⟩ => givesTags_of_tagsOfValue h, GivesTags.exists_tags⟩

/-! ### The tags of records -/

/-- Tags are left aside in the record of a folder, as far as its path and its kind can be read. -/
def LeavesTags (entries : List (Value × Value)) (kind? : Option ItemKind) : Prop :=
  (∃ t, Value.lookup entries "path".toList = some (.text t) ∧ Path.normalize t ≠ []) ∧
    isFolderIn entries kind? = true

/-- Fields follow from the path just when it is a text that normalisation does not empty. -/
theorem derive_isSome_iff : (derive entries).isSome = true ↔
    ∃ t, Value.lookup entries "path".toList = some (.text t) ∧ Path.normalize t ≠ [] := by
  constructor
  · intro h
    rw [derive] at h
    split at h
    · next t ht =>
      refine ⟨t, ht, fun hempty => ?_⟩
      simp only [hempty, List.isEmpty_nil, if_true] at h
      cases h
    · cases h
  · rintro ⟨t, ht, hne⟩
    rw [derive, ht]
    simp only [List.isEmpty_iff, hne, if_false]
    rfl

theorem leavesTags_iff :
    LeavesTags entries kind? ↔ ((derive entries).isSome && isFolderIn entries kind?) = true := by
  rw [Bool.and_eq_true, derive_isSome_iff, LeavesTags]

/-- Tags that are left aside are none, whatever stands in their field. -/
theorem tagsIn_of_leavesTags (h : LeavesTags entries kind?) : tagsIn entries kind? = .ok [] := by
  rw [tagsIn, if_pos (leavesTags_iff.mp h)]

theorem tagsIn_of_lookup (h : ¬LeavesTags entries kind?)
    (hv : Value.lookup entries "tags".toList = some v) : tagsIn entries kind? = tagsOfValue v := by
  rw [tagsIn, if_neg (mt leavesTags_iff.mpr h), hv]

/-- The tags turn down a record just when they are looked at and cannot be read. -/
theorem tagsIn_eq_error_iff : tagsIn entries kind? = .error r ↔ ¬LeavesTags entries kind? ∧
    ∃ v, Value.lookup entries "tags".toList = some v ∧ tagsOfValue v = .error r := by
  constructor
  · intro h
    have hleaves : ¬LeavesTags entries kind? := fun hl => by
      rw [tagsIn_of_leavesTags hl] at h
      cases h
    cases hv : Value.lookup entries "tags".toList with
    | none =>
      rw [tagsIn, hv] at h
      split at h <;> cases h
    | some v => exact ⟨hleaves, v, rfl, tagsIn_of_lookup hleaves hv ▸ h⟩
  · rintro ⟨hleaves, v, hv, herror⟩
    exact (tagsIn_of_lookup hleaves hv).trans herror

/-- **The tags of a record** can be read when they are left aside, missing, or texts. -/
theorem exists_tagsIn_iff : (∃ ts, tagsIn entries kind? = .ok ts) ↔ LeavesTags entries kind? ∨
    ∀ v, Value.lookup entries "tags".toList = some v → GivesTags v := by
  by_cases hleaves : LeavesTags entries kind?
  · exact iff_of_true ⟨[], tagsIn_of_leavesTags hleaves⟩ (.inl hleaves)
  rw [or_iff_right hleaves]
  cases htags : tagsIn entries kind? with
  | ok ts =>
    refine iff_of_true ⟨ts, rfl⟩ fun v hv => exists_tagsOfValue_iff.mp ⟨ts, ?_⟩
    rw [← tagsIn_of_lookup hleaves hv, htags]
  | error r =>
    obtain ⟨-, v, hv, herror⟩ := tagsIn_eq_error_iff.mp htags
    refine iff_of_false nofun fun h => ?_
    obtain ⟨ts, hts⟩ := exists_tagsOfValue_iff.mpr (h v hv)
    cases herror.symm.trans hts

/-- Tags that cannot be read are no fault of a field. -/
theorem ne_faults_of_tagsIn {type : Text} {fs : List Fault} (h : tagsIn entries kind? = .error r) :
    r ≠ .faults type fs := by
  rintro rfl
  obtain ⟨-, v, -, herror⟩ := tagsIn_eq_error_iff.mp h
  rcases tagsOfValue_eq_error_iff.mp herror with ⟨-, herror⟩ | ⟨vs, -, herror⟩
  · cases kind_of_members_eq_error herror
  · obtain ⟨before, u, after, -, -, hr⟩ := tagTexts_eq_error_iff.mp herror
    cases hr

/-! ### Records that are turned down -/

/-- A record is read as an item, or turned down with faults of its fields. -/
def IsChecked (entries : List (Value × Value)) (kind? : Option ItemKind) : Prop :=
  (∃ i, ofEntries entries kind? = .ok i) ∨
    ∃ fs, ofEntries entries kind? = .error (.faults typeName fs) ∧ AreFieldFaults fs

/-- A record whose tags can be read is an item, or has faults of its fields. -/
theorem isChecked_of_tags {ts : List Text} (h : tagsIn entries kind? = .ok ts) :
    IsChecked entries kind? := by
  have hread := ofEntries_eq entries kind?
  rw [h, Except.bind] at hread
  cases hitem : assemble (pathIn entries) (nameIn entries) (kindIn entries kind?) (parentIn entries)
      ts with
  | ok i => exact .inl ⟨i, by rw [hread, hitem, Except.mapError]⟩
  | error fs =>
    exact .inr ⟨fs, by rw [hread, hitem, Except.mapError], areFieldFaults_of_assemble hitem⟩

/-- Tags that cannot be read turn down the record before its fields are looked at. -/
theorem ofEntries_of_tagsIn_error (h : tagsIn entries kind? = .error r) :
    ofEntries entries kind? = .error r := by
  rw [ofEntries_eq, h, Except.bind]

/-- Nothing but tags that cannot be read turns down a record at once. -/
theorem isChecked_iff : IsChecked entries kind? ↔ ∃ ts, tagsIn entries kind? = .ok ts := by
  refine ⟨fun h => ?_, fun ⟨ts, hts⟩ => isChecked_of_tags hts⟩
  cases htags : tagsIn entries kind? with
  | ok ts => exact ⟨ts, rfl⟩
  | error r =>
    rw [IsChecked, ofEntries_of_tagsIn_error htags] at h
    rcases h with ⟨i, hi⟩ | ⟨fs, hfs, -⟩
    · cases hi
    · exact absurd (Except.error.inj hfs) (ne_faults_of_tagsIn htags)

/-- What is no fault of a field comes from the tags. -/
theorem ofEntries_eq_error_iff (hr : ∀ type fs, r ≠ .faults type fs) :
    ofEntries entries kind? = .error r ↔ tagsIn entries kind? = .error r := by
  refine ⟨fun h => ?_, ofEntries_of_tagsIn_error⟩
  cases htags : tagsIn entries kind? with
  | ok ts =>
    rcases isChecked_of_tags htags with ⟨i, hi⟩ | ⟨fs, hfs, -⟩
    · cases hi.symm.trans h
    · exact absurd (Except.error.inj (h.symm.trans hfs)) (hr typeName fs)
  | error r' => rw [Except.error.inj ((ofEntries_of_tagsIn_error htags).symm.trans h)]

theorem tagsOfValue_notIterable_iff : tagsOfValue v = .error (.notIterable k) ↔
    v ≠ .null ∧ v.members = .error (.notIterable k) := by
  refine tagsOfValue_eq_error_iff.trans (or_iff_left ?_)
  rintro ⟨vs, -, h⟩
  obtain ⟨before, u, after, -, -, hk⟩ := tagTexts_eq_error_iff.mp h
  cases hk

theorem tagsOfValue_notTrimmable_iff : tagsOfValue v = .error (.notTrimmable k) ↔
    ∃ (before : List Text) (u : Value) (after : _),
      v.members = .ok (before.map .text ++ u :: after) ∧ (∀ t, u ≠ .text t) ∧ u.kind = k := by
  refine tagsOfValue_eq_error_iff.trans ((or_iff_right ?_).trans ?_)
  · rintro ⟨-, h⟩
    cases kind_of_members_eq_error h
  constructor
  · rintro ⟨vs, hvs, h⟩
    obtain ⟨before, u, after, rfl, hu, hk⟩ := tagTexts_eq_error_iff.mp h
    exact ⟨before, u, after, hvs, hu, (Rejection.notTrimmable.inj hk).symm⟩
  · rintro ⟨before, u, after, hvs, hu, rfl⟩
    exact ⟨_, hvs, tagTexts_eq_error_iff.mpr ⟨before, u, after, rfl, hu, rfl⟩⟩

/-- **Records are read or turned down with the faults of their fields** just when their tags are left
aside or can be read.  The others are turned down at once, because the tags have no members or because
of the first member that is no text. -/
theorem ofEntries_checked_iff (entries : List (Value × Value)) (kind? : Option ItemKind) :
    (IsChecked entries kind? ↔ LeavesTags entries kind? ∨
      ∀ v, Value.lookup entries "tags".toList = some v → GivesTags v) ∧
    (∀ k, ofEntries entries kind? = .error (.notIterable k) ↔ ¬LeavesTags entries kind? ∧
      ∃ v, Value.lookup entries "tags".toList = some v ∧ v ≠ .null ∧
        v.members = .error (.notIterable k)) ∧
    ∀ k, ofEntries entries kind? = .error (.notTrimmable k) ↔ ¬LeavesTags entries kind? ∧
      ∃ v, Value.lookup entries "tags".toList = some v ∧
        ∃ (before : List Text) (u : Value) (after : _),
          v.members = .ok (before.map .text ++ u :: after) ∧ (∀ t, u ≠ .text t) ∧ u.kind = k := by
  refine ⟨isChecked_iff.trans exists_tagsIn_iff, fun k => ?_, fun k => ?_⟩
  · rw [ofEntries_eq_error_iff fun _ _ => Rejection.noConfusion, tagsIn_eq_error_iff]
    simp only [tagsOfValue_notIterable_iff]
  · rw [ofEntries_eq_error_iff fun _ _ => Rejection.noConfusion, tagsIn_eq_error_iff]
    simp only [tagsOfValue_notTrimmable_iff]

/-- Tags that are a number, and a number among tags, are no faults of a field. -/
theorem ofValue_unchecked :
    ofValue (.map [(.text "path".toList, .text "a.md".toList), (.text "tags".toList, .int 5)]) =
      .error (.notIterable .int) ∧
    ofValue (.map [(.text "path".toList, .text "a.md".toList),
        (.text "tags".toList, .list [.int 1])]) = .error (.notTrimmable .int) := by
  decide

end Item

end TreeSieve
