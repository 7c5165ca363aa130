import Mathlib.Data.List.Nodup
import Mathlib.Data.List.Perm.Subperm
import TreeSieve.Proofs.Disk
import TreeSieve.Proofs.Snapshot.Steps

/-!
# Proofs — Snapshot — Listing

What a snapshot of a folder should list, said by the disk alone, and in which order.

An entry is given by the names that lead to it from the folder the snapshot starts from.  The
listing of a folder (`listing`) holds its subfolders that are kept, then its other entries that are
kept, both by their names in lower case, and then what is listed for the subfolders in that order,
links left aside.  Of a folder that cannot be listed nothing is known but its name.

* `mem_listing_iff`: what is listed is what folders lead to that can be listed, with nothing left out
  on the way.
* `nodup_listing`: nothing is listed twice.
* `length_listing_le`: there is at most as much listed as there is.
-/

namespace TreeSieve

/-- Whether the names lead from a folder to a folder, links being followed. -/
def Disk.leadsToFolder (d : Disk) (place names : List Text) : Bool :=
  match d.resolve place names with
  | .ok .folder => true
  | _ => false

theorem Disk.leadsToFolder_iff {d : Disk} {place names : List Text} :
    d.leadsToFolder place names = true ↔ d.resolve place names = .ok .folder := by
  rw [leadsToFolder]
  split
  · next h => exact iff_of_true rfl h
  · next h => exact iff_of_false Bool.false_ne_true h

namespace Snapshot

/-- Whether an entry is hidden or ignored. -/
def Options.leavesOut (o : Options) (names : List Text) : Bool :=
  (!o.showHidden && names.getLast?.any fun n => n.head? = some '.')
    || o.ignores (Text.join Path.root names)

/-- Names by their lower case. -/
def sortNames (names : List Text) : List Text :=
  names.mergeSort fun a b => Text.le (Text.lower a) (Text.lower b)

/-- The entries of a folder that are kept, those that lead to a folder or the others, in order. -/
def keptNames (o : Options) (d : Disk) (place around : List Text) (folders : Bool) : List Text :=
  sortNames <| (((d.list? (place ++ around)).getD []).map Prod.fst).filter fun n =>
    d.leadsToFolder (place ++ around) [n] == folders && !o.leavesOut (around ++ [n])

/-- What a snapshot of the folder at `place` lists below its folder `around`. -/
def listing (o : Options) (d : Disk) (place around : List Text) : List (List Text) :=
  (keptNames o d place around true).map (around ++ [·])
    ++ (keptNames o d place around false).map (around ++ [·])
    ++ (keptNames o d place around true).flatMap fun n =>
      if d.entry? (place ++ around ++ [n]) = some .folder then listing o d place (around ++ [n])
      else []
termination_by d.below (place ++ around)
decreasing_by
  next h => exact List.append_assoc place around [n] ▸ Disk.below_lt h

variable {o : Options} {d : Disk} {place around names : List Text} {n : Text} {folders : Bool}

theorem mem_keptNames (hd : d.IsOrderly) : n ∈ keptNames o d place around folders ↔
    (d.entry? (place ++ around) = some .folder ∧ ∃ e, d.entry? (place ++ around ++ [n]) = some e) ∧
      d.leadsToFolder (place ++ around) [n] = folders ∧ o.leavesOut (around ++ [n]) = false := by
  simp [keptNames, sortNames, hd.mem_list?]

theorem nodup_keptNames (hd : d.IsOrderly) (o : Options) (place around : List Text)
    (folders : Bool) : (keptNames o d place around folders).Nodup :=
  (List.mergeSort_perm _ _).nodup_iff.mpr ((hd.nodup_list? (place ++ around)).filter _)

/-- An entry of a folder that can be listed is listed unless it is left out, and then what is listed
below it. -/
theorem mem_listing (hd : d.IsOrderly) : names ∈ listing o d place around ↔
    d.entry? (place ++ around) = some .folder ∧
      ∃ n e, d.entry? (place ++ around ++ [n]) = some e ∧ o.leavesOut (around ++ [n]) = false ∧
        (names = around ++ [n] ∨ e = .folder ∧ names ∈ listing o d place (around ++ [n])) := by
  rw [listing, List.mem_append, List.mem_append, List.mem_map, List.mem_map, List.mem_flatMap]
  simp only [mem_keptNames hd]
  constructor
  · rintro ((⟨n, ⟨⟨hplace, e, he⟩, -, hkept⟩, rfl⟩ | ⟨n, ⟨⟨hplace, e, he⟩, -, hkept⟩, rfl⟩) |
      ⟨n, ⟨⟨hplace, -⟩, -, hkept⟩, hmem⟩)
    · exact ⟨hplace, n, e, he, hkept, .inl rfl⟩
    · exact ⟨hplace, n, e, he, hkept, .inl rfl⟩
    · split at hmem
      · next he => exact ⟨hplace, n, .folder, he, hkept, .inr ⟨rfl, hmem⟩⟩
      · exact absurd hmem List.not_mem_nil
  · rintro ⟨hplace, n, e, he, hkept, rfl | ⟨rfl, hmem⟩⟩
    · cases hfolder : d.leadsToFolder (place ++ around) [n] with
      | true => exact .inl (.inl ⟨n, ⟨⟨hplace, e, he⟩, hfolder, hkept⟩, rfl⟩)
      | false => exact .inl (.inr ⟨n, ⟨⟨hplace, e, he⟩, hfolder, hkept⟩, rfl⟩)
    · have hfolder : d.leadsToFolder (place ++ around) [n] = true :=
        Disk.leadsToFolder_iff.mpr (Disk.resolve_folder (hd.isName_of_entry?_eq_some he).ne_up
          (Disk.isFolderAt_of_folder he))
      exact .inr ⟨n, ⟨⟨hplace, _, he⟩, hfolder, hkept⟩, by rwa [if_pos he]⟩

/-- Nothing is listed below what is no folder that can be listed. -/
theorem listing_eq_nil (hd : d.IsOrderly) (h : d.entry? (place ++ around) ≠ some .folder) :
    listing o d place around = [] :=
  List.eq_nil_iff_forall_not_mem.mpr fun _ hmem => h ((mem_listing hd).mp hmem).1

/-- **What is listed.** -/
theorem mem_listing_iff (hd : d.IsOrderly) : names ∈ listing o d place around ↔
    ∃ rest, names = around ++ rest ∧ rest ≠ [] ∧ d.IsWay (place ++ around) rest ∧
      ∀ p, p <+: rest → p ≠ [] → o.leavesOut (around ++ p) = false := by
  induction around using listing.induct d place with
  | case1 around ih =>
    have hassoc (n : Text) (p : List Text) : around ++ [n] ++ p = around ++ n :: p := by simp
    rw [mem_listing hd]
    constructor
    · rintro ⟨hplace, n, e, he, hkept, rfl | ⟨rfl, hmem⟩⟩
      · exact ⟨[n], rfl, List.cons_ne_nil n [], Disk.isWay_singleton.mpr ⟨hplace, e, he⟩,
          Disk.forall_prefix_cons.mpr ⟨hkept, fun p hp hne => absurd (List.prefix_nil.mp hp) hne⟩⟩
      · -- from the subfolder on, the way and what is kept on it are known
        obtain ⟨rest, rfl, hne, hway, hrest⟩ := (ih n he).mp hmem
        rw [← List.append_assoc] at hway
        simp only [hassoc] at hrest ⊢
        exact ⟨n :: rest, rfl, List.cons_ne_nil n rest, Disk.isWay_cons.mpr ⟨hplace, hway⟩,
          Disk.forall_prefix_cons.mpr ⟨hkept, hrest⟩⟩
    · rintro ⟨_ | ⟨n, rest⟩, rfl, hne, hway, hkept⟩
      · exact absurd rfl hne
      · obtain ⟨hn, hrest⟩ := Disk.forall_prefix_cons.mp hkept
        obtain ⟨hplace, hway⟩ := Disk.isWay_cons.mp hway
        by_cases hne' : rest = []
        · subst hne'
          obtain ⟨e, he⟩ := Disk.isWay_nil.mp hway
          exact ⟨hplace, n, e, he, hn, .inl rfl⟩
        · have he := hway.folders [] List.nil_prefix (Ne.symm hne')
          rw [List.append_nil] at he
          refine ⟨hplace, n, .folder, he, hn, .inr ⟨rfl, (ih n he).mpr ?_⟩⟩
          refine ⟨rest, (hassoc n rest).symm, hne', ?_, ?_⟩
          · rwa [← List.append_assoc]
          · simpa only [hassoc] using hrest

/-- What is listed from a folder on leads somewhere, with no entry left out on the way, and neither a
link nor a folder that cannot be listed to go through. -/
theorem mem_listing_root_iff (hd : d.IsOrderly) (hplace : d.isFolderAt place = true) :
    names ∈ listing o d place [] ↔ d.Leads place names ∧
      (∀ p, p <+: names → p ≠ [] → o.leavesOut p = false) ∧
      ∀ p, p <+: names → p ≠ names → d.IsClear (place ++ p) := by
  rw [mem_listing_iff hd, List.append_nil]
  constructor
  · rintro ⟨_, rfl, hne, hway, hkept⟩
    obtain ⟨hleads, hclear⟩ := (hd.isWay_iff hplace hne).mp hway
    exact ⟨hleads, hkept, hclear⟩
  · rintro ⟨hleads, hkept, hclear⟩
    exact ⟨names, rfl, hleads.1, (hd.isWay_iff hplace hleads.1).mpr ⟨hleads, hclear⟩, hkept⟩

/-- What is listed is an entry of the disk. -/
theorem exists_mem_of_mem_listing (hd : d.IsOrderly) (h : names ∈ listing o d place []) :
    names ≠ [] ∧ ∃ e, (place ++ names, e) ∈ d := by
  obtain ⟨_, rfl, hne, ⟨⟨e, he⟩, -⟩, -⟩ := (mem_listing_iff hd).mp h
  rw [List.append_nil] at he
  exact ⟨hne, e, Disk.mem_of_entry?_eq_some (by simp [hne]) he⟩

/-- What is listed below a subfolder bears its name. -/
theorem eq_append_of_mem_listing (hd : d.IsOrderly)
    (h : names ∈ listing o d place (around ++ [n])) :
    ∃ rest, rest ≠ [] ∧ names = around ++ n :: rest := by
  obtain ⟨rest, rfl, hne, -⟩ := (mem_listing_iff hd).mp h
  exact ⟨rest, hne, by simp⟩

theorem nodup_listing (hd : d.IsOrderly) (o : Options) (place around : List Text) :
    (listing o d place around).Nodup := by
  induction around using listing.induct d place with
  | case1 around ih =>
    have hmap (folders : Bool) :
        ((keptNames o d place around folders).map (around ++ [·])).Nodup :=
      List.Pairwise.map _ (fun m n hne h => hne (by simpa using h))
        (nodup_keptNames hd o place around folders)
    have hbelow {n : Text} {x : List Text}
        (h : x ∈ if d.entry? (place ++ around ++ [n]) = some .folder then
          listing o d place (around ++ [n]) else []) :
        ∃ rest, rest ≠ [] ∧ x = around ++ n :: rest := by
      split at h
      · exact eq_append_of_mem_listing hd h
      · exact absurd h List.not_mem_nil
    rw [listing, List.nodup_append, List.nodup_append, List.nodup_flatMap]
    refine ⟨⟨hmap true, hmap false, ?_⟩, ⟨fun n _ => ?_, ?_⟩, ?_⟩
    · -- no entry leads to a folder and does not
      intro x hx y hy hxy
      obtain ⟨m, hm, rfl⟩ := List.mem_map.mp hx
      obtain ⟨n, hn, rfl⟩ := List.mem_map.mp hy
      obtain rfl : m = n := by simpa using hxy
      exact Bool.false_ne_true
        (((mem_keptNames hd).mp hn).2.1.symm.trans ((mem_keptNames hd).mp hm).2.1)
    · split
      · next h => exact ih n h
      · exact List.nodup_nil
    · -- below different subfolders the names differ at this place
      refine (nodup_keptNames hd o place around true).imp fun hne => ?_
      refine List.disjoint_left.mpr fun x hx hy => ?_
      obtain ⟨rest, -, rfl⟩ := hbelow hx
      obtain ⟨rest', -, heq⟩ := hbelow hy
      exact hne (List.cons.inj (List.append_cancel_left heq)).1
    · -- an entry of the folder has one name more, and what is below a subfolder at least two
      intro x hx y hy hxy
      obtain ⟨m, hm⟩ : ∃ m, x = around ++ [m] := by
        rcases List.mem_append.mp hx with hx | hx <;>
          · obtain ⟨m, -, rfl⟩ := List.mem_map.mp hx
            exact ⟨m, rfl⟩
      obtain ⟨n, -, hy⟩ := List.mem_flatMap.mp hy
      obtain ⟨rest, hne, rfl⟩ := hbelow hy
      rw [hm] at hxy
      exact hne (List.cons.inj (List.append_cancel_left hxy)).2.symm

/-- A listing is not longer than the disk. -/
theorem length_listing_le (hd : d.IsOrderly) (o : Options) (place : List Text) :
    (listing o d place []).length ≤ d.length := by
  have hnodup : ((listing o d place []).map (place ++ ·)).Nodup :=
    (nodup_listing hd o place []).map fun _ _ => List.append_cancel_left
  have hsubset : (listing o d place []).map (place ++ ·) ⊆ d.map Prod.fst := by
    intro x hx
    obtain ⟨names, hnames, rfl⟩ := List.mem_map.mp hx
    obtain ⟨-, e, he⟩ := exists_mem_of_mem_listing hd hnames
    exact List.mem_map_of_mem he
  simpa using (List.subperm_of_subset hnodup hsubset).length_le

/-- Options that ignore nothing. -/
def lenient : Options := { ignore := [], rules := [] }

/-- A folder with a subfolder, a link to it, a hidden folder and one that is ignored by default. -/
def sampleDisk : Disk :=
  [(["r"], .folder), (["r", "Zoo"], .folder), (["r", "Zoo", "n.txt"], .file []),
    (["r", "alias"], .link "Zoo".toList), (["r", ".old"], .folder), (["r", ".old", "x"], .file []),
    (["r", "node_modules"], .folder), (["r", "node_modules", "y"], .file []),
    (["r", "b.txt"], .file [])].map fun (names, e) => (names.map (·.toList), e)

/-- The same with a folder that cannot be listed, although a path leads to the file in it. -/
def guardedDisk : Disk :=
  sampleDisk ++ [(["r", "vault"], .unlistable true), (["r", "vault", "k"], .file [])].map
    fun (names, e) => (names.map (·.toList), e)

example : listing lenient sampleDisk ["r".toList] [] =
    [["alias"], ["node_modules"], ["Zoo"], ["b.txt"], ["node_modules", "y"], ["Zoo", "n.txt"]].map
      (·.map (·.toList)) := by
  cbv

end Snapshot

end TreeSieve
