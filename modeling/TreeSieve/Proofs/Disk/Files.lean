import TreeSieve.Proofs.Disk.Operations

/-!
# Proofs — Disk — Files

A file that was written is read back (`IsOrderly.find_putFile`), and the folders made around it leave the
disk orderly (`IsOrderly.makeFolders`).

Writing changes the entry at one place only (`entry?_put`), so a walk that leads to the place on the disk
before leads there afterwards (`walk_put`).
-/

namespace TreeSieve.Disk

variable {d d' : Disk} {here place names p q : List Text} {path : Text} {e : DiskEntry}
  {bytes : List UInt8}

theorem lookup_put (d : Disk) (e : DiskEntry) :
    (d.put q e).lookup p = if p = q then some e else d.lookup p := by
  induction d with
  | nil =>
    by_cases hpq : p = q
    · simp [put, hpq]
    · simp [put, List.lookup_cons, hpq, beq_false_of_ne hpq]
  | cons x d ih =>
    obtain ⟨r, f⟩ := x
    by_cases hr : r = q
    · rw [put, if_pos hr, hr]
      by_cases hpq : p = q
      · simp [hpq]
      · simp [List.lookup_cons, hpq, beq_false_of_ne hpq]
    · rw [put, if_neg hr]
      by_cases hpr : p = r
      · simp [hpr, hr]
      · simp [List.lookup_cons, beq_false_of_ne hpr, ih]

/-- What is put at a path stands there, and the other entries stay. -/
theorem entry?_put (hq : q ≠ []) (e : DiskEntry) :
    entry? (d.put q e) p = if p = q then some e else d.entry? p := by
  by_cases hp : p = []
  · rw [hp, if_neg (Ne.symm hq)]
    rfl
  · rw [entry?_eq_lookup _ hp, entry?_eq_lookup _ hp, lookup_put]

/-- Where a walk leads that may end at a missing file, a walk leads when the file is there. -/
theorem walk_put {follow mayMiss : Bool} {links : Nat} (hfollow : follow = true) (hq : q ≠ [])
    (hfile : d.entry? q = none ∨ ∃ bytes, d.entry? q = some (.file bytes))
    (h : d.walk follow mayMiss links place names = .ok q) :
    (d.put q (.file bytes)).walk true false links place names = .ok q := by
  have hput (p : List Text) : entry? (d.put q (.file bytes)) p =
      if p = q then some (.file bytes) else d.entry? p := entry?_put hq _
  -- what the walk goes through is not where the file is put, so it stays
  have hstays (p : List Text) {e : DiskEntry} (he : d.entry? p = some e)
      (hother : ∀ bytes, e ≠ .file bytes) : entry? (d.put q (.file bytes)) p = some e := by
    rw [hput, if_neg, he]
    rintro rfl
    rw [he] at hfile
    simp [hother] at hfile
  fun_induction walk d follow mayMiss links place names with
  | case1 => rwa [walk]
  | case2 _ _ _ ih =>
    rw [walk, if_pos rfl]
    exact ih h
  | case4 _ place n todo hup _ hnone _ hmiss =>
    have hlast : todo = [] := by simpa using (Bool.and_eq_true_iff.mp hmiss).1
    -- nothing was missing but the file itself, at the end of the walk
    have hhere : place ++ [n] = q := Except.ok.inj h
    rw [walk, if_neg hup]
    simp [hput, hhere, hlast]
  | case6 _ place n _ hup _ hentry ih =>
    rw [walk, if_neg hup]
    simp only [hstays (place ++ [n]) hentry (by simp)]
    exact ih h
  | case7 _ place n _ hup _ passes hentry hpasses ih =>
    rw [walk, if_neg hup]
    simp only [hstays (place ++ [n]) hentry (by simp), if_pos hpasses]
    exact ih h
  | case9 _ place n todo hup _ bytes hentry hlast =>
    have hhere : place ++ [n] = q := Except.ok.inj h
    rw [walk, if_neg hup]
    simp [hput, hhere, hlast]
  | case11 _ place n todo hup _ size hentry hlast =>
    -- a file that cannot be read is not overwritten
    have hhere : place ++ [n] = q := Except.ok.inj h
    rw [← hhere, hentry] at hfile
    simp at hfile
  | case13 _ _ _ _ _ _ _ _ hlast => simp [hfollow] at hlast
  | case15 place n todo hup _ target hentry hlast links rooted names hsteps ih =>
    rw [walk, if_neg hup]
    simp only [hstays (place ++ [n]) hentry (by simp), hsteps, Bool.not_true, Bool.and_false,
      Bool.false_eq_true, if_false]
    exact ih h
  | case3 | case5 | case8 | case10 | case12 | case14 => cases h

/-- **A file that was written is read back.** -/
theorem IsOrderly.find_putFile (hd : d.IsOrderly) (hhere : d.isFolderAt here = true)
    (h : d.putFile here path bytes = .ok d') : d'.find here path = .ok (.file bytes) := by
  obtain ⟨q, hq, hroot, hfile, rfl⟩ := hd.putFile_eq_ok hhere h
  have hlead : (d.put q (.file bytes)).locate here path = .ok q := by
    obtain ⟨hnul, hlong⟩ := isPath_of_lead hq
    rw [locate, lead_eq_walk hnul hlong]
    exact walk_put rfl hroot hfile (lead_eq_ok hq)
  rw [find, hlead]
  simp only [bind, Except.bind, look, entry?_put hroot, if_true]

/-- A folder that is made leaves the folders that are there. -/
theorem isFolderAt_makeFolder (h : d.makeFolder here path = .ok d') (hp : d.isFolderAt p = true) :
    d'.isFolderAt p = true := by
  obtain ⟨q, -, hnone, rfl⟩ := make_eq_ok h
  have hroot : q ≠ [] := by
    rintro rfl
    cases hnone
  rw [isFolderAt, entry?_put hroot]
  split
  · rfl
  · exact hp

/-- Making folders leaves a disk orderly, with the folders that are there. -/
theorem IsOrderly.makeFolders (hd : d.IsOrderly) (hhere : d.isFolderAt here = true) {fuel : Nat}
    (h : makeFolders here fuel d path = .ok d') : d'.IsOrderly ∧ d'.isFolderAt here = true := by
  induction fuel generalizing d d' path with
  | zero => cases h
  | succ fuel ih =>
    have hone {d d' : Disk} (hd : d.IsOrderly) (hhere : d.isFolderAt here = true)
        (h : d.makeFolder here path = .ok d') : d'.IsOrderly ∧ d'.isFolderAt here = true :=
      ⟨hd.make hhere h, isFolderAt_makeFolder h hhere⟩
    rw [Disk.makeFolders] at h
    split at h
    · next hmade =>
      cases h
      exact hone hd hhere hmade
    · simp only at h
      split at h
      · cases h
      · cases haround : Disk.makeFolders here fuel d (Path.around path) with
        | error => simp [haround, bind, Except.bind] at h
        | ok mid =>
          simp only [haround, bind, Except.bind] at h
          obtain ⟨hmid, hmidHere⟩ := ih hd hhere haround
          split at h
          · next hmade =>
            cases h
            exact hone hmid hmidHere hmade
          · -- the folder itself may have been made along with the ones around it
            split at h
            · cases h
              exact ⟨hmid, hmidHere⟩
            · cases h
    · split at h
      · cases h
        exact ⟨hd, hhere⟩
      · cases h

end TreeSieve.Disk
