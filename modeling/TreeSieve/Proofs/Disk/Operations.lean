import TreeSieve.Proofs.Disk

/-!
# Proofs — Disk — Operations

Operations keep a disk orderly (`Made.isOrderly`): a folder, a link or a file comes to stand where
nothing stood, in a folder that is there and under a name, or a file takes the place of a file; and
what is removed goes with everything below it.
-/

namespace TreeSieve.Disk

variable {d d' : Disk} {here place p q : List Text} {n path : Text} {e f : DiskEntry}

theorem put_of_entry?_eq_none (hp : p ≠ []) (h : d.entry? p = none) (e : DiskEntry) :
    d.put p e = d ++ [(p, e)] := by
  rw [entry?_eq_lookup d hp] at h
  induction d with
  | nil => rfl
  | cons x d ih =>
    obtain ⟨q, f⟩ := x
    rw [List.lookup_cons] at h
    split at h
    · cases h
    · next hq =>
      have hne : q ≠ p := fun heq => by simp [heq] at hq
      rw [put, if_neg hne, ih h, List.cons_append]

theorem put_append_cons {l₁ l₂ : Disk} (h : ∀ x ∈ l₁, x.1 ≠ p) (e : DiskEntry) :
    put (l₁ ++ (p, f) :: l₂) p e = l₁ ++ (p, e) :: l₂ := by
  induction l₁ with
  | nil => exact if_pos rfl
  | cons x l₁ ih =>
    rw [List.cons_append, put, if_neg (h x List.mem_cons_self),
      ih fun y hy => h y (List.mem_cons_of_mem x hy), List.cons_append]

/-- A folder but the root is an entry. -/
theorem exists_mem_of_isFolderAt (hq : q ≠ []) (h : d.isFolderAt q = true) :
    ∃ e, e.isFolder = true ∧ (q, e) ∈ d := by
  obtain he | ⟨passes, he⟩ := isFolderAt_iff.mp h <;>
    exact ⟨_, rfl, mem_of_entry?_eq_some hq he⟩

/-- A disk with the folders of another one has them where they were. -/
theorem isFolderAt_of_subset (hnodup : (d'.map Prod.fst).Nodup)
    (hsub : ∀ e, e.isFolder = true → (q, e) ∈ d → (q, e) ∈ d') (h : d.isFolderAt q = true) :
    d'.isFolderAt q = true := by
  obtain rfl | hq := eq_or_ne q []
  · rfl
  · obtain ⟨e, he, hmem⟩ := exists_mem_of_isFolderAt hq h
    rw [isFolderAt, entry?_eq_some_of_mem hnodup hq (hsub e he hmem)]
    exact he

/-- A new entry in a folder that is there. -/
theorem IsOrderly.put_new (hd : d.IsOrderly) (hplace : d.isFolderAt place = true)
    (hn : IsName n) (hnone : d.entry? (place ++ [n]) = none) (e : DiskEntry) :
    (d.put (place ++ [n]) e).IsOrderly := by
  have hnew : ∀ f, (place ++ [n], f) ∉ d := fun f h => by
    simp [hd.entry?_eq_some h] at hnone
  have hnames : ∀ m ∈ place ++ [n], IsName m := by
    intro m hm
    rcases List.mem_append.mp hm with hm | hm
    · obtain ⟨_, -, hmem⟩ := exists_mem_of_isFolderAt (List.ne_nil_of_mem hm) hplace
      exact hd.isName _ hmem m hm
    · rwa [List.mem_singleton.mp hm]
  rw [put_of_entry?_eq_none (by simp) hnone]
  have hnodup : ((d ++ [(place ++ [n], e)]).map Prod.fst).Nodup := by
    rw [List.map_append, List.map_singleton, List.nodup_append]
    refine ⟨hd.nodup, List.pairwise_singleton _ _, fun p hp q hq hpq => ?_⟩
    obtain ⟨⟨_, f⟩, hf, rfl⟩ := List.mem_map.mp hp
    obtain rfl := hpq.trans (List.mem_singleton.mp hq)
    exact hnew f hf
  have hfolder {q : List Text} (h : d.isFolderAt q = true) :=
    isFolderAt_of_subset hnodup (fun _ _ => List.mem_append_left _) h
  refine ⟨hnodup, List.forall_mem_append.mpr ⟨hd.isName, ?_⟩,
    List.forall_mem_append.mpr ⟨hd.ne_root, ?_⟩,
    List.forall_mem_append.mpr ⟨fun x hx => hfolder (hd.around x hx), ?_⟩⟩ <;>
    rw [List.forall_mem_singleton]
  · exact hnames
  · simp
  · rw [List.dropLast_concat]
    exact hfolder hplace

/-- A file in place of a file. -/
theorem IsOrderly.put_file (hd : d.IsOrderly) {bytes : List UInt8}
    (hp : d.entry? p = some (.file bytes)) (bytes' : List UInt8) :
    (d.put p (.file bytes')).IsOrderly := by
  have hne : p ≠ [] := by
    rintro rfl
    cases hp
  rw [entry?_eq_lookup d hne, List.lookup_eq_some_iff] at hp
  obtain ⟨l₁, l₂, rfl, hl₁⟩ := hp
  rw [put_append_cons fun x hx heq => by simpa [heq] using hl₁ x hx]
  have hkeys : (l₁ ++ (p, .file bytes') :: l₂).map Prod.fst =
      (l₁ ++ (p, DiskEntry.file bytes) :: l₂).map Prod.fst := by simp
  have hmem {x : List Text × DiskEntry} (hx : x ∈ l₁ ++ (p, .file bytes') :: l₂) :
      ∃ y ∈ l₁ ++ (p, DiskEntry.file bytes) :: l₂, y.1 = x.1 :=
    List.mem_map.mp (hkeys ▸ List.mem_map_of_mem hx)
  have hnodup := hkeys ▸ hd.nodup
  refine ⟨hnodup, fun x hx => ?_, fun x hx => ?_, fun x hx => ?_⟩ <;> obtain ⟨y, hy, hyx⟩ := hmem hx
  · exact hyx ▸ hd.isName y hy
  · exact hyx ▸ hd.ne_root y hy
  · rw [← hyx]
    refine isFolderAt_of_subset hnodup (fun e he hmem => ?_) (hd.around y hy)
    rcases List.mem_append.mp hmem with hmem | hmem
    · exact List.mem_append_left _ hmem
    · rcases List.mem_cons.mp hmem with heq | hmem
      · rw [(Prod.mk.inj heq).2] at he
        cases he
      · exact List.mem_append_right _ (List.mem_cons_of_mem _ hmem)

theorem IsOrderly.remove (hd : d.IsOrderly) (p : List Text) : (d.remove p).IsOrderly := by
  have hsub : (d.remove p).Sublist d := List.filter_sublist
  have hnodup := hd.nodup.sublist (hsub.map Prod.fst)
  refine ⟨hnodup, fun x hx => hd.isName x (hsub.subset hx),
    fun x hx => hd.ne_root x (hsub.subset hx), fun x hx => ?_⟩
  have haround := hd.around x (hsub.subset hx)
  refine isFolderAt_of_subset hnodup (fun e _ hmem => List.mem_filter.mpr ⟨hmem, ?_⟩) haround
  -- were the folder around removed, the entry would have gone with it
  have hx' := (List.mem_filter.mp hx).2
  simp only [Bool.not_eq_true', ← Bool.not_eq_true, List.isPrefixOf_iff_prefix] at hx' ⊢
  exact fun h => hx' (h.trans (List.dropLast_prefix x.1))

/-- Where a path leads from a folder. -/
theorem IsOrderly.isEnd_lead (hd : d.IsOrderly) (hhere : d.isFolderAt here = true)
    {follow mayMiss : Bool} (h : d.lead follow mayMiss here path = .ok q) :
    d.IsEnd follow mayMiss q := by
  refine hd.isEnd_walk ?_ (areSteps_components path) (lead_eq_ok h)
  split
  · rfl
  · exact hhere

/-- What an operation puts where nothing stands. -/
theorem IsOrderly.put_of_isEnd (hd : d.IsOrderly) {follow mayMiss : Bool}
    (hq : d.IsEnd follow mayMiss q) (hnone : (d.entry? q).isSome = false) (e : DiskEntry) :
    (d.put q e).IsOrderly := by
  cases hq with
  | missing _ hq hplace hn hnone =>
    subst hq
    exact hd.put_new hplace hn hnone e
  | folder he => obtain he | ⟨_, he⟩ := isFolderAt_iff.mp he <;> simp [he] at hnone
  | file he | unreadable he | link _ he => simp [he] at hnone

/-- An entry is made where nothing stands. -/
theorem make_eq_ok (h : d.make here path e = .ok d') : ∃ q,
    d.lead false true here path = .ok q ∧ (d.entry? q).isSome = false ∧ d' = d.put q e := by
  obtain ⟨q, hq, h⟩ := Except.bind_eq_ok.mp h
  refine ⟨q, hq, ?_⟩
  split at h
  · cases h
  · next hnone => exact ⟨Bool.eq_false_iff.mpr hnone, (Except.ok.inj h).symm⟩

theorem IsOrderly.make (hd : d.IsOrderly) (hhere : d.isFolderAt here = true)
    (h : d.make here path e = .ok d') : d'.IsOrderly := by
  obtain ⟨q, hq, hnone, rfl⟩ := make_eq_ok h
  exact hd.put_of_isEnd (hd.isEnd_lead hhere hq) hnone e

/-- A file is written where nothing stands, or in place of a file. -/
theorem IsOrderly.putFile_eq_ok (hd : d.IsOrderly) (hhere : d.isFolderAt here = true)
    {bytes : List UInt8} (h : d.putFile here path bytes = .ok d') : ∃ q,
    d.lead true true here path = .ok q ∧ q ≠ [] ∧
      (d.entry? q = none ∨ ∃ bytes', d.entry? q = some (.file bytes')) ∧
      d' = d.put q (.file bytes) := by
  obtain ⟨q, hq, h⟩ := Except.bind_eq_ok.mp h
  -- links have been followed, and what is no file that can be read is refused
  have hfile : (d.entry? q = none ∨ ∃ bytes', d.entry? q = some (.file bytes')) ∧
      d' = d.put q (.file bytes) := by
    cases hd.isEnd_lead hhere hq with
    | folder he => obtain he | ⟨_, he⟩ := isFolderAt_iff.mp he <;> rw [he] at h <;> cases h
    | file he =>
      rw [he] at h
      exact ⟨.inr ⟨_, he⟩, (Except.ok.inj h).symm⟩
    | unreadable he =>
      rw [he] at h
      cases h
    | link hfollow => cases hfollow
    | missing _ _ _ _ hnone =>
      rw [hnone] at h
      exact ⟨.inl hnone, (Except.ok.inj h).symm⟩
  refine ⟨q, hq, ?_, hfile⟩
  rintro rfl
  obtain hnone | ⟨_, he⟩ := hfile.1
  · cases hnone
  · cases he

theorem IsOrderly.putFile (hd : d.IsOrderly) (hhere : d.isFolderAt here = true)
    {bytes : List UInt8} (h : d.putFile here path bytes = .ok d') : d'.IsOrderly := by
  obtain ⟨q, hq, -, hnone | ⟨bytes', he⟩, rfl⟩ := hd.putFile_eq_ok hhere h
  · exact hd.put_of_isEnd (hd.isEnd_lead hhere hq) (by rw [hnone]; rfl) _
  · exact hd.put_file he bytes

/-- The disks that operations make of an empty one. -/
inductive Made : Disk → Prop where
  | empty : Made []
  | makeFolder {d d' : Disk} {here : List Text} {path : Text} : Made d →
    d.isFolderAt here = true → d.makeFolder here path = .ok d' → Made d'
  | makeLink {d d' : Disk} {here : List Text} {path target : Text} : Made d →
    d.isFolderAt here = true → d.makeLink here path target = .ok d' → Made d'
  | putFile {d d' : Disk} {here : List Text} {path : Text} {bytes : List UInt8} : Made d →
    d.isFolderAt here = true → d.putFile here path bytes = .ok d' → Made d'
  | remove {d : Disk} (p : List Text) : Made d → Made (d.remove p)

/-- **Operations keep a disk orderly.** -/
theorem Made.isOrderly (h : Made d) : d.IsOrderly := by
  induction h with
  | empty => decide
  | makeFolder _ hhere h ih => exact ih.make hhere h
  | makeLink _ hhere h ih => exact ih.make hhere h
  | putFile _ hhere h ih => exact ih.putFile hhere h
  | remove p _ ih => exact ih.remove p

end TreeSieve.Disk
