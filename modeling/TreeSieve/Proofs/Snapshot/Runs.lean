import TreeSieve.Proofs.Snapshot.Counts

/-!
# Proofs — Snapshot — Runs

Snapshots made one after the other with the same counts.  A snapshot only adds to the counts
(`ofDiskAfter_eq`), so a run of them is known by the snapshots made each on its own (`ofDiskAll_eq`).

* `ofDiskAll_counts`: **each snapshot of a run is the one made on its own**, and after each call the
  counts are those of the snapshots since they were last started anew, taken together.
-/

namespace TreeSieve.Snapshot

variable {o : Options} {d : Disk} {here : List Text} {calls made : List (Option Text)}
  {fresh : Text → List Item × Stats}

/-- The paths of the snapshots since the counts were last started anew. -/
def sinceReset (calls : List (Option Text)) : List Text :=
  calls.foldl (fun paths call => match call with
    | none => []
    | some path => paths ++ [path]) []

@[simp] theorem sinceReset_reset (calls : List (Option Text)) : sinceReset (calls ++ [none]) = [] := by
  rw [sinceReset, List.foldl_append]
  rfl

@[simp] theorem sinceReset_build (calls : List (Option Text)) (path : Text) :
    sinceReset (calls ++ [some path]) = sinceReset calls ++ [path] := by
  rw [sinceReset, List.foldl_append]
  rfl

theorem mem_of_mem_sinceReset {path : Text} (h : path ∈ sinceReset calls) : some path ∈ calls := by
  induction calls using List.reverseRecOn with
  | nil => cases h
  | append_singleton calls call ih =>
    cases call with
    | none =>
      rw [sinceReset_reset] at h
      cases h
    | some p =>
      rw [sinceReset_build] at h
      rcases List.mem_append.mp h with h | h
      · exact List.mem_append_left _ (ih h)
      · rw [List.mem_singleton.mp h]
        exact List.mem_append_right _ (List.mem_singleton_self _)

/-- The counts of the snapshots since the last start, when each is made on its own. -/
def total (fresh : Text → List Item × Stats) (calls : List (Option Text)) : Stats :=
  ((sinceReset calls).map fun path => (fresh path).2).sum

@[simp] theorem total_reset (fresh : Text → List Item × Stats) (calls : List (Option Text)) :
    total fresh (calls ++ [none]) = 0 := by
  rw [total, sinceReset_reset]
  rfl

@[simp] theorem total_build (fresh : Text → List Item × Stats) (calls : List (Option Text))
    (path : Text) : total fresh (calls ++ [some path]) = total fresh calls + (fresh path).2 := by
  rw [total, sinceReset_build, List.map_append, List.sum_append]
  exact congrArg (total fresh calls + ·) (add_zero _)

/-- What the last of some calls gives, when each snapshot is made on its own: its items, if it makes a
snapshot, and the counts up to it. -/
def report (fresh : Text → List Item × Stats) (calls : List (Option Text)) :
    Option (List Item) × Stats :=
  (calls.getLast?.join.map fun path => (fresh path).1, total fresh calls)

/-- The beginnings of a list are the empty one, the first element, and what begins behind it. -/
theorem tail_inits_cons {α : Type} (a : α) (as : List α) :
    (a :: as).inits.tail = [a] :: as.inits.tail.map (a :: ·) := by
  cases as <;> rfl

/-- **Runs.**  After each call of a run, its snapshot is the one made on its own, and the counts are
those of the calls up to it. -/
theorem ofDiskAll_eq (hfresh : ∀ path, some path ∈ calls → ofDisk o d here path = .ok (fresh path))
    (before : List (Option Text)) : ofDiskAll o d here (total fresh before) calls =
      .ok (calls.inits.tail.map fun made => report fresh (before ++ made)) := by
  induction calls generalizing before with
  | nil => rfl
  | cons call calls ih =>
    -- what is left of the run goes on from the counts behind the first call
    have hrest := ih (fun path h => hfresh path (List.mem_cons_of_mem _ h)) (before ++ [call])
    have hreport : (fun made => report fresh (before ++ (call :: made))) =
        fun made => report fresh (before ++ [call] ++ made) :=
      funext fun made => by rw [List.append_assoc, List.singleton_append]
    rw [tail_inits_cons, List.map_cons, List.map_map, Function.comp_def, hreport]
    cases call with
    | none =>
      rw [total_reset] at hrest
      have hzero : ofDiskAll o d here {} calls = ofDiskAll o d here 0 calls := rfl
      rw [ofDiskAll, hzero, hrest, report, total_reset, List.getLast?_concat]
      rfl
    | some path =>
      rw [total_build] at hrest
      rw [ofDiskAll, ofDiskAfter_eq, hfresh path List.mem_cons_self]
      simp only [Except.map, bind, Except.bind, hrest]
      rw [report, total_build, List.getLast?_concat]
      rfl

/-- A run succeeds when each of its snapshots does on its own. -/
theorem exists_ofDiskAll_iff (counted : Stats) : (∃ outs, ofDiskAll o d here counted calls = .ok outs) ↔
    ∀ path, some path ∈ calls → ∃ r, ofDisk o d here path = .ok r := by
  induction calls generalizing counted with
  | nil => exact iff_of_true ⟨[], rfl⟩ fun _ h => absurd h List.not_mem_nil
  | cons call calls ih =>
    cases call with
    | none =>
      simp only [List.mem_cons, reduceCtorEq, false_or, ← ih {}, ofDiskAll, bind, Except.bind_eq_ok,
        pure, Except.pure, Except.ok.injEq]
      exact ⟨fun ⟨_, outs, h, _⟩ => ⟨outs, h⟩, fun ⟨outs, h⟩ => ⟨_, outs, h, rfl⟩⟩
    | some path =>
      simp only [List.mem_cons, Option.some.injEq, forall_eq_or_imp]
      cases hpath : ofDisk o d here path with
      | error f =>
        refine iff_of_false (fun ⟨outs, h⟩ => ?_) fun ⟨⟨r, hr⟩, _⟩ => nomatch hr
        rw [ofDiskAll, ofDiskAfter_eq, hpath] at h
        cases h
      | ok r =>
        rw [and_iff_right ⟨r, rfl⟩, ← ih (counted + r.2)]
        simp only [ofDiskAll, ofDiskAfter_eq, hpath, Except.map, bind, Except.bind, pure, Except.pure]
        cases ofDiskAll o d here (counted + r.2) calls <;> simp

/-- A count of many snapshots is the sum of this count of each. -/
theorem field_total {field : Stats → Nat} (hzero : field 0 = 0)
    (hadd : ∀ a b, field (a + b) = field a + field b) (fresh : Text → List Item × Stats)
    (calls : List (Option Text)) :
    field (total fresh calls) = ((sinceReset calls).map fun path => field (fresh path).2).sum := by
  rw [total]
  induction sinceReset calls with
  | nil => exact hzero
  | cons path paths ih => rw [List.map_cons, List.sum_cons, hadd, ih, List.map_cons, List.sum_cons]

/-- **Snapshots do not disturb each other.**  A run of snapshots of one disk, with new starts of the
counts among them, succeeds just when each of the snapshots does on its own.  Then each has the items
that it has on its own, and after each call the counts are the sum of those of the snapshots since the
last start, each made on its own.  In this sum as many files are counted as items of files are made, also
when there was no room for all entries of a folder; and when there was for all, as many folders as items
of folders, the roots among them, that are no links and can be listed. -/
theorem ofDiskAll_counts (hd : d.IsOrderly) (o : Options) (here : List Text)
    (calls : List (Option Text)) :
    ((∃ outs, ofDiskAll o d here {} calls = .ok outs) ↔
      ∀ path, some path ∈ calls → ∃ r, ofDisk o d here path = .ok r) ∧
    ∀ fresh : Text → List Item × Stats,
      (∀ path, some path ∈ calls → ofDisk o d here path = .ok (fresh path)) →
      ofDiskAll o d here {} calls = .ok (calls.inits.tail.map (report fresh)) ∧
      ∀ made, made <+: calls →
        (total fresh made).files =
          ((sinceReset made).map fun path => (fresh path).1.countP (!·.isFolder)).sum ∧
        ((∀ path ∈ sinceReset made, ¬ IsCut o d here path) → (total fresh made).folders =
          ((sinceReset made).map fun path => countItems isOpenItem o d here path (fresh path).1).sum) := by
  refine ⟨exists_ofDiskAll_iff {}, fun fresh hfresh => ⟨ofDiskAll_eq hfresh [], fun made hmade => ?_⟩⟩
  have hbuilt : ∀ path ∈ sinceReset made, ofDisk o d here path = .ok ((fresh path).1, (fresh path).2) :=
    fun path hpath => hfresh path (hmade.subset (mem_of_mem_sinceReset hpath))
  constructor
  · rw [field_total rfl Stats.files_add]
    exact congrArg List.sum (List.map_congr_left fun path hpath => files_ofDisk (hbuilt path hpath))
  · intro hcut
    rw [field_total rfl Stats.folders_add]
    exact congrArg List.sum (List.map_congr_left fun path hpath =>
      folders_ofDisk hd (hcut path hpath) (hbuilt path hpath))

/-- Options with room for two entries. -/
def tight : Options := { ignore := [], maxItems := 3, rules := [] }

/-- Calls for a folder with more entries and a file, a new start, and calls for a path that leads nowhere,
a folder with one entry, through a link, this folder itself, and one that cannot be listed. -/
def sampleCalls : List (Option Text) :=
  [some "r".toList, some "r/b.txt".toList, none, some "x".toList, some "r/alias".toList,
    some "r/Zoo".toList, some "r/vault".toList]

theorem ofDiskAll_counts_guardedDisk : guardedDisk.IsOrderly ∧
    ∃ fresh : Text → List Item × Stats,
    (∀ path, some path ∈ sampleCalls → ofDisk tight guardedDisk [] path = .ok (fresh path)) ∧
    ofDiskAll tight guardedDisk [] {} sampleCalls =
      .ok (sampleCalls.inits.tail.map (report fresh)) ∧
    (∀ path ∈ sinceReset sampleCalls, ¬ IsCut tight guardedDisk [] path) ∧
    total fresh sampleCalls = { folders := 2, files := 2, errors := 1 } ∧
    ((sinceReset sampleCalls).map fun path => (fresh path).1.countP (!·.isFolder)).sum = 2 ∧
    ((sinceReset sampleCalls).map fun path =>
      countItems isOpenItem tight guardedDisk [] path (fresh path).1).sum = 2 := by
  have hd : guardedDisk.IsOrderly := by decide
  have hcounts : (ofDiskAll tight guardedDisk [] {} sampleCalls).map
      (fun outs => outs.getLast?.map Prod.snd) =
        .ok (some { folders := 2, files := 2, errors := 1 }) := by cbv
  obtain ⟨hok, hrun⟩ := ofDiskAll_counts hd tight [] sampleCalls
  obtain ⟨fresh, hfresh⟩ : ∃ fresh : Text → List Item × Stats,
      ∀ path, some path ∈ sampleCalls → ofDisk tight guardedDisk [] path = .ok (fresh path) := by
    obtain ⟨outs, houts, -⟩ := Except.map_eq_ok.mp hcounts
    refine ⟨fun path => (ofDisk tight guardedDisk [] path).toOption.getD ([], {}), fun path hpath => ?_⟩
    obtain ⟨r, hr⟩ := hok.mp ⟨outs, houts⟩ path hpath
    simp only [hr, Except.toOption, Option.getD_some]
  obtain ⟨hall, hlaws⟩ := hrun fresh hfresh
  obtain ⟨hfiles, hfolders⟩ := hlaws sampleCalls (List.prefix_refl _)
  have htotal : total fresh sampleCalls = { folders := 2, files := 2, errors := 1 } := by
    rw [hall] at hcounts
    exact Option.some.inj (Except.ok.inj hcounts)
  have hcut : ∀ path ∈ sinceReset sampleCalls, ¬ IsCut tight guardedDisk [] path := by
    have hmissing : guardedDisk.locate [] "x".toList = .error .notFound := by cbv
    have hlink : guardedDisk.locate [] "r/alias".toList = .ok ["r".toList, "Zoo".toList] := by cbv
    have hfolder : guardedDisk.locate [] "r/Zoo".toList = .ok ["r".toList, "Zoo".toList] := by cbv
    have hvault : guardedDisk.locate [] "r/vault".toList = .ok ["r".toList, "vault".toList] := by cbv
    have hroom : (listing tight guardedDisk ["r".toList, "Zoo".toList] []).length ≤
        tight.maxItems - 1 := by
      have hlisting : listing tight guardedDisk ["r".toList, "Zoo".toList] [] =
          [["n.txt".toList]] := by
        cbv
      rw [hlisting]
      decide
    have hnone : (listing tight guardedDisk ["r".toList, "vault".toList] []).length ≤
        tight.maxItems - 1 := by
      rw [listing_eq_nil hd (by decide)]
      decide
    have hpaths : sinceReset sampleCalls = ["x", "r/alias", "r/Zoo", "r/vault"].map (·.toList) := rfl
    rw [hpaths]
    rintro path hpath ⟨place, hplace, -, hlt⟩
    simp only [List.map_cons, List.map_nil, List.mem_cons, List.not_mem_nil, or_false] at hpath
    rcases hpath with rfl | rfl | rfl | rfl
    · cases hmissing.symm.trans hplace
    · obtain rfl := Except.ok.inj (hlink.symm.trans hplace)
      exact absurd hroom (Nat.not_le.mpr hlt)
    · obtain rfl := Except.ok.inj (hfolder.symm.trans hplace)
      exact absurd hroom (Nat.not_le.mpr hlt)
    · obtain rfl := Except.ok.inj (hvault.symm.trans hplace)
      exact absurd hnone (Nat.not_le.mpr hlt)
  refine ⟨hd, fresh, hfresh, hall, hcut, htotal, ?_, ?_⟩
  · rw [← hfiles, htotal]
  · rw [← hfolders hcut, htotal]

/-- A folder that cannot be listed has an item like any other, but is not counted. -/
theorem ofDisk_uncounted : ¬ IsCut lenient guardedDisk [] "r".toList ∧
    (ofDisk lenient guardedDisk [] "r".toList).map
        (fun r => (r.2, countItems isRealItem lenient guardedDisk [] "r".toList r.1)) =
      .ok ({ folders := 3, files := 3, ignored := 1, errors := 1 }, 4) := by
  refine ⟨?_, by cbv⟩
  rintro ⟨place, -, -, hlt⟩
  have hlength := length_listing_le (by decide : guardedDisk.IsOrderly) lenient place
  exact absurd (hlength.trans (by decide)) (Nat.not_le.mpr hlt)

end TreeSieve.Snapshot
