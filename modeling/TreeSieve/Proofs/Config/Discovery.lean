import TreeSieve.Proofs.Config.Loading

/-!
# Proofs — Config — Discovery

Which file is taken when none is named.

The search goes past a candidate (`IsPassed`) that is not there, is no file, or holds bytes with an
expected fault: neither a document nor something that stops the reading.  It ends at the first other one.

* `isPassed_or_exists_first`: how a search along a list of files can end.
* `load_found`: what is loaded when no file is named, and when nothing is.
-/

namespace TreeSieve.Config

variable {s : Site} {path : Text} {paths before after : List Text} {bytes : List UInt8} {v : Value}
  {f : FileFault}

/-- The search goes past the path: one can tell whether it leads to something, and it leads to no file, or
to one that neither holds a document nor stops the reading. -/
def IsPassed (s : Site) (path : Text) : Prop :=
  (∀ p, s.disk.find s.here path = .error p → p.leavesOpen = false) ∧
    ∀ bytes, s.disk.find s.here path = .ok (.file bytes) →
      (∀ v, ¬ Holds bytes v) ∧ ∀ f, ¬ Stops bytes f

/-- A search goes past a path, or one cannot tell whether it leads to something, or there is a file that
holds a document or stops the reading. -/
theorem isPassed_or (s : Site) (path : Text) : IsPassed s path ∨
    (∃ p, s.disk.find s.here path = .error p ∧ p.leavesOpen = true) ∨
      ∃ bytes, s.disk.find s.here path = .ok (.file bytes) ∧
        ((∃ v, Holds bytes v) ∨ ∃ f, Stops bytes f) := by
  by_contra hno
  simp only [not_or, not_exists, not_and] at hno
  obtain ⟨hnot, hseen, hfile⟩ := hno
  exact hnot ⟨fun p hp => Bool.eq_false_iff.mpr (hseen p hp), hfile⟩

/-! ### Steps of a search -/

/-- A candidate that is passed over leaves the search to the others. -/
theorem discover_cons_of_isPassed (h : IsPassed s path) :
    discover s (path :: paths) = discover s paths := by
  rw [discover]
  cases hfind : s.disk.find s.here path with
  | error p =>
    rw [isThere_of_error hfind, if_neg (by simp [h.1 p hfind])]
    rfl
  | ok e =>
    rw [isThere_of_ok hfind]
    cases hfile : s.disk.hasFile s.here path with
    | false => rfl
    | true =>
      -- the document of the file, if it is one, has a fault that is expected
      have hfault : ∃ f, readDocument s path = .error f ∧ f.expected = true := by
        by_cases he : ∃ bytes, e = .file bytes
        · obtain ⟨bytes, rfl⟩ := he
          obtain ⟨hholds, hstops⟩ := h.2 bytes hfind
          cases hread : readDocument s path with
          | ok v => exact absurd ((readDocument_ok_iff hfind).mp hread) (hholds v)
          | error f =>
            refine ⟨f, rfl, ?_⟩
            by_contra hf
            exact hstops f ((readDocument_unexpected hfind).mp ⟨hread, Bool.eq_false_iff.mpr hf⟩)
        · rw [not_exists] at he
          obtain ⟨p, hp⟩ := readDocument_of_not_file hfind he
          exact ⟨_, hp, rfl⟩
      obtain ⟨f, hread, hf⟩ := hfault
      simp [bind, Except.bind, hread, hf]

/-- A candidate of which it cannot be told whether it is there ends the search. -/
theorem discover_cons_of_unseen {p : DiskProblem} (hfind : s.disk.find s.here path = .error p)
    (h : p.leavesOpen = true) : discover s (path :: paths) = .error (.unseen path p) := by
  rw [discover, isThere_of_error hfind, if_pos h]
  rfl

/-- A candidate that holds a document is taken. -/
theorem discover_cons_of_holds (hfind : s.disk.find s.here path = .ok (.file bytes))
    (h : Holds bytes v) : discover s (path :: paths) = .ok (some (path, v)) := by
  rw [discover, isThere_of_ok hfind, hasFile_of_find hfind, (readDocument_ok_iff hfind).mpr h]
  rfl

/-- A candidate that stops the reading ends the search. -/
theorem discover_cons_of_stops (hfind : s.disk.find s.here path = .ok (.file bytes))
    (h : Stops bytes f) : discover s (path :: paths) = .error f := by
  obtain ⟨hread, hf⟩ := (readDocument_unexpected hfind).mpr h
  rw [discover, isThere_of_ok hfind, hasFile_of_find hfind, hread]
  simp [bind, Except.bind, hf, throw, throwThe, MonadExceptOf.throw]

/-! ### Searches -/

/-- The search begins behind all that is passed over. -/
theorem discover_append (h : ∀ q ∈ before, IsPassed s q) :
    discover s (before ++ paths) = discover s paths := by
  induction before with
  | nil => rfl
  | cons q before ih =>
    obtain ⟨hq, h⟩ := List.forall_mem_cons.mp h
    rw [List.cons_append, discover_cons_of_isPassed hq, ih h]

theorem discover_of_isPassed (h : ∀ q ∈ paths, IsPassed s q) : discover s paths = .ok none := by
  have hnil : discover s (paths ++ []) = discover s [] := discover_append h
  rwa [List.append_nil] at hnil

/-- **Searches.**  A search goes past every path, or it ends at the first that it does not go past. -/
theorem isPassed_or_exists_first (s : Site) (paths : List Text) :
    (∀ q ∈ paths, IsPassed s q) ∨ ∃ before path after, paths = before ++ path :: after ∧
      (∀ q ∈ before, IsPassed s q) ∧
      ((∃ p, s.disk.find s.here path = .error p ∧ p.leavesOpen = true) ∨
        ∃ bytes, s.disk.find s.here path = .ok (.file bytes) ∧
          ((∃ v, Holds bytes v) ∨ ∃ f, Stops bytes f)) := by
  induction paths with
  | nil => exact .inl fun q hq => absurd hq List.not_mem_nil
  | cons q paths ih =>
    rcases isPassed_or s q with hq | hends
    · rcases ih with h | ⟨before, path, after, rfl, h, hends⟩
      · exact .inl (List.forall_mem_cons.mpr ⟨hq, h⟩)
      · exact .inr ⟨q :: before, path, after, rfl, List.forall_mem_cons.mpr ⟨hq, h⟩, hends⟩
    · exact .inr ⟨[], q, paths, rfl, fun q hq => absurd hq List.not_mem_nil, hends⟩

/-! ### Loading -/

/-- The configuration when no file is found. -/
def loadedNowhere : Loaded :=
  ⟨default, default.warnings ++ ["No configuration file found, using default settings".toList], none⟩

/-- Loading without a path takes what the search finds, or the default. -/
theorem load_unnamed (s : Site) : load s false none =
    (discover s (candidates s)).bind fun
      | some (path, v) => loadedFrom path v
      | none => .ok loadedNowhere := by
  unfold load
  cases discover s (candidates s) with
  | error f => rfl
  | ok found? =>
    rcases found? with _ | ⟨path, v⟩
    · rfl
    · simp only [bind, Except.bind, loadedFrom]
      cases checkSections v with
      | error g => rfl
      | ok c => simp [Except.mapError, Except.map, pure, Except.pure]

/-- **Discovery.**  When no file is named, the first candidate behind others that are passed over is
taken if it holds a document, whatever stands behind it; the loading fails if this candidate stops the
reading, or if it cannot be told whether there is a file; and when all candidates are passed over, the
configuration is the default one.  There is no other case, and in the last one alone nothing but the
default configuration is loaded. -/
theorem load_found (s : Site) :
    (∀ before path after bytes v, candidates s = before ++ path :: after →
      (∀ q ∈ before, IsPassed s q) → s.disk.find s.here path = .ok (.file bytes) → Holds bytes v →
      load s false none = loadedFrom path v) ∧
    (∀ before path after bytes f, candidates s = before ++ path :: after →
      (∀ q ∈ before, IsPassed s q) → s.disk.find s.here path = .ok (.file bytes) → Stops bytes f →
      load s false none = .error f) ∧
    (∀ before path after p, candidates s = before ++ path :: after →
      (∀ q ∈ before, IsPassed s q) → s.disk.find s.here path = .error p → p.leavesOpen = true →
      load s false none = .error (.unseen path p)) ∧
    ((∀ q ∈ candidates s, IsPassed s q) → load s false none = .ok loadedNowhere) ∧
    ((∀ q ∈ candidates s, IsPassed s q) ∨
      ∃ before path after, candidates s = before ++ path :: after ∧
        (∀ q ∈ before, IsPassed s q) ∧
        ((∃ p, s.disk.find s.here path = .error p ∧ p.leavesOpen = true) ∨
          ∃ bytes, s.disk.find s.here path = .ok (.file bytes) ∧
            ((∃ v, Holds bytes v) ∨ ∃ f, Stops bytes f))) ∧
    ((∃ l, load s false none = .ok l ∧ l.isDefault = true) ↔
      ∀ q ∈ candidates s, IsPassed s q) := by
  have hholds : ∀ before path after bytes v, candidates s = before ++ path :: after →
      (∀ q ∈ before, IsPassed s q) → s.disk.find s.here path = .ok (.file bytes) →
      Holds bytes v → load s false none = loadedFrom path v := by
    intro before path after bytes v hsplit hpassed hfind hv
    rw [load_unnamed, hsplit, discover_append hpassed, discover_cons_of_holds hfind hv]
    rfl
  have hstops : ∀ before path after bytes f, candidates s = before ++ path :: after →
      (∀ q ∈ before, IsPassed s q) → s.disk.find s.here path = .ok (.file bytes) →
      Stops bytes f → load s false none = .error f := by
    intro before path after bytes f hsplit hpassed hfind hf
    rw [load_unnamed, hsplit, discover_append hpassed, discover_cons_of_stops hfind hf]
    rfl
  have hunseen : ∀ before path after p, candidates s = before ++ path :: after →
      (∀ q ∈ before, IsPassed s q) → s.disk.find s.here path = .error p → p.leavesOpen = true →
      load s false none = .error (.unseen path p) := by
    intro before path after p hsplit hpassed hfind hp
    rw [load_unnamed, hsplit, discover_append hpassed, discover_cons_of_unseen hfind hp]
    rfl
  have hnone (h : ∀ q ∈ candidates s, IsPassed s q) :
      load s false none = .ok loadedNowhere := by
    rw [load_unnamed, discover_of_isPassed h]
    rfl
  have hcases := isPassed_or_exists_first s (candidates s)
  refine ⟨hholds, hstops, hunseen, hnone, hcases, fun ⟨l, hl, hdefault⟩ => ?_,
    fun h => ⟨_, hnone h, rfl⟩⟩
  rcases hcases with h | ⟨before, path, after, hsplit, hpassed, ⟨p, hfind, hp⟩ |
    ⟨bytes, hfind, ⟨v, hv⟩ | ⟨f, hf⟩⟩⟩
  · exact h
  · rw [hunseen _ _ _ _ hsplit hpassed hfind hp] at hl
    cases hl
  · -- what comes from a file is no default
    rw [hholds _ _ _ _ v hsplit hpassed hfind hv, loadedFrom] at hl
    cases hc : (checkSections v).mapError FileFault.sections with
    | error g => simp [hc, Except.map] at hl
    | ok c =>
      rw [hc] at hl
      cases hl
      cases hdefault
  · rw [hstops _ _ _ _ f hsplit hpassed hfind hf] at hl
    cases hl

/-- A disk with a candidate whose only byte no character has. -/
def undecodableCandidate : Site where
  disk := [(["here".toList], .folder), (["here".toList, ".treefilter.yaml".toList], .file [0xFF])]
  here := ["here".toList]
  home := ["home".toList]

/-- A candidate that is no text makes the loading fail. -/
theorem load_undecodableCandidate :
    load undecodableCandidate false none = .error (.undecodable ⟨0, 1, 0xFF, .badStart⟩) := by
  cbv

end TreeSieve.Config
