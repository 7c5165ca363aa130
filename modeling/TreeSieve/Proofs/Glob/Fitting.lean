import Mathlib.Data.List.Infix
import TreeSieve.Glob
import TreeSieve.Proofs.Parts

/-!
# Proofs — Glob — Fitting

What a pattern for paths fits, said by the names of the path and without regular expressions.  A
pattern is taken apart into its components (`outline`); a component fits one name (`nameFits`), and
`**` any number of them (`namesFit`).  The components need not fit all the names of a path, as what
fits a folder fits everything below it (`fits`).

The reader of patterns takes them apart in the same way (`ofText_eq`).
-/

namespace TreeSieve.Glob

/-- The component that stands for any number of names. -/
def anyNames : Text := ['*', '*']

/-- Whether a component fits a name: a star stands for any run of characters and a question mark for
any one; other characters stand for themselves. -/
def nameFits : Text → Text → Bool
  | [], name => name.isEmpty
  | c :: cs, name =>
    if c = '*' then name.tails.any (nameFits cs)
    else match name with
      | [] => false
      | d :: ds => (c = '?' || c = d) && nameFits cs ds

/-- Whether components fit names, all of them. At the end, `**` stands for at least one name. -/
def namesFit : List Text → List Text → Bool
  | [], names => names.isEmpty
  | c :: cs, names =>
    if c = anyNames then
      if cs.isEmpty then !names.isEmpty else names.tails.any (namesFit cs)
    else match names with
      | [] => false
      | name :: names => nameFits c name && namesFit cs names

/-- Whether components fit names from the first one on, up to some name. -/
def fitsStart (cs names : List Text) : Bool := names.inits.any (namesFit cs)

/-- A pattern taken apart. -/
structure Outline where
  /-- Whether it may begin at any name of a path. -/
  floating : Bool
  components : List Text
  deriving DecidableEq, Repr

/-- A pattern without the slashes at its ends, and then without one `/**` at its end. -/
def body (t : Text) : Text :=
  let stripped := Text.dropAround (· == '/') t
  if Text.endsWith stripped "/**".toList then stripped.take (stripped.length - 3) else stripped

/-- The components of the body of a pattern. An empty one has none. -/
def components (t : Text) : List Text := if t.isEmpty then [] else Text.parts '/' t

/-- Takes a pattern apart. A slash at its start ties it to the root; else it floats when its body
begins with `**/`, which is left out, or has no slash. -/
def outline (t : Text) : Outline :=
  if t.head? = some '/' then ⟨false, components (body t)⟩
  else if "**/".toList.isPrefixOf (body t) then ⟨true, components ((body t).drop 3)⟩
  else ⟨!(body t).contains '/', components (body t)⟩

/-- Whether a pattern fits a path with these names: its components fit the names from the first one
on, or from any one on if it floats, up to some name. A pattern without components fits nothing. -/
def fits (t : Text) (names : List Text) : Bool :=
  let o := outline t
  !o.components.isEmpty &&
    (if o.floating then names.tails else [names]).any (fitsStart o.components)

theorem map_components {α : Type} (f : Text → α) (t : Text) :
    (components t).map f = if t.isEmpty then [] else (Text.parts '/' t).map f := by
  rw [components]
  split <;> rfl

/-- A pattern is read as its outline says. -/
theorem ofText_eq (t : Text) :
    ofText t = ⟨(outline t).floating, (outline t).components.map Segment.ofText⟩ := by
  unfold ofText outline
  extract_lets rooted stripped b deep inner
  have hb : body t = b := rfl
  rw [hb, ← map_components]
  split
  · next hroot =>
    have hdeep : deep = false := by simp [deep, rooted, hroot]
    simp [inner, hdeep, rooted, hroot]
  · next hroot =>
    split
    · next hprefix =>
      have hdeep : deep = true := by simp only [deep, rooted, hroot, hprefix]; rfl
      simp [inner, hdeep]
    · next hprefix =>
      have hdeep : deep = false := by simp only [deep, rooted, hroot, hprefix]; rfl
      simp [inner, hdeep, rooted, hroot]

/-! ### Components and names -/

variable {c name : Text} {cs names : List Text}

theorem fitsStart_iff : fitsStart cs names = true ↔ ∃ ns, ns <+: names ∧ namesFit cs ns = true := by
  simp only [fitsStart, List.any_eq_true, List.mem_inits]

theorem namesFit_nil (h : cs ≠ []) : namesFit cs [] = false := by
  induction cs with
  | nil => exact absurd rfl h
  | cons c cs ih =>
    rw [namesFit]
    split
    · cases cs with
      | nil => rfl
      | cons d ds => simpa using ih (List.cons_ne_nil d ds)
    · rfl

/-- Every component needs a name, or one behind it does. -/
theorem fitsStart_nil (h : cs ≠ []) : fitsStart cs [] = false := by
  simp [fitsStart, namesFit_nil h]

theorem ne_nil_of_fitsStart (h : cs ≠ []) (hfit : fitsStart cs names = true) : names ≠ [] := by
  rintro rfl
  rw [fitsStart_nil h] at hfit
  exact Bool.false_ne_true hfit

theorem fitsStart_of_nil (names : List Text) : fitsStart [] names = true :=
  fitsStart_iff.mpr ⟨[], List.nil_prefix, rfl⟩

/-- A component that is not `**` takes one name. -/
theorem fitsStart_cons (hc : c ≠ anyNames) :
    fitsStart (c :: cs) (name :: names) = true ↔
      nameFits c name = true ∧ fitsStart cs names = true := by
  simp only [fitsStart_iff]
  constructor
  · rintro ⟨ns, hns, h⟩
    cases ns with
    | nil =>
      rw [namesFit_nil (List.cons_ne_nil c cs)] at h
      exact absurd h Bool.false_ne_true
    | cons n ns =>
      simp only [namesFit, if_neg hc] at h
      obtain ⟨rfl, hpre⟩ := List.cons_prefix_cons.mp hns
      obtain ⟨hn, hfit⟩ := Bool.and_eq_true_iff.mp h
      exact ⟨hn, ns, hpre, hfit⟩
  · rintro ⟨hn, ns, hns, h⟩
    refine ⟨name :: ns, List.cons_prefix_cons.mpr ⟨rfl, hns⟩, ?_⟩
    simp only [namesFit, if_neg hc]
    exact Bool.and_eq_true_iff.mpr ⟨hn, h⟩

theorem fitsStart_anyNames_last (h : names ≠ []) : fitsStart [anyNames] names = true := by
  refine fitsStart_iff.mpr ⟨names, List.prefix_refl names, ?_⟩
  simpa [namesFit] using h

/-- In front of other components, `**` takes any number of names. -/
theorem fitsStart_anyNames (h : cs ≠ []) :
    fitsStart (anyNames :: cs) names = true ↔ ∃ ns, ns <:+ names ∧ fitsStart cs ns = true := by
  have hcs : cs.isEmpty = false := List.isEmpty_eq_false_iff.mpr h
  simp only [fitsStart_iff, namesFit, if_true, hcs, Bool.false_eq_true, if_false, List.any_eq_true,
    List.mem_tails]
  constructor
  · rintro ⟨pre, ⟨rest, rfl⟩, ns, ⟨skipped, rfl⟩, hfit⟩
    refine ⟨ns ++ rest, ⟨skipped, by rw [List.append_assoc]⟩, ns, List.prefix_append ns rest, hfit⟩
  · rintro ⟨_, ⟨skipped, rfl⟩, ns, ⟨rest, rfl⟩, hfit⟩
    exact ⟨skipped ++ ns, ⟨rest, by rw [List.append_assoc]⟩, ns, List.suffix_append skipped ns, hfit⟩

/-! ### The characters of a pattern -/

theorem body_subset (t : Text) : body t ⊆ t := by
  have hstripped : Text.dropAround (· == '/') t ⊆ t := by
    intro c hc
    have hc := (List.dropWhile_sublist _).subset (List.mem_reverse.mp hc)
    exact (List.dropWhile_sublist _).subset (List.mem_reverse.mp hc)
  rw [body]
  split
  · exact List.Subset.trans (List.take_subset _ _) hstripped
  · exact hstripped

theorem subset_of_mem_components {t : Text} (h : c ∈ components t) : c ⊆ t := by
  rw [components] at h
  split at h
  · exact absurd h List.not_mem_nil
  · exact Text.subset_of_mem_parts h

/-- The components of a pattern hold its characters only. -/
theorem subset_of_mem_outline {t : Text} (h : c ∈ (outline t).components) : c ⊆ t := by
  rw [outline] at h
  split at h
  · exact List.Subset.trans (subset_of_mem_components h) (body_subset t)
  · split at h
    · exact List.Subset.trans (subset_of_mem_components h)
        (List.Subset.trans (List.drop_subset _ _) (body_subset t))
    · exact List.Subset.trans (subset_of_mem_components h) (body_subset t)

theorem slash_not_mem_of_mem_components {t : Text} (h : c ∈ components t) : '/' ∉ c := by
  rw [components] at h
  split at h
  · exact absurd h List.not_mem_nil
  · exact Text.not_mem_of_mem_parts h

/-- A component of a pattern has no slash. -/
theorem slash_not_mem_of_mem_outline {t : Text} (h : c ∈ (outline t).components) : '/' ∉ c := by
  rw [outline] at h
  split at h
  · exact slash_not_mem_of_mem_components h
  · split at h <;> exact slash_not_mem_of_mem_components h

end TreeSieve.Glob
