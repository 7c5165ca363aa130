import TreeSieve.Text.Blank

/-!
# Path

Item paths: names joined by `/`.  `normalize` brings a path into the form that items carry, and
`parent` leads from a path to the folder around it, up to the root path `/`.

Every text has a parent, and `parent` is the root or a shorter text (`parent_eq_root_or_length_lt`),
so the walk upwards from any text ends at the root.
-/

namespace TreeSieve

namespace Path

/-- The path of the root folder. -/
def root : Text := ['/']

/-- The path of the folder around: the text before the last `/`, or the root when there is no such
text. -/
def parent (p : Text) : Text :=
  match Text.cutLast? '/' p with
  | some (before, _) => if before.isEmpty then root else before
  | none => root

/-- The last name of a path: the text behind the last `/`. -/
def lastName (p : Text) : Text :=
  match Text.cutLast? '/' p with
  | some (_, name) => name
  | none => p

/-- A path with `/` for each backslash, no blanks around it and no `/` at its end; a path of
slashes alone is the root. -/
def normalize (p : Text) : Text :=
  let q := (Text.trim p).map fun c => if c = '\\' then '/' else c
  if q.isEmpty || q = root then q
  else
    let r := Text.dropEndWhile (· == '/') q
    if r.isEmpty then root else r

/-- The components of a path: its names but empty ones and `.`. -/
def components (p : Text) : List Text :=
  (Text.parts '/' p).filter fun name => !name.isEmpty && name ≠ ['.']

/-- A path in its shortest spelling, with `.` for the place itself; two slashes at the start are kept,
other numbers of them become one. -/
def tidy (p : Text) : Text :=
  let start : Text := match p with
    | '/' :: '/' :: '/' :: _ => root
    | '/' :: '/' :: _ => ['/', '/']
    | '/' :: _ => root
    | _ => []
  let body := Text.join root (components p)
  if start.isEmpty && body.isEmpty then ['.'] else start ++ body

/-- A path as seen from the root: in its shortest spelling, without slashes at the start. -/
def relative (p : Text) : Text := (tidy p).dropWhile (· == '/')

/-- The path without its last component, in its shortest spelling. -/
def around (p : Text) : Text :=
  let body := Text.join root (components p).dropLast
  match tidy p with
  | '/' :: '/' :: _ => '/' :: '/' :: body
  | '/' :: _ => '/' :: body
  | _ => if body.isEmpty then ['.'] else body

/-- The extension of the last component, with its point: what follows the last point, if something
follows and something stands before. -/
def extension (p : Text) : Text :=
  match (components p).getLast? with
  | none => []
  | some name =>
    match Text.cutLast? '.' name with
    | some (_ :: _, c :: cs) => '.' :: c :: cs
    | _ => []

theorem cut?_length {sep : Char} {t a b : Text} (h : Text.cut? sep t = some (a, b)) :
    t.length = a.length + b.length + 1 := by
  induction t generalizing a b with
  | nil => simp [Text.cut?] at h
  | cons c cs ih =>
    simp only [Text.cut?] at h
    split at h
    · cases h; simp
    · obtain ⟨⟨a', b'⟩, hab, h'⟩ := Option.map_eq_some_iff.1 h
      cases h'
      have := ih hab
      simp only [List.length_cons]; omega

theorem cutLast?_length {sep : Char} {t a b : Text} (h : Text.cutLast? sep t = some (a, b)) :
    t.length = a.length + b.length + 1 := by
  obtain ⟨⟨a', b'⟩, hab, h'⟩ := Option.map_eq_some_iff.1 h
  cases h'
  have := cut?_length hab
  simp only [List.length_reverse] at this ⊢; omega

/-- The parent is the root or a shorter text. -/
theorem parent_eq_root_or_length_lt (p : Text) :
    parent p = root ∨ (parent p).length < p.length := by
  simp only [parent]
  split
  · next before name h =>
    split
    · exact .inl rfl
    · have := cutLast?_length h
      exact .inr (by omega)
  · exact .inl rfl

end Path

/-- A tag without blanks around it and without one leading `#`. -/
def Tag.normalize (t : Text) : Text :=
  match Text.trim t with
  | '#' :: rest => rest
  | s => s

end TreeSieve
