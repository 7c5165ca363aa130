import TreeSieve.Path

/-!
# Proofs — Parts

Texts and their parts between separators.  A text is known by its first part and by what stands
behind it (`Text.parts_eq_cons`); the ends of the list of parts are the lists of parts of what stands
behind a separator (`Text.suffix_parts`).

* `Path.ne_nil_of_mem_parts_relative`: no part of a relative path is empty, unless the path is.
-/

namespace TreeSieve

namespace Text

variable {sep : Char} {a b t p : Text} {ps cs : List Text}

/-- There is always one part at least. -/
theorem parts_ne_nil (sep : Char) (t : Text) : parts sep t ≠ [] := by
  cases t with
  | nil => exact List.cons_ne_nil _ _
  | cons c t =>
    rw [parts]
    split
    · exact List.cons_ne_nil _ _
    · split <;> exact List.cons_ne_nil _ _

theorem parts_cons_self (sep : Char) (t : Text) : parts sep (sep :: t) = [] :: parts sep t := by
  rw [parts, if_pos rfl]

/-- A character that is no separator goes to the first part. -/
theorem parts_cons {c : Char} (hc : c ≠ sep) (h : parts sep t = p :: ps) :
    parts sep (c :: t) = (c :: p) :: ps := by
  rw [parts, if_neg hc, h]

/-- Without a separator the text is its only part. -/
theorem parts_of_not_mem (h : sep ∉ t) : parts sep t = [t] := by
  induction t with
  | nil => rfl
  | cons c t ih =>
    obtain ⟨hc, ht⟩ := List.ne_and_not_mem_of_not_mem_cons h
    exact parts_cons hc.symm (ih ht)

/-- The part before the first separator is the first part. -/
theorem parts_append (h : sep ∉ a) (b : Text) : parts sep (a ++ sep :: b) = a :: parts sep b := by
  induction a with
  | nil => exact parts_cons_self sep b
  | cons c a ih =>
    obtain ⟨hc, ha⟩ := List.ne_and_not_mem_of_not_mem_cons h
    exact parts_cons hc.symm (ih ha)

/-- The first part goes to the end of the text, or up to a separator. -/
theorem parts_eq_cons (h : parts sep t = p :: ps) :
    sep ∉ p ∧ (t = p ∧ ps = [] ∨ ∃ b, t = p ++ sep :: b ∧ ps = parts sep b) := by
  induction t generalizing p with
  | nil =>
    cases h
    exact ⟨List.not_mem_nil, .inl ⟨rfl, rfl⟩⟩
  | cons c t ih =>
    by_cases hc : c = sep
    · subst hc
      rw [parts_cons_self] at h
      cases h
      exact ⟨List.not_mem_nil, .inr ⟨t, rfl, rfl⟩⟩
    · obtain ⟨q, qs, hq⟩ := List.exists_cons_of_ne_nil (parts_ne_nil sep t)
      rw [parts_cons hc hq] at h
      cases h
      obtain ⟨hsep, h⟩ := ih hq
      refine ⟨fun hm => (List.mem_cons.mp hm).elim (hc ·.symm) hsep, ?_⟩
      rcases h with ⟨rfl, rfl⟩ | ⟨b, rfl, rfl⟩
      · exact .inl ⟨rfl, rfl⟩
      · exact .inr ⟨b, rfl, rfl⟩

/-- Induction along the parts of a text. -/
@[elab_as_elim]
theorem byParts {motive : Text → Prop} (sep : Char) (last : ∀ a, sep ∉ a → motive a)
    (more : ∀ a b, sep ∉ a → motive b → motive (a ++ sep :: b)) (t : Text) : motive t := by
  obtain ⟨p, ps, hp⟩ := List.exists_cons_of_ne_nil (parts_ne_nil sep t)
  obtain ⟨hsep, ⟨rfl, -⟩ | ⟨b, rfl, -⟩⟩ := parts_eq_cons hp
  · exact last _ hsep
  · exact more p b hsep (byParts sep last more b)
termination_by t.length
decreasing_by
  subst_vars
  simp only [List.length_append, List.length_cons]
  omega

/-- No part has a separator. -/
theorem not_mem_of_mem_parts (h : p ∈ parts sep t) : sep ∉ p := by
  induction t using byParts sep with
  | last a ha =>
    rw [parts_of_not_mem ha] at h
    rwa [List.mem_singleton.mp h]
  | more a b ha ih =>
    rw [parts_append ha] at h
    rcases List.mem_cons.mp h with rfl | h
    · exact ha
    · exact ih h

theorem subset_of_mem_parts (h : p ∈ parts sep t) : p ⊆ t := by
  induction t using byParts sep with
  | last a ha =>
    rw [parts_of_not_mem ha] at h
    rw [List.mem_singleton.mp h]
    exact List.Subset.refl a
  | more a b ha ih =>
    rw [parts_append ha] at h
    rcases List.mem_cons.mp h with rfl | h
    · exact List.subset_append_left _ _
    · exact fun c hc => List.mem_append_right a (List.mem_cons_of_mem sep (ih h hc))

/-- What stands behind a separator has fewer parts, the last ones. -/
theorem suffix_tail_parts (x b : Text) : parts sep b <:+ (parts sep (x ++ sep :: b)).tail := by
  induction x with
  | nil =>
    simpa only [List.nil_append, parts_cons_self, List.tail_cons] using List.suffix_refl _
  | cons c x ih =>
    by_cases hc : c = sep
    · subst hc
      rw [List.cons_append, parts_cons_self, List.tail_cons]
      exact ih.trans (List.tail_suffix _)
    · obtain ⟨q, qs, hq⟩ := List.exists_cons_of_ne_nil (parts_ne_nil sep (x ++ sep :: b))
      rw [List.cons_append, parts_cons hc hq, List.tail_cons]
      rwa [hq, List.tail_cons] at ih

/-- The ends of the list of parts, but for the empty one, are the parts of what stands behind the
start of the text or behind a separator. The text before is given backwards. -/
theorem suffix_parts (hcs : cs ≠ []) :
    cs <:+ parts sep t ↔
      ∃ a b, t = a.reverse ++ b ∧ (a = [] ∨ a.head? = some sep) ∧ cs = parts sep b := by
  constructor
  · intro h
    induction t using byParts sep with
    | last a ha =>
      rw [parts_of_not_mem ha, List.suffix_cons_iff] at h
      rcases h with rfl | h
      · exact ⟨[], a, rfl, .inl rfl, (parts_of_not_mem ha).symm⟩
      · exact absurd (List.suffix_nil.mp h) hcs
    | more a b ha ih =>
      rw [parts_append ha, List.suffix_cons_iff] at h
      rcases h with rfl | h
      · exact ⟨[], a ++ sep :: b, rfl, .inl rfl, (parts_append ha b).symm⟩
      · obtain ⟨a', b', rfl, ha', rfl⟩ := ih h
        refine ⟨a' ++ sep :: a.reverse, b', by simp, .inr ?_, rfl⟩
        rcases ha' with rfl | ha'
        · rfl
        · rw [List.head?_append, ha', Option.some_or]
  · rintro ⟨a, b, rfl, rfl | ha, rfl⟩
    · exact List.suffix_refl _
    · obtain ⟨c, a, rfl⟩ := List.exists_cons_of_ne_nil (fun h : a = [] => by simp [h] at ha)
      obtain rfl := Option.some.inj ha
      rw [List.reverse_cons, List.append_assoc]
      exact (suffix_tail_parts a.reverse b).trans (List.tail_suffix _)

/-- **Parts put together** are the parts again. -/
theorem parts_join {ts : List Text} (hne : ts ≠ []) (h : ∀ t ∈ ts, sep ∉ t) :
    parts sep (join [sep] ts) = ts := by
  induction ts with
  | nil => exact absurd rfl hne
  | cons t ts ih =>
    have ht := h t List.mem_cons_self
    cases ts with
    | nil => exact parts_of_not_mem ht
    | cons u ts =>
      rw [join, List.append_assoc, List.singleton_append, parts_append ht,
        ih (List.cons_ne_nil u ts) fun v hv => h v (List.mem_cons_of_mem t hv)]

/-- The parts of two texts with a separator between them. -/
theorem parts_append_cons (a b : Text) : parts sep (a ++ sep :: b) = parts sep a ++ parts sep b := by
  induction a using byParts sep with
  | last a ha => rw [parts_append ha, parts_of_not_mem ha, List.singleton_append]
  | more a a' ha ih =>
    rw [List.append_assoc, List.cons_append, parts_append ha, ih, parts_append ha, List.cons_append]

/-- Two lists are put together with a separator between them. -/
theorem join_append {ts us : List Text} (hts : ts ≠ []) (hus : us ≠ []) :
    join [sep] (ts ++ us) = join [sep] ts ++ sep :: join [sep] us := by
  induction ts with
  | nil => exact absurd rfl hts
  | cons t ts ih =>
    cases ts with
    | nil =>
      obtain ⟨u, us, rfl⟩ := List.exists_cons_of_ne_nil hus
      simp only [List.singleton_append, join, List.append_assoc]
    | cons t' ts =>
      simp only [List.cons_append, join, List.append_assoc] at ih ⊢
      rw [ih (List.cons_ne_nil t' ts)]

/-- What is put behind the last text stands behind all. -/
theorem join_concat_append (ts : List Text) (a b : Text) :
    join [sep] (ts ++ [a ++ b]) = join [sep] (ts ++ [a]) ++ b := by
  by_cases hts : ts = []
  · rw [hts]
    rfl
  · rw [join_append hts (List.cons_ne_nil _ _), join_append hts (List.cons_ne_nil _ _),
      List.append_assoc]
    rfl

theorem mem_join {c : Char} {ts : List Text} (h : c ∈ join [sep] ts) :
    c = sep ∨ ∃ t ∈ ts, c ∈ t := by
  induction ts with
  | nil => cases h
  | cons t ts ih =>
    cases ts with
    | nil => exact .inr ⟨t, List.mem_cons_self, h⟩
    | cons u ts =>
      rw [join, List.append_assoc] at h
      rcases List.mem_append.mp h with h | h
      · exact .inr ⟨t, List.mem_cons_self, h⟩
      · rcases List.mem_cons.mp h with h | h
        · exact .inl h
        · exact (ih h).imp_right fun ⟨v, hv, hc⟩ => ⟨v, List.mem_cons_of_mem t hv, hc⟩

/-- Texts that are not empty have no separator in front when they are joined. -/
theorem head?_join_ne {ts : List Text} (hne : ∀ t ∈ ts, t ≠ []) (h : ∀ t ∈ ts, sep ∉ t) :
    (join [sep] ts).head? ≠ some sep := by
  cases ts with
  | nil => exact nofun
  | cons t ts =>
    obtain ⟨c, cs, rfl⟩ := List.exists_cons_of_ne_nil (hne t List.mem_cons_self)
    have hc := (List.ne_and_not_mem_of_not_mem_cons (h _ List.mem_cons_self)).1
    cases ts <;> exact fun heq => hc (Option.some.inj heq).symm

/-- Nor have they one behind. -/
theorem getLast?_join_ne {ts : List Text} (hne : ∀ t ∈ ts, t ≠ []) (h : ∀ t ∈ ts, sep ∉ t) :
    (join [sep] ts).getLast? ≠ some sep := by
  induction ts with
  | nil => exact nofun
  | cons t ts ih =>
    obtain ⟨-, htail⟩ := List.forall_mem_cons.mp hne
    obtain ⟨ht, hts⟩ := List.forall_mem_cons.mp h
    cases ts with
    | nil => exact fun hlast => ht (List.mem_of_getLast? hlast)
    | cons u us =>
      have hjoin : join [sep] (u :: us) ≠ [] := by
        have hu := htail u List.mem_cons_self
        cases us <;> simp [join, hu]
      rw [join, List.append_assoc, List.singleton_append, List.getLast?_append,
        List.getLast?_cons_of_ne_nil hjoin]
      intro hlast
      rcases Option.or_eq_some_iff.mp hlast with hlast | ⟨hnil, -⟩
      · exact ih htail hts hlast
      · exact hjoin (List.getLast?_eq_none_iff.mp hnil)

theorem cut?_of_not_mem (h : sep ∉ t) : cut? sep t = none := by
  induction t with
  | nil => rfl
  | cons c t ih =>
    obtain ⟨hc, ht⟩ := List.ne_and_not_mem_of_not_mem_cons h
    rw [cut?, if_neg hc.symm, ih ht, Option.map_none]

/-- A text is cut at its first separator. -/
theorem cut?_append (h : sep ∉ a) (b : Text) : cut? sep (a ++ sep :: b) = some (a, b) := by
  induction a with
  | nil => rw [List.nil_append, cut?, if_pos rfl]
  | cons c a ih =>
    obtain ⟨hc, ha⟩ := List.ne_and_not_mem_of_not_mem_cons h
    rw [List.cons_append, cut?, if_neg hc.symm, ih ha, Option.map_some]

/-- What is cut is the text, and the first half has no separator. -/
theorem cut?_eq_some (h : cut? sep t = some (a, b)) : t = a ++ sep :: b ∧ sep ∉ a := by
  induction t generalizing a b with
  | nil => cases h
  | cons c t ih =>
    rw [cut?] at h
    split at h
    · next hc =>
      cases h
      exact ⟨hc ▸ rfl, List.not_mem_nil⟩
    · next hc =>
      obtain ⟨⟨a', b'⟩, hcut, heq⟩ := Option.map_eq_some_iff.mp h
      cases heq
      obtain ⟨rfl, ha⟩ := ih hcut
      exact ⟨rfl, fun hm => (List.mem_cons.mp hm).elim (fun h => hc h.symm) ha⟩

theorem not_mem_of_cut?_eq_none (h : cut? sep t = none) : sep ∉ t := by
  intro hmem
  obtain ⟨x, y, rfl, hx⟩ := List.eq_append_cons_of_mem hmem
  rw [cut?_append hx] at h
  cases h

theorem cutLast?_of_not_mem (h : sep ∉ t) : cutLast? sep t = none := by
  rw [cutLast?, cut?_of_not_mem (by rwa [List.mem_reverse]), Option.map_none]

/-- A text is cut at its last separator. -/
theorem cutLast?_append (a : Text) (h : sep ∉ b) : cutLast? sep (a ++ sep :: b) = some (a, b) := by
  have hreverse : (a ++ sep :: b).reverse = b.reverse ++ sep :: a.reverse := by simp
  rw [cutLast?, hreverse, cut?_append (by rwa [List.mem_reverse]), Option.map_some]
  simp only [List.reverse_reverse]

end Text

namespace Path

variable {p name : Text}

/-- A component is not empty. -/
theorem ne_nil_of_mem_components (h : name ∈ components p) : name ≠ [] := by
  have := (List.mem_filter.mp h).2
  rintro rfl
  simp at this

theorem slash_not_mem_of_mem_components (h : name ∈ components p) : '/' ∉ name :=
  Text.not_mem_of_mem_parts (List.mem_filter.mp h).1

/-- The components of a path are the parts of its tidy form. -/
theorem parts_join_components (h : components p ≠ []) :
    Text.parts '/' (Text.join root (components p)) = components p :=
  Text.parts_join h fun _ => slash_not_mem_of_mem_components

theorem dropWhile_join_components (p : Text) :
    (Text.join root (components p)).dropWhile (· == '/') = Text.join root (components p) := by
  have hhead : (Text.join root (components p)).head? ≠ some '/' :=
    Text.head?_join_ne (fun _ => ne_nil_of_mem_components) fun _ => slash_not_mem_of_mem_components
  match ht : Text.join root (components p) with
  | [] => rfl
  | c :: t =>
    rw [ht] at hhead
    refine List.dropWhile_cons_of_neg fun hc => hhead ?_
    rw [List.head?_cons, beq_iff_eq.mp hc]

theorem join_components_ne_nil (h : components p ≠ []) : Text.join root (components p) ≠ [] := by
  intro hnil
  have hparts := parts_join_components h
  rw [hnil] at hparts
  have hmem : ([] : Text) ∈ components p := hparts ▸ List.mem_singleton_self []
  exact ne_nil_of_mem_components hmem rfl

/-- A relative path is the place itself, if the path has no components, or these. -/
theorem relative_eq (p : Text) :
    components p = [] ∧ relative p = ['.'] ∨ relative p = Text.join root (components p) := by
  have hjoin := dropWhile_join_components p
  unfold relative tidy
  extract_lets start body
  have hstart : start = root ∨ start = ['/', '/'] ∨ start = [] := by
    simp only [start]
    split <;> simp
  rcases hstart with hs | hs | hs
  · rw [hs]
    exact .inr hjoin
  · rw [hs]
    exact .inr hjoin
  · rw [hs]
    split
    · next hempty =>
      refine .inl ⟨Decidable.byContradiction fun h => join_components_ne_nil h ?_, rfl⟩
      exact List.isEmpty_iff.mp hempty
    · exact .inr hjoin

/-- A relative path is its components with slashes between. -/
theorem relative_of_ne_nil (h : components p ≠ []) : relative p = Text.join root (components p) :=
  (relative_eq p).resolve_left fun hp => h hp.1

/-- The components of a path behind another. -/
theorem components_append (p q : Text) :
    components (p ++ '/' :: q) = components p ++ components q := by
  rw [components, Text.parts_append_cons, List.filter_append]
  rfl

/-- A path below another is relative to the same start. -/
theorem relative_append {q : Text} (hp : components p ≠ []) (hq : components q ≠ []) :
    relative (p ++ '/' :: q) = relative p ++ '/' :: relative q := by
  have hpq : components (p ++ '/' :: q) ≠ [] := by
    rw [components_append]
    exact List.append_ne_nil_of_left_ne_nil hp _
  rw [relative_of_ne_nil hpq, relative_of_ne_nil hp, relative_of_ne_nil hq, components_append]
  exact Text.join_append hp hq

/-- No part of a relative path is empty, unless the path is. -/
theorem ne_nil_of_mem_parts_relative (hp : relative p ≠ [])
    (h : name ∈ Text.parts '/' (relative p)) : name ≠ [] := by
  rcases relative_eq p with ⟨-, he⟩ | he
  · rw [he] at h
    obtain rfl : name = ['.'] := List.mem_singleton.mp h
    exact List.cons_ne_nil _ _
  · have hne : components p ≠ [] := by
      rintro hnil
      rw [hnil] at he
      exact hp he
    rw [he, parts_join_components hne] at h
    exact ne_nil_of_mem_components h

end Path

end TreeSieve
