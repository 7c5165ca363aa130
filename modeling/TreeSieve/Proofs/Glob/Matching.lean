import TreeSieve.Proofs.Glob.Reading
import TreeSieve.Proofs.Parts
import TreeSieve.Proofs.Regex.Matching

/-!
# Proofs — Glob — Matching

A pattern for paths finds what it fits.  Its regular expression is searched in the whole path, as one
text; that this comes to the same as fitting components to names rests on two facts: an expression
for a name never crosses a slash, and the expression behind the components only goes on at the end of
a name (`AtEdge`).

* `along_components`: from a place on, components are found up to an edge when they fit the names
  there.
* `read_and_finds`: a pattern without sets is found in a path when it fits its names.
-/

namespace TreeSieve.Glob

open Regex (Node Place Rounds)

/-- The expression of parts takes the text between two places. -/
def Along (ps : List Regex.Part) (p q : Place) : Prop :=
  (Node.sequence (ps.map Regex.Part.node)).Leads {} p q

/-- The place is the end of a name: the end of the path, or in front of a slash. -/
def AtEdge (p : Place) : Prop := p.after = [] ∨ p.after.head? = some '/'

variable {p o q : Place} {ps qs : List Regex.Part} {part : Regex.Part}

theorem along_nil : Along [] p q ↔ q = p := Iff.rfl

theorem along_cons : Along (part :: ps) p q ↔ ∃ o, part.node.Leads {} p o ∧ Along ps o q :=
  Node.leads_sequence

theorem along_append : Along (ps ++ qs) p q ↔ ∃ o, Along ps p o ∧ Along qs o q := by
  simp only [Along, List.map_append, Node.leads_sequence_append]

theorem along_singleton : Along [part] p q ↔ part.node.Leads {} p q := by
  simp [along_cons, along_nil]

/-! ### Names -/

theorem leads_literal (c : Char) : (Node.literal c.toNat).Leads {} p q ↔ p.Takes [c] q := by
  change (Regex.CharTest.literal .exact false c.toNat).Reads p q ↔ _
  simp only [Regex.CharTest.reads_iff, Regex.CharTest.passes_literal, Char.toNat_inj, exists_eq_left]

/-- The test of an expression for a character other than a slash. -/
def slashTest : Regex.CharTest := .literal .exact true 47

theorem passes_slashTest {c : Char} : slashTest.passes c = true ↔ c ≠ '/' :=
  Regex.CharTest.passes_notLiteral.trans (not_congr (Char.toNat_inj (c := c) (d := '/')))

theorem leads_noSlash : noSlash.Leads {} p q ↔ ∃ c, c ≠ '/' ∧ p.Takes [c] q := by
  change slashTest.Reads p q ↔ _
  simp only [Regex.CharTest.reads_iff, passes_slashTest]

theorem leads_rounds_noSlash {least : Nat} :
    (Node.rounds least none .greedy noSlash).Leads {} p q ↔
      ∃ xs, least ≤ xs.length ∧ '/' ∉ xs ∧ p.Takes xs q := by
  have hall : ∀ xs : Text, (∀ x ∈ xs, slashTest.passes x = true) ↔ '/' ∉ xs := by
    intro xs
    simp only [passes_slashTest]
    exact ⟨fun h hm => h _ hm rfl, fun h x hx hxs => h (hxs ▸ hx)⟩
  simp only [Node.leads_rounds_of_test (show noSlash.Leads {} = slashTest.Reads from rfl), hall]

theorem leads_star : (namePart '*').node.Leads {} p q ↔ ∃ xs, '/' ∉ xs ∧ p.Takes xs q := by
  change (Node.rounds 0 none .greedy noSlash).Leads {} p q ↔ _
  simp only [leads_rounds_noSlash, Nat.zero_le, true_and]

/-- Any other character of a component takes one: any but a slash, or itself. -/
theorem leads_one {c : Char} (hstar : c ≠ '*') (hslash : c ≠ '/') :
    (namePart c).node.Leads {} p q ↔ ∃ d, d ≠ '/' ∧ (c = '?' ∨ c = d) ∧ p.Takes [d] q := by
  simp only [namePart, if_neg hstar]
  split
  · next hany => simp only [Regex.Part.node, leads_noSlash, hany, true_or, true_and]
  · next hany =>
    simp only [Regex.Part.node, leads_literal, hany, false_or]
    constructor
    · exact fun h => ⟨c, hslash, rfl, h⟩
    · rintro ⟨d, -, rfl, h⟩
      exact h

/-- The characters of a component take a text without a slash that the component fits. -/
theorem along_name {t : Text} (ht : '/' ∉ t) :
    Along (t.map namePart) p q ↔ ∃ xs, '/' ∉ xs ∧ nameFits t xs = true ∧ p.Takes xs q := by
  induction t generalizing p with
  | nil =>
    rw [List.map_nil, along_nil]
    constructor
    · rintro rfl
      exact ⟨[], List.not_mem_nil, rfl, .refl q⟩
    · rintro ⟨xs, -, hxs, h⟩
      obtain rfl := List.isEmpty_iff.mp hxs
      exact Place.takes_nil_iff.mp h
  | cons c t ih =>
    obtain ⟨hc, ht⟩ := List.ne_and_not_mem_of_not_mem_cons ht
    simp only [List.map_cons, along_cons, ih ht]
    by_cases hstar : c = '*'
    · -- a run, whose end is where the rest of the name begins
      subst hstar
      simp only [leads_star, nameFits, if_true, List.any_eq_true, List.mem_tails]
      constructor
      · rintro ⟨o, ⟨xs, hxs, hpo⟩, ys, hys, hfit, hoq⟩
        exact ⟨xs ++ ys, fun h => (List.mem_append.mp h).elim hxs hys,
          ⟨ys, List.suffix_append xs ys, hfit⟩, hpo.trans hoq⟩
      · rintro ⟨_, hzs, ⟨ys, ⟨xs, rfl⟩, hfit⟩, h⟩
        obtain ⟨o, hpo, hoq⟩ := Place.takes_append_iff.mp h
        exact ⟨o, ⟨xs, fun h => hzs (List.mem_append_left ys h), hpo⟩, ys,
          fun h => hzs (List.mem_append_right xs h), hfit, hoq⟩
    · simp only [leads_one hstar hc.symm, nameFits, if_neg hstar]
      constructor
      · rintro ⟨o, ⟨d, hd, hcd, hpo⟩, ys, hys, hfit, hoq⟩
        refine ⟨d :: ys, fun h => (List.mem_cons.mp h).elim (hd ·.symm) hys, ?_, hpo.trans hoq⟩
        simpa [hfit] using hcd
      · rintro ⟨_ | ⟨d, ys⟩, hzs, hfit, h⟩
        · exact absurd hfit Bool.false_ne_true
        · obtain ⟨hd, hys⟩ := List.ne_and_not_mem_of_not_mem_cons hzs
          obtain ⟨hcd, hfit⟩ := Bool.and_eq_true_iff.mp hfit
          obtain ⟨o, hpo, hoq⟩ := Place.takes_append_iff.mp (show p.Takes ([d] ++ ys) q from h)
          exact ⟨o, ⟨d, hd.symm, by simpa using hcd, hpo⟩, ys, hys, hfit, hoq⟩

/-- A component with a slash behind it. -/
theorem along_name_slash {t : Text} (ht : '/' ∉ t) :
    Along (t.map namePart ++ [.other (.literal 47)]) p q ↔
      ∃ xs, '/' ∉ xs ∧ nameFits t xs = true ∧ p.Takes (xs ++ ['/']) q := by
  have hslash : ∀ o, Along [.other (.literal 47)] o q ↔ o.Takes ['/'] q :=
    fun o => along_singleton.trans (leads_literal '/')
  simp only [along_append, along_name ht, hslash, Place.takes_append_iff]
  constructor
  · rintro ⟨o, ⟨xs, hxs, hfit, hpo⟩, hoq⟩
    exact ⟨xs, hxs, hfit, o, hpo, hoq⟩
  · rintro ⟨xs, hxs, hfit, o, hpo, hoq⟩
    exact ⟨o, ⟨xs, hxs, hfit, hpo⟩, hoq⟩

/-! ### Components -/

/-- The names from a place on. -/
def namesAt (p : Place) : List Text := Text.parts '/' p.after

theorem namesAt_ne_nil (p : Place) : namesAt p ≠ [] := Text.parts_ne_nil '/' p.after

/-- A path as the walk hands it over: one line, and no name of it is empty. -/
structure Clean (p : Place) : Prop where
  inLine : '\n' ∉ p.after
  ne_nil : ∀ name ∈ namesAt p, name ≠ []

theorem namesAt_of_takes {name : Text} (hname : '/' ∉ name) (h : p.Takes (name ++ ['/']) q) :
    namesAt p = name :: namesAt q := by
  rw [namesAt, h.after, List.append_assoc]
  exact Text.parts_append hname q.after

theorem Clean.of_takes {name : Text} (hp : Clean p) (hname : '/' ∉ name)
    (h : p.Takes (name ++ ['/']) q) : Clean q where
  inLine hm := hp.inLine (h.mem_after hm)
  ne_nil n hn := hp.ne_nil n (by rw [namesAt_of_takes hname h]; exact List.mem_cons_of_mem _ hn)

/-- The first name ends at an edge. -/
theorem exists_takes_name {name : Text} {names : List Text} (h : namesAt p = name :: names) :
    '/' ∉ name ∧ ∃ o, p.Takes name o ∧ AtEdge o := by
  obtain ⟨hname, ⟨hafter, -⟩ | ⟨b, hafter, -⟩⟩ := Text.parts_eq_cons h
  · obtain ⟨o, ho, hend⟩ := Place.exists_takes (hafter.trans (List.append_nil name).symm)
    exact ⟨hname, o, ho, .inl hend⟩
  · obtain ⟨o, ho, hend⟩ := Place.exists_takes hafter
    exact ⟨hname, o, ho, .inr (by rw [hend, List.head?_cons])⟩

/-- Behind the first name, if there are more, stands a slash. -/
theorem exists_takes_folder {name : Text} {names : List Text} (h : namesAt p = name :: names)
    (hne : names ≠ []) : ∃ q, p.Takes (name ++ ['/']) q ∧ namesAt q = names := by
  obtain ⟨-, ⟨-, hnil⟩ | ⟨b, hafter, hnames⟩⟩ := Text.parts_eq_cons h
  · exact absurd hnil hne
  · have hsplit : p.after = (name ++ ['/']) ++ b := by rw [hafter, List.append_assoc]; rfl
    obtain ⟨q, hq, hend⟩ := Place.exists_takes hsplit
    exact ⟨q, hq, by rw [namesAt, hend, hnames]⟩

/-- What is taken up to an edge, without a slash, is the first name. -/
theorem namesAt_of_atEdge {xs : Text} (hxs : '/' ∉ xs) (h : p.Takes xs q) (hq : AtEdge q) :
    ∃ names, namesAt p = xs :: names := by
  rw [namesAt, h.after]
  rcases hq with hq | hq
  · exact ⟨[], by rw [hq, List.append_nil, Text.parts_of_not_mem hxs]⟩
  · obtain ⟨rest, hrest⟩ := List.head?_eq_some_iff.mp hq
    exact ⟨_, by rw [hrest, Text.parts_append hxs]⟩

/-- A step past one name and the slash behind it. -/
def PastName (p q : Place) : Prop := ∃ name, name ≠ [] ∧ '/' ∉ name ∧ p.Takes (name ++ ['/']) q

theorem leads_folder :
    (Node.seq (.rounds 1 none .greedy noSlash) (.literal 47)).Leads {} = PastName := by
  funext p q
  refine propext ?_
  change (∃ o, _ ∧ (Node.literal '/'.toNat).Leads {} o q) ↔ _
  simp only [leads_rounds_noSlash, leads_literal, PastName, Place.takes_append_iff]
  constructor
  · rintro ⟨o, ⟨name, hlen, hname, hpo⟩, hoq⟩
    exact ⟨name, List.ne_nil_of_length_pos hlen, hname, o, hpo, hoq⟩
  · rintro ⟨name, hne, hname, o, hpo, hoq⟩
    exact ⟨o, ⟨name, List.length_pos_iff.mpr hne, hname, hpo⟩, hoq⟩

theorem leads_anyFolders : anyFolders.node.Leads {} p q ↔ ∃ n, Rounds PastName n p q := by
  rw [← leads_folder]
  exact ⟨fun ⟨n, _, _, h⟩ => ⟨n, h⟩, fun ⟨n, h⟩ => ⟨n, Nat.zero_le n, nofun, h⟩⟩

/-- The names behind folders are the last ones. -/
theorem suffix_of_rounds {n : Nat} (h : Rounds PastName n p q) (hp : Clean p) :
    Clean q ∧ namesAt q <:+ namesAt p := by
  induction h with
  | refl p => exact ⟨hp, List.suffix_refl _⟩
  | more h _ ih =>
    obtain ⟨name, -, hname, htakes⟩ := h
    obtain ⟨hq, hsuffix⟩ := ih (hp.of_takes hname htakes)
    rw [namesAt_of_takes hname htakes]
    exact ⟨hq, hsuffix.trans (List.suffix_cons _ _)⟩

/-- Folders can be passed up to any name. -/
theorem exists_rounds {names ns : List Text} (hp : Clean p) (hnames : namesAt p = names)
    (hns : ns ≠ []) (h : ns <:+ names) : ∃ n q, Rounds PastName n p q ∧ namesAt q = ns := by
  induction names generalizing p with
  | nil => exact absurd (List.suffix_nil.mp h) hns
  | cons name names ih =>
    rcases List.suffix_cons_iff.mp h with rfl | h
    · exact ⟨0, p, .refl p, hnames⟩
    · have hne : names ≠ [] := fun hnil => hns (List.suffix_nil.mp (hnil ▸ h))
      obtain ⟨hname, -⟩ := exists_takes_name hnames
      obtain ⟨o, ho, hnext⟩ := exists_takes_folder hnames hne
      obtain ⟨n, q, hq, hend⟩ := ih (hp.of_takes hname ho) hnext h
      exact ⟨n + 1, q, .more ⟨name, hp.ne_nil name (hnames ▸ List.mem_cons_self), hname, ho⟩ hq, hend⟩

/-- Any text of one line can be taken to its end. -/
theorem leads_anyRest :
    anyRest.node.Leads {} p q ↔ ∃ xs, '\n' ∉ xs ∧ p.Takes xs q := by
  have hall : ∀ xs : Text, (∀ x ∈ xs, Regex.CharTest.inLine.passes x = true) ↔ '\n' ∉ xs := by
    intro xs
    simp only [Regex.CharTest.passes_inLine]
    exact ⟨fun h hm => h _ hm rfl, fun h x hx hxs => h (hxs ▸ hx)⟩
  simp only [anyRest, Regex.Part.node, Nat.zero_le, true_and,
    Node.leads_rounds_of_test (show Node.any.Leads {} = Regex.CharTest.inLine.Reads from rfl), hall]

theorem exists_leads_anyRest (hp : '\n' ∉ p.after) :
    ∃ q, anyRest.node.Leads {} p q ∧ q.after = [] := by
  obtain ⟨q, hq, hend⟩ := Place.exists_takes (List.append_nil p.after).symm
  exact ⟨q, leads_anyRest.mpr ⟨p.after, hp, hq⟩, hend⟩

/-- The last component fits the first name when it is found up to an edge. -/
theorem along_name_atEdge {c name : Text} {names : List Text} (hc : '/' ∉ c)
    (hnames : namesAt p = name :: names) :
    (∃ q, Along (c.map namePart) p q ∧ AtEdge q) ↔ nameFits c name = true := by
  simp only [along_name hc]
  constructor
  · rintro ⟨q, ⟨xs, hxs, hfit, h⟩, hq⟩
    obtain ⟨ns, hns⟩ := namesAt_of_atEdge hxs h hq
    obtain ⟨rfl, -⟩ := List.cons.inj (hnames.symm.trans hns)
    exact hfit
  · intro hfit
    obtain ⟨hname, o, ho, hedge⟩ := exists_takes_name hnames
    exact ⟨o, ⟨name, hname, hfit, ho⟩, hedge⟩

/-- **Components and names.**  From a place on, components are found up to an edge when they fit the
names there from the first one on. -/
theorem along_components {cs : List Text} (hne : cs ≠ []) (hcs : ∀ c ∈ cs, '/' ∉ c) (hp : Clean p) :
    (∃ q, Along (componentParts cs) p q ∧ AtEdge q) ↔ fitsStart cs (namesAt p) = true := by
  induction cs generalizing p with
  | nil => exact absurd rfl hne
  | cons c cs ih =>
    obtain ⟨hc, htail⟩ := List.forall_mem_cons.mp hcs
    obtain ⟨name, names, hnames⟩ := List.exists_cons_of_ne_nil (namesAt_ne_nil p)
    by_cases hlast : cs = []
    · subst hlast
      rw [componentParts]
      split
      · next hany =>
        subst hany
        rw [fitsStart_anyNames_last (namesAt_ne_nil p)]
        obtain ⟨q, hq, hend⟩ := exists_leads_anyRest hp.inLine
        exact iff_of_true ⟨q, along_singleton.mpr hq, .inl hend⟩ rfl
      · next hany =>
        rw [hnames, fitsStart_cons hany, fitsStart_of_nil, along_name_atEdge hc hnames, eq_self,
          and_true]
    rw [componentParts_cons hlast]
    split
    · next hany =>
      subst hany
      simp only [fitsStart_anyNames hlast, along_append, along_singleton, leads_anyFolders]
      constructor
      · rintro ⟨q, ⟨o, ⟨n, hpo⟩, hoq⟩, hq⟩
        obtain ⟨ho, hsuffix⟩ := suffix_of_rounds hpo hp
        exact ⟨namesAt o, hsuffix, (ih hlast htail ho).mp ⟨q, hoq, hq⟩⟩
      · rintro ⟨ns, hsuffix, hfit⟩
        obtain ⟨n, o, hpo, rfl⟩ := exists_rounds hp rfl (ne_nil_of_fitsStart hlast hfit) hsuffix
        obtain ⟨q, hoq, hq⟩ := (ih hlast htail (suffix_of_rounds hpo hp).1).mpr hfit
        exact ⟨q, ⟨o, ⟨n, hpo⟩, hoq⟩, hq⟩
    · next hany =>
      rw [hnames, fitsStart_cons hany]
      simp only [along_append, along_name_slash hc]
      constructor
      · rintro ⟨q, ⟨o, ⟨xs, hxs, hfit, hpo⟩, hoq⟩, hq⟩
        obtain ⟨rfl, rfl⟩ := List.cons.inj (hnames.symm.trans (namesAt_of_takes hxs hpo))
        exact ⟨hfit, (ih hlast htail (hp.of_takes hxs hpo)).mp ⟨q, hoq, hq⟩⟩
      · rintro ⟨hfit, hrest⟩
        obtain ⟨hname, -⟩ := exists_takes_name hnames
        -- the components behind need names, so a slash follows the first one
        obtain ⟨o, hpo, rfl⟩ := exists_takes_folder hnames (ne_nil_of_fitsStart hlast hrest)
        obtain ⟨q, hoq, hq⟩ := (ih hlast htail (hp.of_takes hname hpo)).mpr hrest
        exact ⟨q, ⟨o, ⟨name, hname, hfit, hpo⟩, hoq⟩, hq⟩

/-! ### The two ends -/

/-- The text has no line feed but at its end. -/
def IsLine (t : Text) : Prop := '\n' ∉ t.dropLast

/-- A line is a text without line feeds, with one behind it or none. -/
theorem isLine_iff {t : Text} : IsLine t ↔ ∃ xs e, t = xs ++ e ∧ '\n' ∉ xs ∧ (e = [] ∨ e = ['\n']) := by
  constructor
  · intro h
    rcases List.eq_nil_or_concat' t with rfl | ⟨xs, c, rfl⟩
    · exact ⟨[], [], rfl, List.not_mem_nil, .inl rfl⟩
    · rw [IsLine, List.dropLast_concat] at h
      by_cases hc : c = '\n'
      · exact ⟨xs, [c], rfl, h, .inr (by rw [hc])⟩
      · refine ⟨xs ++ [c], [], (List.append_nil _).symm, fun hm => ?_, .inl rfl⟩
        exact (List.mem_append.mp hm).elim h fun hm => hc (List.mem_singleton.mp hm).symm
  · rintro ⟨xs, e, rfl, hxs, rfl | rfl⟩
    · rw [List.append_nil]
      exact fun hm => hxs (List.mem_of_mem_dropLast hm)
    · rwa [IsLine, List.dropLast_concat]

theorem isLine_of_not_mem {t : Text} (h : '\n' ∉ t) : IsLine t :=
  fun hm => h (List.mem_of_mem_dropLast hm)

/-- A slash and characters of one line behind it, or nothing. -/
theorem leads_anyBelow :
    (Node.rounds 0 (some 1) .greedy (.seq (.literal 47) (.rounds 0 none .greedy .any))).Leads {} p q ↔
      q = p ∨ ∃ xs, '\n' ∉ xs ∧ p.Takes ('/' :: xs) q := by
  have hround : ∀ p q, (Node.seq (.literal 47) (.rounds 0 none .greedy .any)).Leads {} p q ↔
      ∃ xs, '\n' ∉ xs ∧ p.Takes ('/' :: xs) q := by
    intro p q
    constructor
    · rintro ⟨o, hslash, hrest⟩
      obtain ⟨xs, hxs, htakes⟩ := leads_anyRest.mp hrest
      exact ⟨xs, hxs, ((leads_literal '/').mp hslash).trans htakes⟩
    · rintro ⟨xs, hxs, htakes⟩
      obtain ⟨o, hslash, hrest⟩ := Place.takes_append_iff.mp (show p.Takes (['/'] ++ xs) q from htakes)
      exact ⟨o, (leads_literal '/').mpr hslash, leads_anyRest.mpr ⟨xs, hxs, hrest⟩⟩
  rw [← hround]
  constructor
  · rintro ⟨n, -, hn, hrounds⟩
    rcases hrounds with _ | ⟨h, hrounds⟩
    · exact .inl rfl
    · obtain rfl := Nat.le_zero.mp (Nat.le_of_succ_le_succ (hn 1 rfl))
      exact .inr (Regex.rounds_zero_iff.mp hrounds ▸ h)
  · rintro (rfl | h)
    · exact ⟨0, Nat.le_refl 0, fun _ _ => Nat.zero_le _, .refl q⟩
    · exact ⟨1, Nat.zero_le 1, fun _ h => Option.some.inj h ▸ Nat.le_refl 1, .more h (.refl q)⟩

/-- The end of a line, without its line feed or with it. -/
theorem leads_lineEnd : (Node.anchor .lineEnd).Leads {} p q ↔
    (p.after = [] ∨ p.after = ['\n']) ∧ q = p := by
  simp [Node.Leads, Regex.Anchor.holds]

/-- A text may stand behind the components: nothing, or a line behind a slash. A line feed at the end
counts for nothing. -/
def IsEnd (t : Text) : Prop := t = [] ∨ t = ['\n'] ∨ ∃ u, t = '/' :: u ∧ IsLine u

theorem exists_along_endParts_iff : (∃ r, Along endParts q r) ↔ IsEnd q.after := by
  have hparts : ∀ r, Along endParts q r ↔ ∃ o, (o = q ∨ ∃ xs, '\n' ∉ xs ∧ q.Takes ('/' :: xs) o) ∧
      (o.after = [] ∨ o.after = ['\n']) ∧ r = o := by
    intro r
    simp only [endParts, along_cons, along_nil, Regex.Part.node, leads_anyBelow, leads_lineEnd]
    exact ⟨fun ⟨o, ho, r', ⟨hend, hr'⟩, hr⟩ => ⟨o, ho, hend, hr.trans hr'⟩,
      fun ⟨o, ho, hend, hr⟩ => ⟨o, ho, o, ⟨hend, rfl⟩, hr⟩⟩
  simp only [hparts]
  constructor
  · rintro ⟨r, o, rfl | ⟨xs, hxs, htakes⟩, hend, -⟩
    · exact hend.elim .inl fun h => .inr (.inl h)
    · exact .inr (.inr ⟨xs ++ o.after, htakes.after, isLine_iff.mpr ⟨xs, o.after, rfl, hxs, hend⟩⟩)
  · rintro (hnil | hline | ⟨u, hslash, hu⟩)
    · exact ⟨q, q, .inl rfl, .inl hnil, rfl⟩
    · exact ⟨q, q, .inl rfl, .inr hline, rfl⟩
    · obtain ⟨xs, e, rfl, hxs, he⟩ := isLine_iff.mp hu
      obtain ⟨o, ho, rfl⟩ := Place.exists_takes (show q.after = '/' :: xs ++ e from hslash)
      exact ⟨o, o, .inr ⟨xs, hxs, ho⟩, he, rfl⟩

/-- In a path of one line, what stands behind the components leads on from an edge, and only from
there. -/
theorem exists_along_endParts (hq : '\n' ∉ q.after) : (∃ r, Along endParts q r) ↔ AtEdge q := by
  rw [exists_along_endParts_iff, IsEnd, AtEdge]
  constructor
  · rintro (hnil | hline | ⟨u, hslash, -⟩)
    · exact .inl hnil
    · exact absurd (hline ▸ List.mem_singleton_self '\n') hq
    · exact .inr (by rw [hslash]; rfl)
  · rintro (hnil | hslash)
    · exact .inl hnil
    · obtain ⟨u, hu⟩ := List.head?_eq_some_iff.mp hslash
      rw [hu] at hq
      exact .inr (.inr ⟨u, hu, isLine_of_not_mem (List.not_mem_of_not_mem_cons hq)⟩)

/-- The place is where a pattern may begin: at the start of the path, or, if it floats, behind a
slash. -/
def AtStart (floating : Bool) (p : Place) : Prop :=
  p.before = [] ∨ floating = true ∧ p.before.head? = some '/'

theorem leads_startPart {floating : Bool} :
    (startPart floating).node.Leads {} p q ↔
      (p.before = [] ∧ q = p) ∨ (floating = true ∧ p.Takes ['/'] q) := by
  have hstart : (Node.anchor .lineStart).Leads {} p q ↔ p.before = [] ∧ q = p := by
    simp [Node.Leads, Regex.Anchor.holds]
  cases floating with
  | false =>
    simp only [Bool.false_eq_true, false_and, or_false]
    exact hstart
  | true =>
    change (_ ∨ (Node.literal '/'.toNat).Leads {} p q ∨ False) ↔ _
    rw [hstart, leads_literal, or_false, eq_self, true_and]

/-- The components of a pattern are looked for where it may begin. -/
theorem exists_leads_startPart {floating : Bool} {s : Text} :
    (∃ p, p.IsIn s ∧ (startPart floating).node.Leads {} p o) ↔ o.IsIn s ∧ AtStart floating o := by
  simp only [leads_startPart, AtStart]
  constructor
  · rintro ⟨p, hp, ⟨hbefore, rfl⟩ | ⟨hf, htakes⟩⟩
    · exact ⟨hp, .inl hbefore⟩
    · exact ⟨htakes.isIn hp, .inr ⟨hf, by rw [htakes.before]; rfl⟩⟩
  · rintro ⟨ho, hbefore | ⟨hf, hslash⟩⟩
    · exact ⟨o, ho, .inl ⟨hbefore, rfl⟩⟩
    · obtain ⟨b, hb⟩ := List.head?_eq_some_iff.mp hslash
      have hpos : o.pos = b.length + 1 := by rw [ho.pos, hb, List.length_cons]
      refine ⟨⟨b.length, b, '/' :: o.after⟩, ⟨?_, rfl⟩, .inr ⟨hf, rfl, hb, hpos⟩⟩
      rw [← ho.text, hb, List.reverse_cons, List.append_assoc]
      rfl

/-- The names from a place where a pattern may begin are all names, or, if it floats, any last ones. -/
theorem exists_atStart {floating : Bool} {s : Text} {ns : List Text} (hns : ns ≠ []) :
    (∃ o, o.IsIn s ∧ AtStart floating o ∧ namesAt o = ns) ↔
      ns ∈ if floating then (Text.parts '/' s).tails else [Text.parts '/' s] := by
  cases floating with
  | false =>
    simp only [AtStart, Bool.false_eq_true, false_and, or_false, if_false, List.mem_singleton]
    constructor
    · rintro ⟨o, ho, hbefore, rfl⟩
      rw [← ho.text, hbefore]
      rfl
    · rintro rfl
      exact ⟨⟨0, [], s⟩, Place.isIn_start s, rfl, rfl⟩
  | true =>
    simp only [AtStart, true_and, if_true, List.mem_tails, Text.suffix_parts hns]
    constructor
    · rintro ⟨o, ho, hbefore, rfl⟩
      exact ⟨o.before, o.after, ho.text.symm, hbefore, rfl⟩
    · rintro ⟨a, b, rfl, ha, rfl⟩
      exact ⟨⟨a.length, a, b⟩, ⟨rfl, rfl⟩, ha, rfl⟩

/-! ### Search -/

theorem opening?_append_startPart (floating : Bool) (rest : Node) :
    ((startPart floating).node.append rest).opening? false {} = none := by
  cases floating <;> cases rest <;> rfl

theorem opening?_pathNode (floating : Bool) (cs : List Text) :
    (pathNode floating cs).opening? false {} = none := by
  rw [pathNode, pathParts]
  split
  · rfl
  · exact opening?_append_startPart floating _

/-- A pattern with components leads from where they are found up to an edge. -/
theorem exists_along_pathParts {floating : Bool} {cs : List Text} (hne : cs ≠ []) {s : Text} :
    (∃ p q, p.IsIn s ∧ (pathNode floating cs).Leads {} p q) ↔
      ∃ o q r, o.IsIn s ∧ AtStart floating o ∧ Along (componentParts cs) o q ∧
        Along endParts q r := by
  have hparts : pathParts floating cs = startPart floating :: (componentParts cs ++ endParts) :=
    if_neg (fun h => hne (List.isEmpty_iff.mp h))
  have hleads : ∀ p r, (pathNode floating cs).Leads {} p r ↔
      ∃ o, (startPart floating).node.Leads {} p o ∧
        ∃ q, Along (componentParts cs) o q ∧ Along endParts q r := by
    intro p r
    change Along (pathParts floating cs) p r ↔ _
    simp only [hparts, along_cons, along_append]
  simp only [hleads]
  constructor
  · rintro ⟨p, r, hp, o, hstart, q, hoq, hqr⟩
    obtain ⟨ho, hat⟩ := exists_leads_startPart.mp ⟨p, hp, hstart⟩
    exact ⟨o, q, r, ho, hat, hoq, hqr⟩
  · rintro ⟨o, q, r, ho, hat, hoq, hqr⟩
    obtain ⟨p, hp, hstart⟩ := exists_leads_startPart.mpr ⟨ho, hat⟩
    exact ⟨p, r, hp, o, hstart, q, hoq, hqr⟩

/-- An expression without components is found nowhere. -/
theorem not_finds_nil (floating : Bool) (s : Text) :
    ¬ (Regex.Pattern.ofNode {} 0 [] (pathNode floating [])).finds s = true := by
  rw [Regex.Pattern.finds_iff (isRegular_pathNode floating []) (opening?_pathNode floating [])]
  rintro ⟨p, q, -, -, hnot⟩
  exact Bool.noConfusion (hnot.mp ⟨p, rfl⟩)

/-- **Searching and fitting.**  The expression of components is found in a path of one line, without
empty names, when the components fit its names. -/
theorem finds_pathNode (floating : Bool) (cs : List Text) {s : Text} (hcs : ∀ c ∈ cs, '/' ∉ c)
    (hline : '\n' ∉ s) (hnames : ∀ name ∈ Text.parts '/' s, name ≠ []) :
    (Regex.Pattern.ofNode {} 0 [] (pathNode floating cs)).finds s = true ↔
      cs ≠ [] ∧ ∃ ns ∈ if floating then (Text.parts '/' s).tails else [Text.parts '/' s],
        fitsStart cs ns = true := by
  by_cases hne : cs = []
  · subst hne
    exact iff_of_false (not_finds_nil floating s) fun h => h.1 rfl
  rw [Regex.Pattern.finds_iff (isRegular_pathNode floating cs) (opening?_pathNode floating cs),
    exists_along_pathParts hne]
  have hclean : ∀ o : Place, o.IsIn s → AtStart floating o → Clean o := by
    intro o ho hat
    refine ⟨fun hm => hline (ho.text ▸ List.mem_append_right _ hm), fun name hname => ?_⟩
    refine hnames name (List.IsSuffix.subset ?_ hname)
    exact (Text.suffix_parts (namesAt_ne_nil o)).mpr
      ⟨o.before, o.after, ho.text.symm, hat.imp_right And.right, rfl⟩
  constructor
  · rintro ⟨o, q, r, ho, hat, hoq, hqr⟩
    have hoc := hclean o ho hat
    refine ⟨hne, namesAt o, (exists_atStart (namesAt_ne_nil o)).mp ⟨o, ho, hat, rfl⟩, ?_⟩
    refine (along_components hne hcs hoc).mp ⟨q, hoq, (exists_along_endParts ?_).mp ⟨r, hqr⟩⟩
    obtain ⟨xs, hxs⟩ := Node.Leads.takes hoq
    exact fun hm => hoc.inLine (hxs.mem_after hm)
  · rintro ⟨-, ns, hmem, hfit⟩
    obtain ⟨o, ho, hat, rfl⟩ := (exists_atStart (ne_nil_of_fitsStart hne hfit)).mpr hmem
    have hoc := hclean o ho hat
    obtain ⟨q, hoq, hedge⟩ := (along_components hne hcs hoc).mpr hfit
    obtain ⟨xs, hxs⟩ := Node.Leads.takes hoq
    obtain ⟨r, hqr⟩ := (exists_along_endParts fun hm => hoc.inLine (hxs.mem_after hm)).mpr hedge
    exact ⟨o, q, r, ho, hat, hoq, hqr⟩

/-- **A pattern without sets** is accepted, and is found in a path of one line, without empty names,
when it fits the names. -/
theorem read_and_finds {t : Text} (ht : '[' ∉ t) :
    ∃ pattern, Regex.read {} (ofText t).regex = .ok pattern ∧
      ∀ s, '\n' ∉ s → (∀ name ∈ Text.parts '/' s, name ≠ []) →
        pattern.finds s = fits t (Text.parts '/' s) := by
  refine ⟨_, read_regex ht, fun s hline hnames => ?_⟩
  rw [Bool.eq_iff_iff, finds_pathNode _ _ (fun _ => slash_not_mem_of_mem_outline) hline hnames, fits]
  simp only [Bool.and_eq_true, Bool.not_eq_true', List.isEmpty_eq_false_iff, List.any_eq_true]

end TreeSieve.Glob
