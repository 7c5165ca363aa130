import Mathlib.Data.List.Nodup
import TreeSieve.Proofs.Casing
import TreeSieve.Proofs.Folders
import TreeSieve.Proofs.Highlights

/-!
# Proofs — Stems

Files are found by the stem of their name and highlighted in the whole of it.

The stem stands in the name, but the lower case of the stem need not stand in that of the name: a point
is looked through when the end of a word is sought, so a sigma that ends the stem is final there and
not in the name when the extension begins with a letter.  `LosesSigma` says when the stem is lost in the
name for that (`lower_sublist_iff`).  Otherwise whatever fits the stem fits the name.

* `get?_eq_fileMatch_iff_accepts`: what a pass over distinct paths says of a file.
* `found_highlighted_iff`: **a file that is found is highlighted**, whatever the query, unless its name
  loses a sigma.
-/

namespace TreeSieve

namespace Text

variable {stem ext name u v : Text}

/-- The stem of a name ends in a sigma at the end of a word, which goes on in the extension; and no
final sigma further on in the name stands in for that one. -/
def LosesSigma (name : Text) : Prop :=
  ∃ u v ext, name = u ++ 'Σ' :: (v ++ '.' :: ext) ∧ '.' ∉ ext ∧ v.all isCaseIgnorable = true ∧
    meetsCased u.reverse = true ∧ meetsCased ext = true ∧
    ¬('ς' :: lower v).Sublist (lowerFrom ['Σ'] (v ++ '.' :: ext))

theorem LosesSigma.mem (h : LosesSigma name) : 'Σ' ∈ name := by
  obtain ⟨u, v, ext, rfl, -⟩ := h
  exact List.mem_append_right u List.mem_cons_self

theorem LosesSigma.point_mem (h : LosesSigma name) : '.' ∈ name := by
  obtain ⟨u, v, ext, rfl, -⟩ := h
  simp

/-- A point is looked through. -/
theorem meetsCased_point (t : Text) : meetsCased ('.' :: t) = meetsCased t := by
  rw [meetsCased_cons, if_pos (by decide)]

/-- When no sigma of a stem sees past its end, the stem in lower case begins any longer name in lower
case. -/
theorem lower_prefix_append (h : ∀ u v, stem = u ++ 'Σ' :: v → v.all isCaseIgnorable = false)
    (t : Text) : lower stem <+: lower (stem ++ t) := by
  have hstem : lowerIn [] stem (t ++ []) = lower stem := by
    rw [lower_eq_lowerIn]
    refine lowerIn_eq_of_forms fun u v hsplit => sigmaForm_congr rfl ?_
    rw [meetsCased_append, h u v hsplit, if_neg Bool.false_ne_true, List.append_nil]
  rw [lower_eq_lowerIn (stem ++ t), lowerIn_append, hstem]
  exact List.prefix_append _ _

/-- What becomes of the last sigma of a stem, which sees the extension. -/
theorem lower_last_sublist_iff (hv : v.all isCaseIgnorable = true) :
    (lower (u ++ 'Σ' :: v)).Sublist (lower (u ++ 'Σ' :: (v ++ '.' :: ext))) ↔
      (meetsCased u.reverse = true → meetsCased ext = true →
        ('ς' :: lower v).Sublist (lowerFrom ['Σ'] (v ++ '.' :: ext))) := by
  have hsigma : 'Σ' ∉ v := sigma_not_mem hv
  have hend : meetsCased v = false := meetsCased_of_all hv
  have hrest : meetsCased (v ++ '.' :: ext) = meetsCased ext := by
    rw [meetsCased_append, if_pos hv, meetsCased_point]
  have hlower : lowerIn ['Σ'] v [] = lower v := by
    rw [lower_eq_lowerIn]
    exact lowerIn_eq_of_not_mem hsigma
  rw [lower_sigma, lower_sigma, List.append_sublist_append_left, hlower, lowerIn_nil_right]
  by_cases hword : meetsCased u.reverse = true ∧ meetsCased ext = true
  · rw [sigmaForm_of_word hword.1 hend, sigmaForm_of_after (hrest.trans hword.2),
      List.cons_sublist_cons']
    simp [hword]
  · have hform : sigmaForm u.reverse v = sigmaForm u.reverse (v ++ '.' :: ext) := by
      cases hu : meetsCased u.reverse with
      | false => rw [sigmaForm_of_before hu, sigmaForm_of_before hu]
      | true =>
        refine sigmaForm_congr rfl ?_
        rw [hend, hrest, eq_comm, Bool.eq_false_iff]
        exact fun hext => hword ⟨hu, hext⟩
    rw [hform, List.cons_sublist_cons]
    exact iff_of_true (lowerFrom_sublist (List.sublist_append_left v _) hsigma)
      fun hu hext => absurd ⟨hu, hext⟩ hword

/-- **The stem in the name**, both in lower case. -/
theorem lower_sublist_iff (hext : '.' ∉ ext) :
    (lower stem).Sublist (lower (stem ++ '.' :: ext)) ↔ ¬LosesSigma (stem ++ '.' :: ext) := by
  constructor
  · rintro h ⟨u, v, e, hname, he, hv, hu, hcased, hlost⟩
    have hcut := cutLast?_append stem hext
    rw [hname, ← List.cons_append, ← List.append_assoc, cutLast?_append _ he] at hcut
    cases hcut
    rw [List.append_assoc, List.cons_append] at h
    exact hlost ((lower_last_sublist_iff hv).mp h hu hcased)
  · intro h
    by_cases hlast : ∃ u v, stem = u ++ 'Σ' :: v ∧ v.all isCaseIgnorable = true
    · obtain ⟨u, v, rfl, hv⟩ := hlast
      rw [List.append_assoc, List.cons_append] at h ⊢
      refine (lower_last_sublist_iff hv).mpr fun hu hcased => ?_
      by_contra hlost
      exact h ⟨u, v, ext, rfl, hext, hv, hu, hcased, hlost⟩
    · refine (lower_prefix_append (fun u v hsplit => ?_) _).sublist
      rw [Bool.eq_false_iff]
      exact fun hv => hlast ⟨u, v, hsplit, hv⟩

end Text

namespace Item

open Text (LosesSigma)
open Subsequence (key)

variable {i : Item} {cs : Bool}

theorem matchName_append {stem ext : Text} (h : i.isFolder = false)
    (hname : i.name = stem ++ '.' :: ext) (hext : '.' ∉ ext) :
    i.matchName = if stem = [] then i.name else stem := by
  rw [matchName, h, if_neg Bool.false_ne_true, hname, Text.cutLast?_append stem hext]
  simp only [List.isEmpty_iff]

theorem matchName_sublist (i : Item) : i.matchName.Sublist i.name := by
  cases h : i.isFolder with
  | true => rw [matchName_of_isFolder h]
  | false =>
    by_cases hpoint : '.' ∈ i.name
    · obtain ⟨stem, ext, hname, hext⟩ := Text.exists_lastCut hpoint
      rw [matchName_append h hname hext]
      split
      · exact List.Sublist.refl _
      · exact hname ▸ List.sublist_append_left stem _
    · rw [matchName_of_not_mem hpoint]

/-- **The stem in the name**, both as they are compared. -/
theorem key_matchName_sublist_iff (h : i.isFolder = false) :
    (key cs i.matchName).Sublist (key cs i.name) ↔ cs = true ∨ ¬LosesSigma i.name := by
  cases cs with
  | true => exact iff_of_true i.matchName_sublist (.inl rfl)
  | false =>
    rw [or_iff_right Bool.false_ne_true]
    by_cases hpoint : '.' ∈ i.name
    · obtain ⟨stem, ext, hname, hext⟩ := Text.exists_lastCut hpoint
      rw [matchName_append h hname hext]
      split
      · next hstem =>
        refine iff_of_true (List.Sublist.refl _) ?_
        rw [hname, ← Text.lower_sublist_iff hext, hstem]
        exact List.nil_sublist _
      · rw [hname]
        exact Text.lower_sublist_iff hext
    · rw [matchName_of_not_mem hpoint]
      exact iff_of_true (List.Sublist.refl _) fun hloses => hpoint hloses.point_mem

end Item

namespace Search

variable {s : Search} {i : Item} {t : Text}

theorem hasTerm_of_file (h : i.isFolder = false) :
    s.hasTerm i = true ↔ ∃ t ∈ s.query.terms, s.fits i.matchName t = true := by
  simp [hasTerm, h]

theorem hasTerm_of_accepts (h : s.accepts i = true) (hterms : s.query.terms ≠ []) :
    s.hasTerm i = true := by
  simp only [accepts, admits, Bool.and_eq_true] at h
  simpa [gate, hterms] using h.2

/-- The search for a term and nothing else. -/
def forTerm (cs : Bool) (t : Text) : Search := ⟨{ terms := [t] }, cs, []⟩

theorem accepts_forTerm (cs : Bool) (t : Text) (i : Item) :
    (forTerm cs t).accepts i = (forTerm cs t).hasTerm i := by
  simp [accepts, admits, rulesOut, gate, carries, forTerm]

/-- Every file is accepted by the search for its stem. -/
theorem accepts_matchName (cs : Bool) (h : i.isFolder = false) :
    (forTerm cs i.matchName).accepts i = true := by
  rw [accepts_forTerm, hasTerm_of_file h]
  exact ⟨_, List.mem_singleton_self _, Subsequence.fits_iff.mpr (List.Sublist.refl _)⟩

end Search

namespace Filter

open Text (LosesSigma)

variable {settings : Settings} {s : Search} {items : List Item} {i : Item} {d : Decision} {q : Query}
  {cache : Regex.Cache} {m : DecisionMap}

/-- Among items with distinct paths, the decision for a file is about that file. -/
theorem get?_eq_fileMatch_iff_accepts (hitems : (items.map (·.path)).Nodup) (hi : i ∈ items)
    (hfile : i.isFolder = false) :
    (decide s items).get? i.path = some .fileMatch ↔ i.path ≠ Path.root ∧ s.accepts i = true := by
  have hsame : ∀ j ∈ items, j.path = i.path → j = i := fun j hj hpath =>
    List.inj_on_of_nodup_map hitems hj hi hpath
  have hfolders : i.path ∉ matchedFolders s items := by
    intro hmem
    obtain ⟨j, hj, hpath, -, hfolder, -⟩ := mem_matchedFolders.mp hmem
    rw [hsame j hj hpath, hfile] at hfolder
    cases hfolder
  rw [get?_eq_fileMatch_iff hfolders]
  constructor
  · intro hmem
    obtain ⟨j, hj, hpath⟩ := List.mem_map.mp hmem
    obtain ⟨hj, hroot, -, haccepts⟩ := mem_acceptedFiles.mp hj
    rw [hsame j hj hpath] at hroot haccepts
    exact ⟨hroot, haccepts⟩
  · rintro ⟨hroot, haccepts⟩
    exact List.mem_map_of_mem (mem_acceptedFiles.mpr ⟨hi, hroot, hfile, haccepts⟩)

/-- A decision of a pass is one of a search for its query. -/
theorem exists_search (h : (evaluate settings items q cache).1 = .ok m) {p : Text}
    (hd : m.get? p = some d) :
    ∃ s : Search, s.query = q ∧ s.caseSensitive = settings.caseSensitive ∧ m = decide s items := by
  by_cases hq : q.isBlank = true
  · rw [evaluate, if_pos hq] at h
    cases h
    cases hd
  · obtain ⟨s, hs, -, rfl⟩ := exists_search_of_evaluate (by simpa using hq) h
    obtain ⟨hquery, hcs⟩ := Search.query_of_prepare hs
    exact ⟨s, hquery, hcs, rfl⟩

/-- Something is highlighted when a term fits the name. -/
theorem highlights_ne_nil_iff (hon : settings.highlight = true) (hd : d.kind ≠ .none)
    (hterms : [] ∉ q.terms) : highlights settings i d q ≠ [] ↔
      ∃ t ∈ q.terms, Subsequence.fits settings.caseSensitive i.name t = true := by
  rw [highlights, if_neg (by simp [hon, hd])]
  constructor
  · intro h
    split at h
    · next ps hfind =>
      obtain ⟨t, ht, hps⟩ := List.mem_filterMap.mp (List.mem_of_find?_eq_some hfind)
      exact ⟨t, ht, by rw [← Subsequence.isSome_positions?, hps, Option.isSome_some]⟩
    · exact absurd rfl h
  · rintro ⟨t, ht, hfits⟩
    rw [← Subsequence.isSome_positions?, Option.isSome_iff_exists] at hfits
    obtain ⟨ps, hps⟩ := hfits
    have hplaces : ps ≠ [] := by
      have hlength := Subsequence.length_of_positions? hps
      have hpos : 0 < t.length := List.length_pos_of_ne_nil fun hnil => hterms (hnil ▸ ht)
      exact List.ne_nil_of_length_pos (by omega)
    split
    · next qs hfind => simpa using List.find?_some hfind
    · next hfind =>
      have hnone := List.find?_eq_none.mp hfind ps (List.mem_filterMap.mpr ⟨t, ht, hps⟩)
      simp [hplaces] at hnone

/-- **What is found is highlighted.**  In a pass over items with distinct paths, whatever query finds a
file by its terms highlights something in its name: exactly when case counts, or the file is no match
at all, or its name does not lose a sigma. -/
theorem found_highlighted_iff (settings : Settings) (hon : settings.highlight = true)
    (items : List Item) (hitems : (items.map (·.path)).Nodup) (hi : i ∈ items)
    (hfile : i.isFolder = false) :
    (∀ (q : Query) (cache : Regex.Cache) (m : DecisionMap), q.terms ≠ [] → [] ∉ q.terms →
      (evaluate settings items q cache).1 = .ok m → m.get? i.path = some .fileMatch →
        highlights settings i .fileMatch q ≠ []) ↔
      settings.caseSensitive = true ∨ i.path = Path.root ∨ ¬LosesSigma i.name := by
  have hdecided : ∀ s, (decide s items).get? i.path = some .fileMatch ↔
      i.path ≠ Path.root ∧ s.accepts i = true :=
    fun s => get?_eq_fileMatch_iff_accepts hitems hi hfile
  constructor
  · intro h
    by_contra hlost
    obtain ⟨hloses, hroot⟩ : ¬(settings.caseSensitive = true ∨ ¬LosesSigma i.name) ∧
        i.path ≠ Path.root := by tauto
    rw [← Item.key_matchName_sublist_iff hfile] at hloses
    have hne : i.matchName ≠ [] := by
      intro hnil
      rw [hnil, Subsequence.key_nil] at hloses
      exact hloses (List.nil_sublist _)
    have hterms : [] ∉ [i.matchName] := mt List.mem_singleton.mp hne.symm
    -- the stem itself is a term that finds the file
    have hfound := (hdecided (Search.forTerm settings.caseSensitive i.matchName)).mpr
      ⟨hroot, Search.accepts_matchName _ hfile⟩
    have hlight := h { terms := [i.matchName] } [] _ (List.cons_ne_nil _ _) hterms
      (evaluate_of_stumblesNowhere rfl rfl
        (Search.stumblesNowhere_of_groups (fun _ h => absurd h List.not_mem_nil) items)) hfound
    obtain ⟨t, ht, hfits⟩ := (highlights_ne_nil_iff hon (by decide) hterms).mp hlight
    rw [List.mem_singleton.mp ht, Subsequence.fits_iff] at hfits
    exact hloses hfits
  · intro hkept q cache m hne hterms hm hd
    obtain ⟨s, rfl, hcs, rfl⟩ := exists_search hm hd
    obtain ⟨hroot, haccepts⟩ := (hdecided s).mp hd
    have hstem := (Item.key_matchName_sublist_iff hfile).mpr
      (hkept.imp_right fun h => h.resolve_left hroot)
    obtain ⟨t, ht, hfits⟩ :=
      (Search.hasTerm_of_file hfile).mp (Search.hasTerm_of_accepts haccepts hne)
    rw [Search.fits, hcs, Subsequence.fits_iff] at hfits
    exact (highlights_ne_nil_iff hon (by decide) hterms).mpr
      ⟨t, ht, Subsequence.fits_iff.mpr (hfits.trans hstem)⟩

/-- A file with an extension. -/
def governanceFile : Item :=
  ⟨"Data Governance.md".toList, "Data Governance.md".toList, .file, some Path.root, []⟩

theorem found_highlighted_iff_governance :
    ∃ m, (evaluate {} [governanceFile] { terms := ["dgov".toList] } []).1 = .ok m ∧
      m.get? governanceFile.path = some .fileMatch ∧
      highlights {} governanceFile .fileMatch { terms := ["dgov".toList] } ≠ [] := by
  have hd : (decide (Search.forTerm false "dgov".toList) [governanceFile]).get?
      governanceFile.path = some .fileMatch := by
    set_option maxRecDepth 10000 in decide
  have hkeeps : ¬LosesSigma governanceFile.name := mt LosesSigma.mem (by decide)
  exact ⟨_, rfl, hd, (found_highlighted_iff {} rfl [governanceFile] (List.nodup_singleton _)
    (List.mem_singleton_self _) rfl).mpr (.inr (.inr hkeeps)) _ [] _ (List.cons_ne_nil _ _)
    (by decide) rfl hd⟩

/-- A file whose stem ends in a sigma. -/
def wordFile : Item :=
  ⟨"ΑΣ.md".toList, "ΑΣ.md".toList, .file, some Path.root, []⟩

/-- The sigma of the stem is final, and that of the name is not. -/
theorem found_not_highlighted :
    ∃ m, (evaluate {} [wordFile] { terms := ["ΑΣ".toList] } []).1 = .ok m ∧
      m.get? wordFile.path = some .fileMatch ∧
      highlights {} wordFile .fileMatch { terms := ["ΑΣ".toList] } = [] := by
  refine ⟨decide (Search.forTerm false "ΑΣ".toList) [wordFile], rfl, ?_⟩
  set_option maxRecDepth 10000 in decide

end Filter

end TreeSieve
