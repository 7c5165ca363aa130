import TreeSieve.Proofs.Containment
import TreeSieve.Proofs.Subsequence
import TreeSieve.Proofs.Visibility

/-!
# Proofs — Folders

What a value for folders says about what lies below a folder.

A value finds a folder when it fits its name or occurs in its path (`Finds`).  What occurs in a path
occurs in all paths below it, but what fits a name need not fit the names below.  So it matters that
a file is compared with the names of all folders around it when folders are allowed, and only with
its own name when they are ruled out.

* `allowsFolder_file_iff`: **a file is allowed exactly when a folder around it is.**
* `contents_ruledOut`: what lies below a folder is ruled out with it by a value that occurs in its
  path.  **A value that only fits its name leaves files in it**, which bring the folder back.
-/

namespace TreeSieve

/-! ### Slashes as they are compared -/

namespace Text

variable {c : Char} {t before after : Text}

/-- No letter becomes a slash in lower case. -/
theorem lowerChar_eq_slash_iff : lowerChar c = '/' ↔ c = '/' := by
  have hruns : (capitalRuns.all fun r => r.avoids 0x2F 0x2F) = true := by decide +kernel
  constructor
  · intro h
    have hcode : lowerCode c.toNat = 0x2F := by rw [← toNat_lowerChar, h]; rfl
    rcases lowerCode_cases c.toNat with hsame | hletter | ⟨r, hr, hn, hrun⟩
    · exact Char.toNat_inj.mp (hsame.symm.trans hcode)
    · omega
    · have := CapitalRun.lower_of_avoids (List.all_eq_true.mp hruns r hr) hn
      omega
  · rintro rfl
    decide +kernel

theorem slash_mem_lowerAt_iff : '/' ∈ lowerAt before c after ↔ c = '/' := by
  rw [lowerAt]
  split
  · next hsigma =>
    rw [hsigma]
    split <;> decide
  · split
    · next hdotted =>
      rw [hdotted]
      decide
    · rw [List.mem_singleton, eq_comm, lowerChar_eq_slash_iff]

/-- A text has the slashes that it has in lower case. -/
theorem slash_mem_lowerFrom_iff : '/' ∈ lowerFrom before t ↔ '/' ∈ t := by
  induction t generalizing before with
  | nil => rfl
  | cons c t ih =>
    rw [lowerFrom, List.mem_append, slash_mem_lowerAt_iff, ih, List.mem_cons, eq_comm]

end Text

theorem Subsequence.slash_mem_key_iff {cs : Bool} {t : Text} : '/' ∈ key cs t ↔ '/' ∈ t := by
  cases cs with
  | true => rfl
  | false => exact Text.slash_mem_lowerFrom_iff

namespace Search

open TreeSieve.Path (IsBelow root)

variable {cs : Bool} {s : Search} {i F : Item} {v p a : Text}

/-- The value fits the name of the folder with the path `p`, or occurs in that path. -/
def Finds (cs : Bool) (v p : Text) : Prop :=
  Subsequence.fits cs (Path.lastName p) v = true ∨ Text.occurs v p = true

/-! ### Folders that are allowed -/

/-- A folder is allowed when one of the values is found in its path. -/
theorem allowsFolder_of_isFolder (hi : i.IsPlaced) (hfolder : i.isFolder = true) :
    s.allowsFolder i = true ↔ ∃ v ∈ s.query.allowFolders, Finds s.caseSensitive v i.path := by
  simp only [allowsFolder, hfolder, if_true, List.any_eq_true, Bool.or_eq_true,
    Item.matchName_of_isFolder hfolder, hi.name, fits, Finds]

/-- A file at the top lies in no folder that could be named. -/
theorem allowsFolder_of_root (hfile : i.isFolder = false) (hparent : i.parent = root) :
    s.allowsFolder i = false := by
  rw [allowsFolder, if_neg (by rw [hfile]; exact Bool.false_ne_true), if_pos hparent]

/-- A file is allowed for what stands in the path of its parent, or for a name in it. -/
theorem allowsFolder_of_file (hfile : i.isFolder = false) (hparent : i.parent ≠ root) :
    s.allowsFolder i = true ↔ ∃ v ∈ s.query.allowFolders, Text.occurs v i.parent = true ∨
      ∃ n ∈ Text.parts '/' i.parent, n ≠ [] ∧ Subsequence.fits s.caseSensitive n v = true := by
  simp only [allowsFolder, hfile, Bool.false_eq_true, if_false, hparent, List.any_eq_true,
    Bool.or_eq_true, List.mem_filter, Bool.not_eq_true', List.isEmpty_eq_false_iff, fits, and_assoc]

/-- Among the folders around what lies in a place, a value finds one exactly when it occurs in the
path of the place or fits one of the names on it. -/
theorem exists_finds_iff (hne : p ≠ []) (hroot : p ≠ root) :
    (∃ a, a ≠ [] ∧ a ≠ root ∧ (a = p ∨ IsBelow p a) ∧ Finds cs v a) ↔
      Text.occurs v p = true ∨
        ∃ n ∈ Text.parts '/' p, n ≠ [] ∧ Subsequence.fits cs n v = true := by
  constructor
  · rintro ⟨a, -, -, ha, hfits | hoccurs⟩
    · by_cases hv : v = []
      · exact .inl (hv ▸ Text.occurs_nil p)
      · -- an empty name is left out, but only the empty value fits it
        refine .inr ⟨Path.lastName a, Path.mem_parts_iff.mpr ⟨a, ha, rfl⟩, fun hname => hv ?_, hfits⟩
        rwa [hname, Subsequence.fits_nil_iff] at hfits
    · exact .inl (Text.occurs_of_prefix hoccurs (Path.prefix_of_eq_or_isBelow ha))
  · rintro (hoccurs | ⟨n, hn, hname, hfits⟩)
    · exact ⟨p, hne, hroot, .inl rfl, .inr hoccurs⟩
    · obtain ⟨a, ha, rfl⟩ := Path.mem_parts_iff.mp hn
      refine ⟨a, ?_, ?_, ha, .inl hfits⟩
      · rintro rfl
        exact hname rfl
      · rintro rfl
        exact hname rfl

/-- **What allows a file.**  A file is allowed exactly when some folder around it is, at any depth.
A file of the root is not allowed. -/
theorem allowsFolder_file_iff (s : Search) {f : Item} (hf : f.IsPlaced)
    (hfile : f.isFolder = false) :
    (s.allowsFolder f = true ↔ ∃ F : Item, F.IsPlaced ∧ F.isFolder = true ∧
      IsBelow f.path F.path ∧ s.allowsFolder F = true) ∧
    ∀ g : Item, g.isFolder = false → g.parent = root → s.allowsFolder g = false := by
  refine ⟨?_, fun g => allowsFolder_of_root⟩
  by_cases hparent : f.parent = root
  · rw [allowsFolder_of_root hfile hparent]
    refine iff_of_false Bool.false_ne_true ?_
    rintro ⟨F, hF, -, hbelow, -⟩
    rcases (hf.isBelow_iff hF.path_ne_nil hF.path_ne_root).mp hbelow with h | h
    · exact hF.path_ne_root (h.trans hparent)
    · rw [hparent, Path.isBelow_root_iff] at h
      exact hF.path_ne_nil h
  · rw [allowsFolder_of_file hfile hparent]
    constructor
    · rintro ⟨v, hv, h⟩
      obtain ⟨a, hne, hroot, ha, hfinds⟩ := (exists_finds_iff hf.parent_ne_nil hparent).mpr h
      have hF := Item.isPlaced_placed .folder hne hroot
      exact ⟨_, hF, rfl, (hf.isBelow_iff hne hroot).mpr ha,
        (allowsFolder_of_isFolder hF rfl).mpr ⟨v, hv, hfinds⟩⟩
    · rintro ⟨F, hF, hfolder, hbelow, hallowed⟩
      obtain ⟨v, hv, hfinds⟩ := (allowsFolder_of_isFolder hF hfolder).mp hallowed
      have hplace := (hf.isBelow_iff hF.path_ne_nil hF.path_ne_root).mp hbelow
      exact ⟨v, hv, (exists_finds_iff hf.parent_ne_nil hparent).mp
        ⟨F.path, hF.path_ne_nil, hF.path_ne_root, hplace, hfinds⟩⟩

/-- A folder in the root. -/
def archive : Item := .placed .folder "Archive".toList

/-- A file two folders below. -/
def oldNote : Item := .placed .file "Archive/2020/old.md".toList

theorem isPlaced_archive : archive.IsPlaced :=
  Item.isPlaced_placed .folder (by decide) (by decide)

theorem isPlaced_oldNote : oldNote.IsPlaced := Item.isPlaced_placed .file (by decide) (by decide)

theorem isBelow_oldNote : IsBelow oldNote.path archive.path := ⟨"2020/old.md".toList, rfl⟩

theorem allowsFolder_file_iff_oldNote :
    oldNote.IsPlaced ∧ oldNote.isFolder = false ∧
      (ofQuery { allowFolders := ["arch".toList] } false).allowsFolder oldNote = true := by
  have hfinds : (ofQuery { allowFolders := ["arch".toList] } false).allowsFolder archive = true := by
    decide +kernel
  exact ⟨isPlaced_oldNote, rfl, (allowsFolder_file_iff _ isPlaced_oldNote rfl).1.mpr
    ⟨archive, isPlaced_archive, rfl, isBelow_oldNote, hfinds⟩⟩

/-! ### Folders that are ruled out -/

/-- What stands in the path of an item rules it out. -/
theorem rulesOut_of_occurs (hv : v ∈ s.query.ruleOutPaths ++ s.query.ruleOutFolders)
    (h : Text.occurs v i.path = true) : s.rulesOut i = true := by
  rw [rulesOut, Bool.or_eq_true, Bool.or_eq_true]
  rcases List.mem_append.mp hv with hv | hv
  · exact .inl (.inl (List.any_eq_true.mpr ⟨v, hv, h⟩))
  · exact .inl (.inr (List.any_eq_true.mpr ⟨v, hv, by rw [h, Bool.or_true]⟩))

theorem accepts_of_rulesOut (h : s.rulesOut i = true) : s.accepts i = false := by
  simp [accepts, admits, h]

theorem rulesOut_of_onlyFolder (hs : s.query = { ruleOutFolders := [v] }) :
    s.rulesOut i = (s.fits i.matchName v || Text.occurs v i.path) := by
  simp [rulesOut, hs]

theorem accepts_of_onlyFolder (hs : s.query = { ruleOutFolders := [v] }) :
    s.accepts i = !s.rulesOut i := by
  simp [accepts, admits, gate, carries, hs]

/-- Making a query ready does not change it. -/
theorem query_of_prepare {q : Query} {cache : Regex.Cache}
    (h : (prepare q cs cache).1 = .ok s) : s.query = q ∧ s.caseSensitive = cs := by
  obtain ⟨ps, -, rfl⟩ := Except.map_eq_ok.mp h
  exact ⟨rfl, rfl⟩

/-- Three characters are more than two texts can end with. -/
theorem exists_other_end (x y : Option Char) :
    ∃ c, (c = 'a' ∨ c = 'b' ∨ c = 'c') ∧ some c ≠ x ∧ some c ≠ y := by
  by_cases ha : some 'a' ≠ x ∧ some 'a' ≠ y
  · exact ⟨'a', .inl rfl, ha⟩
  by_cases hb : some 'b' ≠ x ∧ some 'b' ≠ y
  · exact ⟨'b', .inr (.inl rfl), hb⟩
  · exact ⟨'c', .inr (.inr rfl), by grind⟩

/-- A text that does not end with the last character stands in front of it. -/
theorem infix_of_infix_concat {t : Text} {c : Char} (h : v <:+: t ++ [c])
    (hend : some c ≠ v.getLast?) : v <:+: t := by
  rcases List.infix_concat_iff.mp h with h | h
  · rcases List.suffix_concat_iff.mp h with rfl | ⟨u, rfl, -⟩
    · exact List.nil_infix
    · exact absurd List.getLast?_concat.symm hend
  · exact h

/-- **A name that a value misses**: below a folder in whose path a value does not occur, there is a
name that it does not fit, nor does it occur in the path with that name. -/
theorem exists_missed_name (hfits : Subsequence.fits cs (Path.lastName p) v = true)
    (hout : Text.occurs v p = false) :
    ∃ c, c ≠ '/' ∧ c ≠ '.' ∧ Subsequence.fits cs [c] v = false ∧
      Text.occurs v (p ++ ['/', c]) = false := by
  have hslash : '/' ∉ v := fun h => Path.slash_not_mem_lastName p
    (Subsequence.slash_mem_key_iff.mp
      ((Subsequence.fits_iff.mp hfits).subset (Subsequence.slash_mem_key_iff.mpr h)))
  have hne : v ≠ [] := by
    rintro rfl
    rw [Text.occurs_nil] at hout
    cases hout
  -- with such an ending the value can only stand in front of the name, and not reach into it
  obtain ⟨c, hc, hend, hkeyEnd⟩ :=
    exists_other_end v.getLast? (Subsequence.key cs v).getLast?
  obtain ⟨hother, hpoint, hkey⟩ : c ≠ '/' ∧ c ≠ '.' ∧ Subsequence.key cs [c] = [c] := by
    rcases hc with rfl | rfl | rfl <;> cases cs <;> decide +kernel
  refine ⟨c, hother, hpoint, ?_, ?_⟩
  · rw [Bool.eq_false_iff, ne_eq, Subsequence.fits_iff, hkey, List.sublist_singleton]
    rintro (h | h)
    · exact Subsequence.key_ne_nil cs hne h
    · rw [h] at hkeyEnd
      exact hkeyEnd rfl
  · rw [Bool.eq_false_iff, ne_eq, Text.occurs_iff] at hout ⊢
    intro h
    have hslashEnd : some '/' ≠ v.getLast? := fun h => hslash (List.mem_of_getLast? h.symm)
    rw [List.append_cons] at h
    exact hout (infix_of_infix_concat (infix_of_infix_concat h hend) hslashEnd)

/-- **A file that a value misses**: a value that rules a folder out by its name and does not occur in
its path does not rule out every file in it. -/
theorem exists_missed_file (hF : F.IsPlaced) (hfits : Subsequence.fits cs F.name v = true)
    (hout : Text.occurs v F.path = false) :
    ∃ i : Item, i.IsPlaced ∧ i.isFolder = false ∧ i.parent = F.path ∧ IsBelow i.path F.path ∧
      Subsequence.fits cs i.matchName v = false ∧ Text.occurs v i.path = false := by
  rw [hF.name] at hfits
  obtain ⟨c, hslash, hpoint, hname, hpath⟩ := exists_missed_name hfits hout
  have hslash : '/' ∉ [c] := mt List.mem_singleton.mp hslash.symm
  have hpoint : '.' ∉ [c] := mt List.mem_singleton.mp hpoint.symm
  have hroot : F.path ++ ['/', c] ≠ root := fun h => hF.path_ne_nil (by
    have hlength := congrArg List.length h
    simp [root] at hlength)
  have hi := Item.isPlaced_placed .file (List.append_ne_nil_of_right_ne_nil _ (by simp)) hroot
  have hiName : (Item.placed .file (F.path ++ ['/', c])).name = [c] := by
    rw [hi.name]
    exact (Path.lastName_append _ [c]).trans (Path.lastName_of_not_mem hslash)
  refine ⟨_, hi, rfl, ?_, ⟨[c], by simp [Item.placed]⟩, ?_, hpath⟩
  · rw [hi.parent_eq]
    exact (Path.parent_append _ hslash).trans (if_neg hF.path_ne_nil)
  · rw [Item.matchName_of_not_mem (by rwa [hiName]), hiName]
    exact hname

end Search

namespace Filter

open TreeSieve.Path (root ancestors IsBelow)
open TreeSieve.Search (archive oldNote isPlaced_archive isPlaced_oldNote isBelow_oldNote)

variable {s : Search} {items : List Item} {p v : Text} {x F i : Item}

/-- No item with the path or below it is accepted. -/
def Barren (s : Search) (items : List Item) (p : Text) : Prop :=
  ∀ i ∈ items, i.path = p ∨ IsBelow i.path p → s.accepts i = false

namespace Barren

/-- Nothing at or below a barren path is found as a folder. -/
theorem not_mem_matchedFolders {a : Text} (h : Barren s items p) (ha : a = p ∨ IsBelow a p) :
    a ∉ matchedFolders s items := by
  intro hmem
  obtain ⟨i, hi, rfl, -, -, haccepts⟩ := mem_matchedFolders.mp hmem
  rw [h i hi ha] at haccepts
  cases haccepts

/-- Nothing at or below a barren path is found as a file. -/
theorem not_mem_matchedFiles {a : Text} (h : Barren s items p) (ha : a = p ∨ IsBelow a p) :
    a ∉ matchedFiles s items := by
  intro hmem
  obtain ⟨i, hi, rfl⟩ := List.mem_map.mp hmem
  obtain ⟨hi, -, -, haccepts⟩ := mem_acceptedFiles.mp hi
  rw [h i hi ha] at haccepts
  cases haccepts

/-- Nothing at or below a barren path is a match. -/
theorem isDirect_verdict (h : Barren s items p) (hx : x.path = p ∨ IsBelow x.path p) :
    (verdict s items x).isDirect = false := by
  rw [Bool.eq_false_iff, ne_eq, Filter.isDirect_verdict]
  exact not_or.mpr ⟨h.not_mem_matchedFolders hx, h.not_mem_matchedFiles hx⟩

/-- Nothing below leads to the path. -/
theorem not_mem_onTheWay (h : Barren s items p) (hne : p ≠ []) (hroot : p ≠ root)
    (hitems : ∀ i ∈ items, i.path ≠ root → i.IsPlaced) : p ∉ onTheWay s items := by
  have hplaces : ∀ a ∈ matchedPlaces s items, ¬(p = a ∨ IsBelow a p) := by
    rintro _ ha hp
    obtain ⟨i, hi, rfl⟩ := List.mem_map.mp ha
    obtain ⟨hmem, hpath, -⟩ := mem_acceptedFiles.mp hi
    have hbelow := ((hitems i hmem hpath).isBelow_iff hne hroot).mpr hp
    exact h.not_mem_matchedFiles (.inr hbelow) (List.mem_map_of_mem hi)
  intro hway
  rcases mem_onTheWay.mp hway with hp | ⟨a, ha, hp⟩ | ⟨a, ha, hp⟩
  · exact hplaces p hp (.inl rfl)
  · exact hplaces a ha (.inr ((Path.mem_ancestors_iff hne hroot).mp hp))
  · exact h.not_mem_matchedFolders (.inr ((Path.mem_ancestors_iff hne hroot).mp hp)) ha

/-- A barren path leads to no match either. -/
theorem kind_verdict (h : Barren s items x.path) (hx : x.path ≠ []) (hroot : x.path ≠ root)
    (hitems : ∀ i ∈ items, i.path ≠ root → i.IsPlaced) : (verdict s items x).kind = .none := by
  rw [verdict, if_neg (h.not_mem_matchedFolders (.inl rfl)),
    if_neg (h.not_mem_matchedFiles (.inl rfl)),
    if_neg fun hway => h.not_mem_onTheWay hx hroot hitems hway.2]
  split <;> rfl

end Barren

/-- A folder that is not accepted, with an accepted file in it: the folder is shown for the file. -/
theorem decide_folder_file (hfolder : F.isFolder = true) (hF : s.accepts F = false)
    (hi : i.IsPlaced) (hfile : i.isFolder = false) (haccepts : s.accepts i = true)
    (hparent : i.parent = F.path) (hne : F.path ≠ i.path) :
    (decide s [F, i]).get? i.path = some .fileMatch ∧
      (decide s [F, i]).get? F.path = some .containsMatch := by
  have hfolders : matchedFolders s [F, i] = [] := by simp [matchedFolders, hF, hfile]
  have hfiles : acceptedFiles s [F, i] = [i] := by
    simp [acceptedFiles, hF, hfile, haccepts, Item.isRoot, hi.path_ne_root]
  have hiVerdict : verdict s [F, i] i = .fileMatch := by
    simp [verdict, hfolders, matchedFiles, hfiles]
  have hFVerdict : verdict s [F, i] F = .containsMatch := by
    simp [verdict, hfolders, matchedFiles, hfiles, hne, hfolder, onTheWay, matchedPlaces, hparent]
  rw [get?_decide, get?_decide]
  constructor
  · simp [hne, hiVerdict]
  · simp [hne.symm, hFVerdict]

/-- **What goes with a folder that is ruled out.**  When a value for paths or folders occurs in the
path of a folder, everything below it is ruled out: nothing below matches, and the folder is not
shown for what it holds, in any pass that does not stumble.

When a value for folders fits the name of a folder and does not occur in its path, the folder is
ruled out and some file in it is not.  A pass of that value alone finds the file, and shows the
folder for it. -/
theorem contents_ruledOut (settings : Settings) (hF : F.IsPlaced) (hfolder : F.isFolder = true) :
    (∀ (items : List Item) (q : Query) (cache : Regex.Cache), q.isBlank = false →
      Search.Readable q settings.caseSensitive →
      (∃ v ∈ q.ruleOutPaths ++ q.ruleOutFolders, Text.occurs v F.path = true) →
      (∀ i ∈ items, i.path ≠ root → i.IsPlaced) →
      ∃ s, (Search.prepare q settings.caseSensitive cache).1 = .ok s ∧
        (∀ i : Item, IsBelow i.path F.path → s.rulesOut i = true) ∧
        (s.StumblesNowhere items → ∃ m, (evaluate settings items q cache).1 = .ok m ∧
          (∀ p d, IsBelow p F.path → m.get? p = some d → d.isDirect = false) ∧
          ∀ d, m.get? F.path = some d → d.kind = .none)) ∧
    ∀ (v : Text) (cache : Regex.Cache), Subsequence.fits settings.caseSensitive F.name v = true →
      Text.occurs v F.path = false →
      ∃ i s m, i.IsPlaced ∧ i.isFolder = false ∧ IsBelow i.path F.path ∧
        (Search.prepare { ruleOutFolders := [v] } settings.caseSensitive cache).1 = .ok s ∧
        (evaluate settings [F, i] { ruleOutFolders := [v] } cache).1 = .ok m ∧
        s.rulesOut F = true ∧ s.rulesOut i = false ∧
        m.get? i.path = some .fileMatch ∧ m.get? F.path = some .containsMatch := by
  constructor
  · rintro items q cache hq hr ⟨v, hv, hoccurs⟩ hitems
    obtain ⟨s, hs⟩ := Search.prepare_of_readable cache hr
    obtain ⟨rfl, -⟩ := Search.query_of_prepare hs
    have hout : ∀ i : Item, i.path = F.path ∨ IsBelow i.path F.path → s.rulesOut i = true := by
      intro i hi
      have hprefix := Path.prefix_of_eq_or_isBelow (hi.imp_left Eq.symm)
      exact Search.rulesOut_of_occurs hv (Text.occurs_of_prefix hoccurs hprefix)
    have hbarren : Barren s items F.path := fun i _ hi => Search.accepts_of_rulesOut (hout i hi)
    refine ⟨s, hs, fun i hi => hout i (.inr hi), fun hclear => ⟨decide s items,
      evaluate_of_stumblesNowhere hq hs hclear, fun p d hp hd => ?_, fun d hd => ?_⟩⟩
    · obtain ⟨x, -, rfl, rfl⟩ := verdict_of_get? hd
      exact hbarren.isDirect_verdict (.inr hp)
    · obtain ⟨x, -, hx, rfl⟩ := verdict_of_get? hd
      rw [← hx] at hbarren
      exact hbarren.kind_verdict (hx ▸ hF.path_ne_nil) (hx ▸ hF.path_ne_root) hitems
  · intro v cache hfits hout
    obtain ⟨i, hi, hfile, hparent, hbelow, hname, hpath⟩ := Search.exists_missed_file hF hfits hout
    have hs := congrArg Prod.fst (Search.prepare_of_no_patterns
      (show ({ ruleOutFolders := [v] } : Query).patterns = [] from rfl) settings.caseSensitive cache)
    generalize hsearch : Search.ofQuery { ruleOutFolders := [v] } settings.caseSensitive = s at hs
    obtain ⟨hquery, hcs⟩ := Search.query_of_prepare hs
    have hFOut : s.rulesOut F = true := by
      rw [Search.rulesOut_of_onlyFolder hquery, Search.fits, hcs,
        Item.matchName_of_isFolder hfolder, hfits, Bool.true_or]
    have hiOut : s.rulesOut i = false := by
      rw [Search.rulesOut_of_onlyFolder hquery, Search.fits, hcs, hname, hpath, Bool.or_false]
    have hiAccepts : s.accepts i = true := by
      rw [Search.accepts_of_onlyFolder hquery, hiOut, Bool.not_false]
    have hclear : s.StumblesNowhere [F, i] := hsearch ▸
      Search.stumblesNowhere_of_groups (fun _ hp => absurd hp List.not_mem_nil) _
    obtain ⟨hgetFile, hgetFolder⟩ := decide_folder_file hfolder (Search.accepts_of_rulesOut hFOut)
      hi hfile hiAccepts hparent (Path.ne_of_isBelow hbelow)
    exact ⟨i, s, _, hi, hfile, hbelow, hs, evaluate_of_stumblesNowhere rfl hs hclear, hFOut, hiOut,
      hgetFile, hgetFolder⟩

theorem contents_ruledOut_archive :
    archive.IsPlaced ∧ archive.isFolder = true ∧
      (∃ m, (evaluate {} [archive, oldNote] { ruleOutPaths := ["Arch".toList] } []).1 = .ok m ∧
        ∀ d, m.get? oldNote.path = some d → d.isDirect = false) ∧
      ∃ i m, IsBelow i.path archive.path ∧
        (evaluate {} [archive, i] { ruleOutFolders := ["arch".toList] } []).1 = .ok m ∧
        m.get? archive.path = some .containsMatch := by
  obtain ⟨hcontents, hleft⟩ := contents_ruledOut {} isPlaced_archive rfl
  refine ⟨isPlaced_archive, rfl, ?_, ?_⟩
  · obtain ⟨s, hs, -, hmap⟩ := hcontents [archive, oldNote]
      { ruleOutPaths := ["Arch".toList] } [] rfl (fun _ h => absurd h List.not_mem_nil)
      ⟨"Arch".toList, by decide, by decide⟩
      (List.forall_mem_cons.mpr ⟨fun _ => isPlaced_archive,
        List.forall_mem_singleton.mpr fun _ => isPlaced_oldNote⟩)
    cases hs
    obtain ⟨m, hm, hdirect, -⟩ := hmap
      (Search.stumblesNowhere_of_groups (fun _ hp => absurd hp List.not_mem_nil) _)
    exact ⟨m, hm, fun d => hdirect oldNote.path d isBelow_oldNote⟩
  · obtain ⟨i, -, m, -, -, hbelow, -, hm, -, -, -, hfolder⟩ :=
      hleft "arch".toList [] (by decide +kernel) (by decide +kernel)
    exact ⟨i, m, hbelow, hm, hfolder⟩

/-- A folder that is ruled out by its name, and a file below that is not: the file is found, and the
folder is shown for it. -/
theorem contents_left :
    archive.IsPlaced ∧ oldNote.IsPlaced ∧ IsBelow oldNote.path archive.path ∧
      (Search.ofQuery { ruleOutFolders := ["archive".toList] } false).rulesOut archive = true ∧
      (Search.ofQuery { ruleOutFolders := ["archive".toList] } false).rulesOut oldNote = false ∧
      (evaluate {} [archive, oldNote] { ruleOutFolders := ["archive".toList] } []).1 =
        .ok [(archive.path, .containsMatch), (oldNote.path, .fileMatch)] :=
  ⟨isPlaced_archive, isPlaced_oldNote, isBelow_oldNote, by decide +kernel⟩

end Filter

end TreeSieve
