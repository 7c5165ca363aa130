import Mathlib.Data.List.Flatten
import TreeSieve.Proofs.Containment
import TreeSieve.Proofs.Subsequence
import TreeSieve.Search

/-!
# Proofs — Casing

What becomes of a match when case does not count.

A text is put in lower case as a whole, and a capital sigma in it by what stands around that: `ΑΣ` is
`ας`, but `ΑΣΑ` is `ασα`.  So a part of a text may have another lower case within the text than by
itself (`lowerIn`).  The difference is in the form of its sigmas (`lowerIn_eq_of_forms`), for which only
the nearest letter on each side counts (`lowerIn_congr`, `lowerIn_sigma`).

* `lowerFrom_sublist`: **what has no capital sigma** stays a subsequence in lower case.
* `IsSettled.lowerIn_eq`: a text in which no sigma looks beyond it has one lower case everywhere.
* `ignoringCase_keeps_iff`: the patterns and the phrases whose matches are all kept, and what is kept
  of the others.
-/

namespace TreeSieve.Text

variable {before before' after after' t u v x y x' y' : Text} {c m m' : Char}

/-! ### What a sigma sees -/

/-- The form that a capital sigma takes in lower case. -/
def sigmaForm (before after : Text) : Char := if sigmaEndsWord before after then 'ς' else 'σ'

/-- A capital sigma takes the form for its place. -/
theorem lowerAt_sigma (before after : Text) : lowerAt before 'Σ' after = [sigmaForm before after] :=
  rfl

/-- For any other character the place does not matter. -/
theorem lowerAt_eq_of_ne (hc : c ≠ 'Σ') : lowerAt before c after = lowerAt before' c after' := by
  rw [lowerAt, lowerAt, if_neg hc, if_neg hc]

theorem meetsCased_cons :
    meetsCased (c :: t) = if isCaseIgnorable c then meetsCased t else isCased c := by
  by_cases hc : isCaseIgnorable c <;> simp [meetsCased, hc]

/-- Only a text of nothing but characters that are looked through lets what is behind it be seen. -/
theorem meetsCased_append (t u : Text) :
    meetsCased (t ++ u) = if t.all isCaseIgnorable then meetsCased u else meetsCased t := by
  induction t with
  | nil => rfl
  | cons c t ih =>
    rw [List.cons_append, meetsCased_cons, ih, meetsCased_cons, List.all_cons]
    cases isCaseIgnorable c <;> rfl

/-- What is met behind a text depends on what is met behind its end. -/
theorem meetsCased_append_congr (h : meetsCased u = meetsCased v) (t : Text) :
    meetsCased (t ++ u) = meetsCased (t ++ v) := by
  rw [meetsCased_append, meetsCased_append, h]

/-- Characters that are passed over meet nothing. -/
theorem meetsCased_of_all (h : t.all isCaseIgnorable = true) : meetsCased t = false := by
  rw [meetsCased, List.dropWhile_eq_nil_iff.mpr (List.all_eq_true.mp h)]

/-- A cased character that is met is met whatever stands behind. -/
theorem meetsCased_append_of_meetsCased (h : meetsCased t = true) (u : Text) :
    meetsCased (t ++ u) = true := by
  rw [meetsCased_append, if_neg, h]
  intro hall
  rw [meetsCased_of_all hall] at h
  cases h

/-- What the tables say of the sigma and of the characters that are put next to it below: a letter and
a blank. -/
theorem casing_of_sigma_alpha_blank :
    (isCaseIgnorable 'Σ' = false ∧ isCased 'Σ' = true) ∧
    (isCaseIgnorable 'α' = false ∧ isCased 'α' = true ∧ lowerChar 'α' = 'α') ∧
    isCaseIgnorable ' ' = false ∧ isCased ' ' = false := by
  set_option maxRecDepth 10000 in decide

theorem meetsCased_sigma (t : Text) : meetsCased ('Σ' :: t) = true := by
  obtain ⟨⟨hseen, hcased⟩, -⟩ := casing_of_sigma_alpha_blank
  rw [meetsCased_cons, hseen, if_neg Bool.false_ne_true, hcased]

theorem meetsCased_alpha (t : Text) : meetsCased ('α' :: t) = true := by
  obtain ⟨-, ⟨hseen, hcased, -⟩, -⟩ := casing_of_sigma_alpha_blank
  rw [meetsCased_cons, hseen, if_neg Bool.false_ne_true, hcased]

theorem meetsCased_blank (t : Text) : meetsCased (' ' :: t) = false := by
  obtain ⟨-, -, hseen, hcased⟩ := casing_of_sigma_alpha_blank
  rw [meetsCased_cons, hseen, if_neg Bool.false_ne_true, hcased]

/-- A sigma is not looked through. -/
theorem sigma_not_mem (h : t.all isCaseIgnorable = true) : 'Σ' ∉ t := by
  intro hmem
  have hignored := List.all_eq_true.mp h 'Σ' hmem
  rw [casing_of_sigma_alpha_blank.1.1] at hignored
  cases hignored

/-- The form of a sigma depends on whether cased characters are met on the two sides. -/
theorem sigmaForm_congr (hbefore : meetsCased before = meetsCased before')
    (hafter : meetsCased after = meetsCased after') :
    sigmaForm before after = sigmaForm before' after' := by
  rw [sigmaForm, sigmaForm, sigmaEndsWord, sigmaEndsWord, hbefore, hafter]

/-- At the end of a word the sigma is final. -/
theorem sigmaForm_of_word (hbefore : meetsCased before = true) (hafter : meetsCased after = false) :
    sigmaForm before after = 'ς' := by
  rw [sigmaForm, sigmaEndsWord, hbefore, hafter]
  rfl

/-- A sigma with a cased character behind it is not final. -/
theorem sigmaForm_of_after (h : meetsCased after = true) : sigmaForm before after = 'σ' := by
  rw [sigmaForm, sigmaEndsWord, h, Bool.not_true, Bool.and_false, if_neg Bool.false_ne_true]

theorem sigmaForm_of_before (h : meetsCased before = false) : sigmaForm before after = 'σ' := by
  rw [sigmaForm, sigmaEndsWord, h, Bool.false_and, if_neg Bool.false_ne_true]

/-- Whether the form of a sigma is fixed by what stands next to it, whatever is further away: by a letter
behind it, by something without case in front of it, or by something that is not looked through on
either side. -/
def fixesSigma (before after : Text) : Bool :=
  meetsCased after ||
    !before.all isCaseIgnorable && (!meetsCased before || !after.all isCaseIgnorable)

/-- A sigma that is fixed keeps its form in any surroundings. -/
theorem sigmaForm_append (h : fixesSigma before after = true) (x y : Text) :
    sigmaForm (before ++ x) (after ++ y) = sigmaForm before after := by
  simp only [fixesSigma, Bool.or_eq_true, Bool.and_eq_true, Bool.not_eq_true'] at h
  obtain hafter | ⟨hfront, hbefore | hback⟩ := h
  · rw [sigmaForm_of_after (meetsCased_append_of_meetsCased hafter y), sigmaForm_of_after hafter]
  · rw [sigmaForm_of_before hbefore, sigmaForm_of_before]
    rw [meetsCased_append, hfront, if_neg Bool.false_ne_true, hbefore]
  · refine sigmaForm_congr ?_ ?_
    · rw [meetsCased_append, hfront, if_neg Bool.false_ne_true]
    · rw [meetsCased_append, hback, if_neg Bool.false_ne_true]

/-- A sigma whose form is not fixed takes the other form when a letter comes to one of its sides, behind
nothing but characters that are looked through. -/
theorem sigmaForm_other (h : fixesSigma before after = false) :
    (before.all isCaseIgnorable = true ∧ sigmaForm before after = 'σ' ∧
      sigmaForm (before ++ ['α']) after = 'ς') ∨
    (after.all isCaseIgnorable = true ∧ sigmaForm before after = 'ς' ∧
      sigmaForm before (after ++ ['α']) = 'σ') := by
  simp only [fixesSigma, Bool.or_eq_false_iff, Bool.and_eq_false_iff, Bool.not_eq_false'] at h
  obtain ⟨hafter, hfront | ⟨hbefore, hback⟩⟩ := h
  · have hletter : meetsCased (before ++ ['α']) = true := by
      rw [meetsCased_append, if_pos hfront, meetsCased_alpha]
    exact .inl ⟨hfront, sigmaForm_of_before (meetsCased_of_all hfront),
      sigmaForm_of_word hletter hafter⟩
  · have hletter : meetsCased (after ++ ['α']) = true := by
      rw [meetsCased_append, if_pos hback, meetsCased_alpha]
    exact .inr ⟨hback, sigmaForm_of_word hbefore hafter, sigmaForm_of_after hletter⟩

/-! ### The parts of a text in lower case -/

/-- The lower case of a text between `before` (nearest character first) and `after`. -/
def lowerIn (before : Text) : (t after : Text) → Text
  | [], _ => []
  | c :: cs, after => lowerAt before c (cs ++ after) ++ lowerIn (c :: before) cs after

theorem lowerIn_nil_right (before t : Text) : lowerIn before t [] = lowerFrom before t := by
  induction t generalizing before with
  | nil => rfl
  | cons c t ih => rw [lowerIn, lowerFrom, ih, List.append_nil]

/-- A text in its surroundings is put in lower case part by part. -/
theorem lowerIn_append (before t u after : Text) : lowerIn before (t ++ u) after =
    lowerIn before t (u ++ after) ++ lowerIn (t.reverse ++ before) u after := by
  induction t generalizing before with
  | nil => rfl
  | cons c t ih =>
    rw [List.cons_append, lowerIn, ih, lowerIn, List.reverse_cons, List.append_assoc,
      List.append_assoc, List.append_assoc, List.singleton_append]

theorem lower_eq_lowerIn (t : Text) : lower t = lowerIn [] t [] := (lowerIn_nil_right [] t).symm

/-- What stands around a text counts only for the forms of its sigmas. -/
theorem lowerIn_eq_of_forms (h : ∀ u v, t = u ++ 'Σ' :: v →
      sigmaForm (u.reverse ++ before) (v ++ after) =
        sigmaForm (u.reverse ++ before') (v ++ after')) :
    lowerIn before t after = lowerIn before' t after' := by
  induction t generalizing before before' with
  | nil => rfl
  | cons c t ih =>
    have hrest : lowerIn (c :: before) t after = lowerIn (c :: before') t after' := by
      refine ih fun u v ht => ?_
      have hforms := h (c :: u) v (by rw [ht, List.cons_append])
      simpa using hforms
    rw [lowerIn, lowerIn, hrest]
    by_cases hc : c = 'Σ'
    · subst hc
      rw [lowerAt_sigma, lowerAt_sigma, show sigmaForm before (t ++ after) = _ from h [] t rfl]
      rfl
    · rw [lowerAt_eq_of_ne hc]

/-- Surroundings that meet alike do the same to a text. -/
theorem lowerIn_congr (hbefore : meetsCased before = meetsCased before')
    (hafter : meetsCased after = meetsCased after') :
    lowerIn before t after = lowerIn before' t after' :=
  lowerIn_eq_of_forms fun u v _ => sigmaForm_congr (meetsCased_append_congr hbefore u.reverse)
    (meetsCased_append_congr hafter v)

/-- A text without capital sigma has one lower case in all surroundings. -/
theorem lowerIn_eq_of_not_mem (h : 'Σ' ∉ t) :
    lowerIn before t after = lowerIn before' t after' :=
  lowerIn_eq_of_forms fun u _ ht => absurd (ht ▸ List.mem_append_right u List.mem_cons_self) h

/-- A text around one of its sigmas: a sigma is a letter to what stands on either side of it. -/
theorem lowerIn_sigma (before u v after : Text) : lowerIn before (u ++ 'Σ' :: v) after =
    lowerIn before u ['Σ'] ++
      sigmaForm (u.reverse ++ before) (v ++ after) :: lowerIn ['Σ'] v after := by
  have hu : lowerIn before u ('Σ' :: v ++ after) = lowerIn before u ['Σ'] :=
    lowerIn_congr rfl ((meetsCased_sigma _).trans (meetsCased_sigma []).symm)
  have hv : lowerIn ('Σ' :: (u.reverse ++ before)) v after = lowerIn ['Σ'] v after :=
    lowerIn_congr ((meetsCased_sigma _).trans (meetsCased_sigma []).symm) rfl
  rw [lowerIn_append, lowerIn, lowerAt_sigma, List.singleton_append, hu, hv]

/-! ### Matches that are kept -/

/-- **What has no capital sigma** is a subsequence in lower case of whatever it is one of. -/
theorem lowerFrom_sublist (h : t.Sublist u) (hsigma : 'Σ' ∉ t) :
    (lowerFrom before t).Sublist (lowerFrom before' u) := by
  induction h generalizing before before' with
  | slnil => exact List.Sublist.refl []
  | cons c _ ih => exact (ih hsigma).trans (List.sublist_append_right _ _)
  | cons_cons c _ ih =>
    obtain ⟨hc, ht⟩ := not_or.mp (mt List.mem_cons.mpr hsigma)
    rw [lowerFrom, lowerFrom, lowerAt_eq_of_ne (Ne.symm hc)]
    exact (ih ht).append_left _

/-- No sigma of the text takes another form for what stands around the text. -/
def IsSettled (t : Text) : Prop :=
  ∀ u v, t = u ++ 'Σ' :: v → ∀ before after,
    sigmaForm (u.reverse ++ before) (v ++ after) = sigmaForm u.reverse v

/-- Each sigma of a settled text is fixed inside the text. -/
theorem IsSettled.fixesSigma (h : IsSettled t) (ht : t = u ++ 'Σ' :: v) :
    fixesSigma u.reverse v = true := by
  by_contra hfixes
  obtain ⟨-, hform, hother⟩ | ⟨-, hform, hother⟩ := sigmaForm_other (Bool.not_eq_true _ ▸ hfixes)
  · have hsame := h u v ht ['α'] []
    rw [List.append_nil, hform, hother] at hsame
    exact absurd hsame (by decide)
  · have hsame := h u v ht [] ['α']
    rw [List.append_nil, hform, hother] at hsame
    exact absurd hsame (by decide)

/-- Whether a text is settled is told by its sigmas, one by one. -/
theorem isSettled_iff : IsSettled t ↔
    ∀ k < t.length, t[k]? = some 'Σ' → fixesSigma (t.take k).reverse (t.drop (k + 1)) = true := by
  constructor
  · intro h k _ hsigma
    obtain ⟨_, hget⟩ := List.getElem?_eq_some_iff.mp hsigma
    refine h.fixesSigma ?_
    rw [← hget, List.getElem_cons_drop, List.take_append_drop]
  · rintro h u v rfl before after
    have hfixes := h u.length (by simp) (by simp)
    exact sigmaForm_append (by simpa using hfixes) before after

instance : DecidablePred IsSettled := fun _ => decidable_of_iff' _ isSettled_iff

/-- A settled text has one lower case in all surroundings. -/
theorem IsSettled.lowerIn_eq (h : IsSettled t) (before after : Text) :
    lowerIn before t after = lower t := by
  rw [lower_eq_lowerIn]
  exact lowerIn_eq_of_forms fun u v ht => by
    rw [h u v ht, List.append_nil, List.append_nil]

/-- **A settled text is found again** in the lower case of every text around it. -/
theorem IsSettled.lower_infix (h : IsSettled t) (htu : t <:+: u) : lower t <:+: lower u := by
  obtain ⟨x, y, rfl⟩ := htu
  refine ⟨lowerIn [] x (t ++ y), lowerIn (t.reverse ++ x.reverse) y [], ?_⟩
  rw [lower_eq_lowerIn (x ++ t ++ y), List.append_assoc x t y, lowerIn_append, lowerIn_append,
    List.append_nil, List.append_nil, List.append_nil, h.lowerIn_eq, List.append_assoc]

/-- A character, with the final sigma taken for the other form. -/
def sigmaBlind (c : Char) : Char := if c = 'ς' then 'σ' else c

/-- But for the form of the sigma, the surroundings do not matter. -/
theorem map_lowerAt (before : Text) (c : Char) (after : Text) :
    (lowerAt before c after).map sigmaBlind = (lowerAt [] c []).map sigmaBlind := by
  by_cases hc : c = 'Σ'
  · rw [hc, lowerAt_sigma, lowerAt_sigma, sigmaForm]
    split <;> rfl
  · rw [lowerAt_eq_of_ne hc]

/-- Up to the forms of sigmas, each character has one lower case. -/
theorem map_lowerFrom (before t : Text) :
    (lowerFrom before t).map sigmaBlind = t.flatMap fun c => (lowerAt [] c []).map sigmaBlind := by
  induction t generalizing before with
  | nil => rfl
  | cons c t ih => rw [lowerFrom, List.map_append, ih, map_lowerAt, List.flatMap_cons]

/-! ### Matches that are lost -/

/-- Texts around two different forms: the count of the one form tells them apart. -/
theorem not_sublist_of_count (hm : m' ≠ m) (hx : x'.count m ≤ x.count m)
    (hy : y'.count m ≤ y.count m) : ¬(x ++ m :: y).Sublist (x' ++ m' :: y') := by
  intro h
  have hle := h.count_le m
  simp only [List.count_append, List.count_cons_self, List.count_cons_of_ne hm] at hle
  omega

theorem lower_sigma (u v : Text) : lower (u ++ 'Σ' :: v) =
    lowerIn [] u ['Σ'] ++ sigmaForm u.reverse v :: lowerIn ['Σ'] v [] := by
  rw [lower_eq_lowerIn, lowerIn_sigma, List.append_nil, List.append_nil]

theorem lowerAt_alpha (before after : Text) : lowerAt before 'α' after = ['α'] := by
  obtain ⟨-, ⟨-, -, hlower⟩, -⟩ := casing_of_sigma_alpha_blank
  rw [lowerAt, if_neg (by decide), if_neg (by decide), hlower]

/-- A letter is all that is seen on either side of it. -/
theorem lowerIn_alpha (before t after : Text) :
    lowerIn before ('α' :: t) after = 'α' :: lowerIn ['Σ'] t after := by
  rw [lowerIn, lowerAt_alpha, List.singleton_append,
    lowerIn_congr ((meetsCased_alpha before).trans (meetsCased_sigma []).symm) rfl]

theorem lowerIn_concat_alpha (before t after : Text) :
    lowerIn before (t ++ ['α']) after = lowerIn before t ['Σ'] ++ ['α'] := by
  have hseen : lowerIn before t (['α'] ++ after) = lowerIn before t ['Σ'] :=
    lowerIn_congr rfl ((meetsCased_alpha after).trans (meetsCased_sigma []).symm)
  rw [lowerIn_append, lowerIn_alpha, lowerIn, hseen]

theorem lowerIn_blank (before t after : Text) :
    lowerIn before (' ' :: t) after = ' ' :: lowerIn (' ' :: before) t after := rfl

/-- A text with a capital sigma is lost in some text that it is a subsequence of: letters put next to
the sigma give it the other form. -/
theorem exists_lost (h : 'Σ' ∈ t) : ∃ u, t.Sublist u ∧ ¬(lower t).Sublist (lower u) := by
  obtain ⟨u, v, rfl⟩ := List.append_of_mem h
  rw [lower_sigma]
  have hu : u.Sublist (u ++ ['α']) := List.sublist_append_left u _
  cases hends : sigmaEndsWord u.reverse v with
  | true =>
    -- a letter behind the sigma joins it to a word that goes on
    refine ⟨(u ++ ['α']) ++ 'Σ' :: 'α' :: v,
      hu.append ((List.sublist_cons_self 'α' v).cons_cons 'Σ'), ?_⟩
    rw [lower_sigma, lowerIn_concat_alpha, lowerIn_alpha, sigmaForm_of_after (meetsCased_alpha v),
      sigmaForm, hends, if_pos rfl]
    exact not_sublist_of_count (by decide) (by simp) (by simp)
  | false =>
    -- between a letter and a blank the sigma ends a word
    refine ⟨(u ++ ['α']) ++ 'Σ' :: ' ' :: 'α' :: v,
      hu.append (((List.sublist_cons_self 'α' v).cons ' ').cons_cons 'Σ'), ?_⟩
    rw [lower_sigma, lowerIn_concat_alpha, lowerIn_blank, lowerIn_alpha, List.reverse_concat,
      sigmaForm_of_word (meetsCased_alpha _) (meetsCased_blank _), sigmaForm, hends,
      if_neg Bool.false_ne_true]
    exact not_sublist_of_count (by decide) (by simp) (by simp)

/-- A text that is not settled is lost with a letter put in front of it or behind it. -/
theorem exists_lost_part (h : ¬IsSettled t) : ∃ u, t <:+: u ∧ ¬(lower t).Sublist (lower u) := by
  obtain ⟨u, v, rfl, hfixes⟩ : ∃ u v, t = u ++ 'Σ' :: v ∧ fixesSigma u.reverse v = false := by
    by_contra hall
    push Not at hall
    exact h fun u v ht => sigmaForm_append (Bool.not_eq_false _ ▸ hall u v ht)
  rw [lower_sigma]
  obtain ⟨hfront, hform, hother⟩ | ⟨hback, hform, hother⟩ := sigmaForm_other hfixes
  · have hu : lowerIn ['Σ'] u ['Σ'] = lowerIn [] u ['Σ'] :=
      lowerIn_eq_of_not_mem (mt List.mem_reverse.mpr (sigma_not_mem hfront))
    refine ⟨('α' :: u) ++ 'Σ' :: v, ⟨['α'], [], by simp⟩, ?_⟩
    rw [lower_sigma, lowerIn_alpha, hu, List.reverse_cons, hform, hother]
    exact not_sublist_of_count (by decide) (by simp) (Nat.le_refl _)
  · have hv : lowerIn ['Σ'] v ['Σ'] = lowerIn ['Σ'] v [] :=
      lowerIn_eq_of_not_mem (sigma_not_mem hback)
    refine ⟨u ++ 'Σ' :: (v ++ ['α']), ⟨[], ['α'], by simp⟩, ?_⟩
    rw [lower_sigma, lowerIn_concat_alpha, hv, hform, hother]
    exact not_sublist_of_count (by decide) (Nat.le_refl _) (by simp)

end TreeSieve.Text

namespace TreeSieve.Search

open Text (IsSettled lower sigmaBlind)

/-- The search for a phrase and nothing else. -/
def forPhrase (phrase : Text) : Search := ⟨{ phrases := [phrase] }, false, []⟩

/-- A search for one phrase finds it in the lower case of the name. -/
theorem hasPhrase_forPhrase {i : Item} {phrase : Text} :
    (forPhrase phrase).hasPhrase i = true ↔ lower phrase <:+: lower i.matchName := by
  rw [hasPhrase, forPhrase, List.any_cons, List.any_nil, Bool.or_false, Text.occurs_iff]

/-- A pattern keeps all its texts just when it has no capital sigma. -/
theorem forall_fits_iff {pattern : Text} :
    (∀ text, Subsequence.fits true text pattern = true →
      Subsequence.fits false text pattern = true) ↔ 'Σ' ∉ pattern := by
  constructor
  · intro h hsigma
    obtain ⟨text, hsub, hlost⟩ := Text.exists_lost hsigma
    exact hlost (Subsequence.fits_iff.mp (h text (Subsequence.fits_iff.mpr hsub)))
  · intro hsigma text h
    exact Subsequence.fits_iff.mpr (Text.lowerFrom_sublist (Subsequence.fits_iff.mp h) hsigma)

/-- A phrase keeps all its items just when it is settled. -/
theorem forall_gate_iff {phrase : Text} :
    (∀ (s : Search) (i : Item), phrase ∈ s.query.phrases → phrase <:+: i.matchName →
      gate s.query.phrases (s.hasPhrase i) = true) ↔ IsSettled phrase := by
  constructor
  · intro h
    by_contra hsettled
    obtain ⟨name, hname, hlost⟩ := Text.exists_lost_part hsettled
    have hgate := h (forPhrase phrase) ⟨name, name, .folder, none, []⟩ List.mem_cons_self hname
    exact hlost (hasPhrase_forPhrase.mp hgate).sublist
  · intro hsettled s i hmem hname
    have hphrase : s.hasPhrase i = true :=
      List.any_eq_true.mpr ⟨phrase, hmem, Text.occurs_iff.mpr (hsettled.lower_infix hname)⟩
    rw [gate, hphrase, Bool.or_true]

/-- **Which matches are kept when case does not count.**  As a pattern, a text fits whatever it fits
when case counts exactly if it has no capital sigma.  As a phrase, it passes its gate for whatever name
it occurs in exactly if no sigma of it takes another form for what stands around it.  What is lost
otherwise is no more than the form of sigmas. -/
theorem ignoringCase_keeps_iff (t : Text) :
    ((∀ text, Subsequence.fits true text t = true → Subsequence.fits false text t = true) ↔
        'Σ' ∉ t) ∧
    ((∀ (s : Search) (i : Item), t ∈ s.query.phrases → t <:+: i.matchName →
        gate s.query.phrases (s.hasPhrase i) = true) ↔ IsSettled t) ∧
    (∀ text, Subsequence.fits true text t = true →
        ((lower t).map sigmaBlind).Sublist ((lower text).map sigmaBlind)) ∧
    ∀ name : Text, t <:+: name → (lower t).map sigmaBlind <:+: (lower name).map sigmaBlind := by
  refine ⟨forall_fits_iff, forall_gate_iff, fun text h => ?_, fun name h => ?_⟩
  · rw [lower, lower, Text.map_lowerFrom, Text.map_lowerFrom]
    exact (Subsequence.fits_iff.mp h).flatMap _
  · rw [lower, lower, Text.map_lowerFrom, Text.map_lowerFrom]
    exact h.flatMap _

/-- A file whose name goes on behind a sigma. -/
def sigmaFile : Item :=
  ⟨"ΑΣΑ.md".toList, "ΑΣΑ.md".toList, .file, some Path.root, []⟩

theorem ignoringCase_keeps_sigmaFile :
    Subsequence.fits true "ΑΣΑ".toList "ΑΑ".toList = true ∧
      Subsequence.fits false "ΑΣΑ".toList "ΑΑ".toList = true ∧
      "ΣΑ".toList <:+: sigmaFile.matchName ∧
      gate ["ΣΑ".toList] ((forPhrase "ΣΑ".toList).hasPhrase sigmaFile) = true := by
  have hfits : Subsequence.fits true "ΑΣΑ".toList "ΑΑ".toList = true := by decide
  have hname : "ΣΑ".toList <:+: sigmaFile.matchName := ⟨"Α".toList, [], rfl⟩
  have hsettled : IsSettled "ΣΑ".toList := by
    set_option maxRecDepth 10000 in decide
  obtain ⟨hpattern, -⟩ := ignoringCase_keeps_iff "ΑΑ".toList
  obtain ⟨-, hphrase, -⟩ := ignoringCase_keeps_iff "ΣΑ".toList
  exact ⟨hfits, hpattern.mpr (by decide) _ hfits, hname,
    hphrase.mpr hsettled (forPhrase "ΣΑ".toList) sigmaFile List.mem_cons_self hname⟩

/-- The sigma of `ΑΣ` is final, and that of `ΑΣΑ` is not. -/
theorem ignoringCase_loses :
    Subsequence.fits true "ΑΣΑ".toList "ΑΣ".toList = true ∧
      Subsequence.fits false "ΑΣΑ".toList "ΑΣ".toList = false ∧
      "ΑΣ".toList <:+: sigmaFile.matchName ∧
      gate ["ΑΣ".toList] ((forPhrase "ΑΣ".toList).hasPhrase sigmaFile) = false := by
  set_option maxRecDepth 10000 in decide

end TreeSieve.Search
