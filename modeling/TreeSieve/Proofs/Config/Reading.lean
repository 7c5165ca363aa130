import TreeSieve.Config
import TreeSieve.Proofs.Ignore
import TreeSieve.Proofs.Text

/-!
# Proofs — Config — Reading

The record of a configuration that was read is read as the same configuration.

Options that were read are clean (`Options.IsClean`): texts are trimmed, extensions are in lower case
with a point, and limits are positive.  Clean options are what their own record is read as.

* `checkSections_toValue`: **reading the record of a configuration with clean options gives it back**, and
  those that were read have clean options (`isClean_of_ofValue`).
-/

namespace TreeSieve

namespace Snapshot.Options

open IgnoreRule (readAll)
open Except (bind_eq_ok map_eq_ok mapError_eq_ok)

variable {v : Value} {t : Text} {ts : List Text} {o : Options} {entries : List (Value × Value)}

/-! ### Lists -/

/-- The members of a list have no blanks around them. -/
theorem trim_of_listed (h : listed v = .ok ts) (ht : t ∈ ts) : Text.trim t = t := by
  rw [listed.eq_def] at h
  split at h
  · cases h
    rw [List.mem_singleton.1 ht]
    exact Text.trim_trim _
  · obtain ⟨vs, -, hvs⟩ := bind_eq_ok.1 h
    split at hvs
    · obtain ⟨w, -, rfl⟩ := List.mem_map.1 (Except.ok.inj hvs ▸ ht)
      exact Text.trim_trim _
    · cases hvs

/-- Texts can be written. -/
theorem areWritable_texts (ts : List Text) : Value.areWritable (ts.map .text) = true := by
  induction ts with
  | nil => rfl
  | cons t ts ih => exact ih

/-- A list of trimmed texts is read as it is. -/
theorem listed_texts (h : ∀ t ∈ ts, Text.trim t = t) : listed (.list (ts.map .text)) = .ok ts := by
  have hmap : (ts.map Value.text).map (fun v => Text.trim v.toText) = ts := by
    rw [List.map_map]
    exact (List.map_congr_left h).trans (List.map_id ts)
  have hlisted : listed (.list (ts.map .text)) =
      (if Value.areWritable (ts.map .text) then .ok ((ts.map Value.text).map fun v => Text.trim v.toText)
      else .error (Rejection.whole typeName (.rule Value.hugeNumberText))) := rfl
  rw [hlisted, if_pos (areWritable_texts ts), hmap]

/-- A line of an ignore list: it is trimmed, and neither empty nor a comment. -/
structure IsLine (t : Text) : Prop where
  trim_eq : Text.trim t = t
  ne_nil : t ≠ []
  noHash : t.head? ≠ some '#'

theorem isLine_of_ignoreOfValue (h : ignoreOfValue v = .ok ts) (ht : t ∈ ts) : IsLine t := by
  rw [ignoreOfValue.eq_def] at h
  split at h
  · cases h
    cases ht
  · obtain ⟨us, hus, rfl⟩ := map_eq_ok.1 h
    obtain ⟨hmem, hkept⟩ := List.mem_filter.1 ht
    simp only [Bool.and_eq_true, Bool.not_eq_true', List.isEmpty_eq_false_iff, decide_eq_true_eq] at hkept
    exact ⟨trim_of_listed hus hmem, hkept.1, hkept.2⟩

theorem ignoreOfValue_texts (h : ∀ t ∈ ts, IsLine t) : ignoreOfValue (.list (ts.map .text)) = .ok ts := by
  have hkept : (ts.filter fun t => !t.isEmpty && t.head? ≠ some '#') = ts :=
    List.filter_eq_self.2 fun t ht => by simp [(h t ht).ne_nil, (h t ht).noHash]
  rw [ignoreOfValue, listed_texts fun t ht => (h t ht).trim_eq]
  · exact congrArg Except.ok hkept
  · exact fun h => nomatch h

/-! ### Extensions -/

/-- An extension of tagged files: it is trimmed, and in lower case with its point. -/
structure IsExtension (t : Text) : Prop where
  trim_eq : Text.trim t = t
  extension_eq : extension t = t

/-- An extension begins with a point, and goes on in lower case. -/
theorem exists_extension_eq (t : Text) : ∃ cs, extension t = '.' :: cs ∧
    (∀ c ∈ cs, Text.IsLower c) ∧ ∀ c ∈ ('.' :: cs).getLast?, c = '.' ∨ c ∈ (Text.lower t).getLast? := by
  have hlower : ∀ c ∈ Text.lower t, Text.IsLower c := fun c hc => Text.isLower_of_mem_lowerFrom hc
  rw [extension]
  split
  · next cs heq =>
    rw [heq] at hlower ⊢
    exact ⟨cs, rfl, fun c hc => hlower c (List.mem_cons_of_mem _ hc), fun c hc => .inr hc⟩
  · refine ⟨Text.lower t, rfl, hlower, fun c hc => ?_⟩
    rw [List.getLast?_cons] at hc
    cases hlast : (Text.lower t).getLast? with
    | none =>
      rw [hlast] at hc
      exact .inl (Option.some.inj hc).symm
    | some d =>
      rw [hlast] at hc
      exact .inr hc

theorem isExtension_extension (ht : ∀ c ∈ t.getLast?, Text.isBlank c = false) :
    IsExtension (extension t) := by
  -- behind its point the extension is in lower case, and its last character is still no blank
  obtain ⟨cs, heq, hcs, hlast⟩ := exists_extension_eq t
  have hpoint : Text.IsLower '.' := ⟨by decide, by decide, by decide⟩
  have hsame : Text.lower ('.' :: cs) = '.' :: cs :=
    Text.lowerFrom_eq_self (List.forall_mem_cons.2 ⟨hpoint, hcs⟩)
  rw [heq]
  refine ⟨Text.trim_eq_self (fun c hc => ?_) (fun c hc => ?_), by rw [extension, hsame]; rfl⟩
  · cases hc
    decide
  · rcases hlast c hc with rfl | hc
    · decide
    · exact Text.getLast?_lower ht c hc

theorem isExtension_of_extensionsOfValue (h : extensionsOfValue v = .ok ts) (ht : t ∈ ts) :
    IsExtension t := by
  obtain ⟨us, hus, rfl⟩ := map_eq_ok.1 h
  obtain ⟨u, hu, rfl⟩ := List.mem_map.1 ht
  have htrim := trim_of_listed hus (List.mem_filter.1 hu).1
  exact isExtension_extension (htrim ▸ Text.getLast?_trim u)

theorem extensionsOfValue_texts (h : ∀ t ∈ ts, IsExtension t) :
    extensionsOfValue (.list (ts.map .text)) = .ok ts := by
  have hkept : (ts.filter (!·.isEmpty)) = ts := List.filter_eq_self.2 fun t ht => by
    obtain ⟨cs, hcs, -⟩ := exists_extension_eq t
    rw [← (h t ht).extension_eq, hcs]
    rfl
  have hsame : ((ts.filter (!·.isEmpty)).map extension) = ts := by
    rw [hkept]
    exact (List.map_congr_left fun t ht => (h t ht).extension_eq).trans (List.map_id ts)
  rw [extensionsOfValue, listed_texts fun t ht => (h t ht).trim_eq]
  exact congrArg Except.ok hsame

/-! ### Options -/

/-- Options as they are read. -/
structure IsClean (o : Options) : Prop where
  ignore : ∀ t ∈ o.ignore, IsLine t
  extensions : ∀ t ∈ o.tagExtensions, IsExtension t
  maxItems : 0 < o.maxItems
  maxBytes : 0 < o.maxBytes
  rules : readAll o.ignore = .ok o.rules

theorem pos_of_field {name : Text} {default n : Nat} (hdefault : 0 < default)
    (h : Value.field entries name Value.asPositive default = .ok n) : 0 < n := by
  rw [Value.field] at h
  split at h
  · next w _ =>
    cases hw : Value.asInt w with
    | error e => simp [Value.asPositive, hw, bind, Except.bind, Checked.named] at h
    | ok m =>
      simp only [Value.asPositive, hw, bind, Except.bind] at h
      split at h
      · cases h
      · cases h
        omega
  · cases h
    exact hdefault

theorem IsRead.isClean (h : IsRead entries o) : IsClean o where
  ignore t ht := by
    have hignore := h.ignore
    rw [ignoreIn] at hignore
    split at hignore
    · exact isLine_of_ignoreOfValue hignore ht
    · have hlines : ∀ t ∈ defaultIgnore, Text.trim t = t ∧ t ≠ [] ∧ t.head? ≠ some '#' := by decide
      rw [← Except.ok.inj hignore] at ht
      obtain ⟨htrim, hne, hhash⟩ := hlines t ht
      exact ⟨htrim, hne, hhash⟩
  extensions t ht := by
    have hextensions := h.extensions
    rw [extensionsIn] at hextensions
    split at hextensions
    · exact isExtension_of_extensionsOfValue hextensions ht
    · rw [← Except.ok.inj hextensions, List.mem_singleton] at ht
      rw [ht]
      exact ⟨by decide, by decide⟩
  maxItems := pos_of_field (by decide) h.maxItems
  maxBytes := pos_of_field (by decide) h.maxBytes
  rules := h.rules

/-- The options when none are given are those of a record without entries. -/
theorem isRead_default : IsRead [] Options.default where
  ignore := rfl
  extensions := rfl
  hidden := rfl
  readTags := rfl
  maxItems := rfl
  maxBytes := rfl
  rules := by
    have hnoSet : ∀ line ∈ defaultIgnore, '[' ∉ line := by decide
    obtain ⟨rules, hrules, -⟩ := IgnoreRule.exists_readAll hnoSet
    simp only [Options.default, hrules]

/-- Clean options are what their own record is read as. -/
theorem IsClean.ofValue_toValue (h : IsClean o) : ofValue o.toValue = .ok o := by
  have hpositive {n : Nat} (hn : 0 < n) : Value.asPositive (.int n) = .ok n := by
    have hnot : ¬(n : Int) ≤ 0 := by omega
    simp only [Value.asPositive, Value.asInt, bind, Except.bind, if_neg hnot, Int.toNat_natCast]
  refine ofValue_map_iff.2 ⟨?_, ?_, rfl, rfl, ?_, ?_, h.rules⟩
  · exact ignoreOfValue_texts h.ignore
  · exact extensionsOfValue_texts h.extensions
  · exact congrArg (Checked.named maxItemsName) (hpositive h.maxItems)
  · exact congrArg (Checked.named maxBytesName) (hpositive h.maxBytes)

theorem check_of_ofValue (h : ofValue v = .ok o) : check v = .ok (.ok o) := by
  rw [ofValue] at h
  cases hcheck : check v with
  | error r => simp [hcheck, bind, Except.bind] at h
  | ok checked =>
    simp only [hcheck, bind, Except.bind, mapError_eq_ok] at h
    rw [h]

end Snapshot.Options

namespace Config

open Except (map_eq_ok mapError_eq_ok)

variable {entries : List (Value × Value)} {c : Config} {v : Value}

/-- The options in a record. -/
def snapshotIn (entries : List (Value × Value)) : Except Rejection (Checked Snapshot.Options) :=
  match Value.lookup entries snapshotName with
  | some v => (Snapshot.Options.check v).map (Checked.named snapshotName)
  | none => .ok (.ok .default)

/-- **Reading a configuration**, section by section. -/
theorem ofValue_map_iff : ofValue (.map entries) = .ok c ↔
    Value.field entries searchName Settings.check {} = .ok c.search ∧
      snapshotIn entries = .ok (.ok c.snapshot) := by
  have heq : ofValue (.map entries) = (snapshotIn entries).bind fun snapshot =>
      (Checked.both Config.mk (Value.field entries searchName Settings.check {}) snapshot).mapError
        (.faults typeName) := by
    simp only [ofValue, snapshotIn]
    cases Value.lookup entries snapshotName <;> rfl
  obtain ⟨search, snapshot⟩ := c
  rw [heq]
  generalize Value.field entries searchName Settings.check {} = settings
  cases snapshotIn entries with
  | error r => simp [Except.bind]
  | ok options => cases settings <;> cases options <;> simp [Except.bind, Except.mapError, Checked.both]

/-- The options of a configuration that was read are clean. -/
theorem isClean_of_ofValue (h : ofValue v = .ok c) : c.snapshot.IsClean := by
  cases v with
  | map entries =>
    have hsnapshot := (ofValue_map_iff.1 h).2
    rw [snapshotIn] at hsnapshot
    split at hsnapshot
    · next w _ =>
      obtain ⟨checked, hchecked, hnamed⟩ := map_eq_ok.1 hsnapshot
      have hok : checked = .ok c.snapshot := by
        cases checked <;> cases hnamed
        rfl
      have hread : Snapshot.Options.ofValue w = .ok c.snapshot := by
        rw [Snapshot.Options.ofValue, hchecked, hok]
        rfl
      cases w with
      | map entries => exact (Snapshot.Options.ofValue_map_iff.1 hread).isClean
      | _ => cases hread
    · rw [← Except.ok.inj (Except.ok.inj hsnapshot)]
      exact Snapshot.Options.isRead_default.isClean
  | _ => cases h

/-- A configuration with clean options is what its own record is read as. -/
theorem ofValue_toValue (h : c.snapshot.IsClean) : ofValue c.toValue = .ok c := by
  have hcheck := Snapshot.Options.check_of_ofValue h.ofValue_toValue
  refine ofValue_map_iff.2 ⟨rfl, ?_⟩
  have hlookup : Value.lookup [(.text searchName, c.search.toValue),
      (.text snapshotName, c.snapshot.toValue)] snapshotName = some c.snapshot.toValue := rfl
  rw [snapshotIn, hlookup]
  simp only [hcheck]
  rfl

/-- **Reading the record of a configuration with clean options gives it back**, as a whole and section by
section. -/
theorem checkSections_toValue (h : c.snapshot.IsClean) : checkSections c.toValue = .ok c := by
  have hsections : checkSections c.toValue = (ofValue c.toValue).mapError .rejected := rfl
  rw [hsections, ofValue_toValue h]
  rfl

end Config

end TreeSieve
