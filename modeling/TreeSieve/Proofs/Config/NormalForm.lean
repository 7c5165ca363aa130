import TreeSieve.Proofs.Config.Reading
import TreeSieve.Proofs.Config.Sections

/-!
# Proofs — Config — Normal form

Validation takes a record to the record of the configuration read from it.  The records of this form
are those of configurations with clean options (`Options.IsClean`): their texts are trimmed, no line of
the ignore list is empty or a comment, extensions are in lower case with a point, limits are positive.

* `validated_eq_self_iff`: **validation leaves a record as it is just when it has this form.**
* `validated_twice`: what validation returns is validated to itself, and read as the configuration that
  the sections given were read as.
-/

namespace TreeSieve.Config

open Except (map_eq_ok mapError_eq_ok bind_eq_ok)
open Snapshot.Options (readAll_of_ofValue)
open IgnoreRule (readAll)

variable {c : Config} {v r : Value} {entries : List (Value × Value)}

/-- Validation of a record: the record of the configuration read from it. -/
def validated (v : Value) : Except SectionFault Value := (checkSections v).map toValue

/-- Only records are read, by the sections given in them. -/
theorem exists_given (h : checkSections v = .ok c) :
    ∃ entries, v = .map entries ∧ ofValue (.map (given entries)) = .ok c := by
  unfold checkSections at h
  split at h
  · cases h
  · split at h
    · cases h
    · split at h
      · cases h
      · split at h
        · next entries _ =>
          dsimp only at h
          split at h
          · cases h
          · exact ⟨entries, rfl, mapError_eq_ok.1 h⟩
        · cases h

/-- Sections that are read have clean options. -/
theorem isClean_of_checkSections (h : checkSections v = .ok c) : c.snapshot.IsClean := by
  obtain ⟨entries, -, hc⟩ := exists_given h
  exact isClean_of_ofValue hc

/-- **Normal form.**  Validation leaves a value as it is just when it is the record of a configuration
with clean options. -/
theorem validated_eq_self_iff : validated r = .ok r ↔
    ∃ c : Config, c.snapshot.IsClean ∧ c.toValue = r := by
  constructor
  · intro h
    obtain ⟨c, hc, heq⟩ := map_eq_ok.1 h
    exact ⟨c, isClean_of_checkSections hc, heq⟩
  · rintro ⟨c, hclean, rfl⟩
    exact map_eq_ok.2 ⟨c, checkSections_toValue hclean, rfl⟩

/-- **Validation twice.**  What validation returns is validated to itself.  It is the record of the
configuration that the sections given are read as, and read as the same configuration: with the same
rules made of the ignore list, and the same answers on paths and names. -/
theorem validated_twice (h : validated v = .ok r) :
    validated r = .ok r ∧ ∃ entries c again, v = .map entries ∧
      ofValue (.map (given entries)) = .ok c ∧ ofValue r = .ok again ∧ again.toValue = r ∧
      readAll again.snapshot.ignore = .ok again.snapshot.rules ∧
      again.snapshot.rules = c.snapshot.rules ∧
      (∀ path, again.snapshot.ignores path = c.snapshot.ignores path) ∧
      ∀ name, again.snapshot.isTagged name = c.snapshot.isTagged name := by
  obtain ⟨c, hc, rfl⟩ := map_eq_ok.1 h
  have hclean := isClean_of_checkSections hc
  obtain ⟨entries, rfl, hgiven⟩ := exists_given hc
  refine ⟨validated_eq_self_iff.2 ⟨c, hclean, rfl⟩, entries, c, c, rfl, hgiven, ?_, rfl,
    hclean.rules, rfl, fun _ => rfl, fun _ => rfl⟩
  exact ofValue_toValue hclean

/-- The entries of options that are not in their normal form. -/
def untidyOptions : List (Value × Value) :=
  [(.text Snapshot.Options.ignoreName,
      .list [.text " *.log ".toList, .text "# kept".toList, .bool true, .null]),
    (.text Snapshot.Options.hiddenName, .text "On".toList),
    (.text Snapshot.Options.extensionsName, .list [.text "MD ".toList, .text [' '], .int 7]),
    (.text Snapshot.Options.maxItemsName, .text "1_0".toList),
    (.text Snapshot.Options.maxBytesName, .bool true)]

/-- A record with such options and an empty section. -/
def untidyRecord : Value :=
  .map [(.text searchName, .null), (.text snapshotName, .map untidyOptions)]

/-- The options of that record in their normal form, with the rules of their ignore list. -/
def tidyOptions (rules : List IgnoreRule) : Snapshot.Options where
  ignore := ["*.log", "True", "None"].map (·.toList)
  showHidden := true
  tagExtensions := [".md".toList, ".7".toList]
  maxItems := 10
  maxBytes := 1
  rules := rules

theorem validated_twice_untidyRecord : ∃ rules r, validated untidyRecord = .ok r ∧
    r = toValue ⟨{}, tidyOptions rules⟩ ∧
    validated r = .ok r ∧ ∃ entries c again, untidyRecord = .map entries ∧
      ofValue (.map (given entries)) = .ok c ∧ ofValue r = .ok again ∧ again.toValue = r ∧
      readAll again.snapshot.ignore = .ok again.snapshot.rules ∧
      again.snapshot.rules = c.snapshot.rules ∧
      (∀ path, again.snapshot.ignores path = c.snapshot.ignores path) ∧
      ∀ name, again.snapshot.isTagged name = c.snapshot.isTagged name := by
  have hnoSet : ∀ line ∈ (tidyOptions []).ignore, '[' ∉ line := by decide
  obtain ⟨rules, hrules, -⟩ := IgnoreRule.exists_readAll hnoSet
  have hread : Snapshot.Options.IsRead untidyOptions (tidyOptions rules) :=
    ⟨rfl, rfl, rfl, rfl, rfl, rfl, hrules⟩
  have hcheck := Snapshot.Options.check_of_ofValue (Snapshot.Options.ofValue_map_iff.2 hread)
  have hgiven : ofValue (.map [(.text snapshotName, .map untidyOptions)]) =
      .ok ⟨{}, tidyOptions rules⟩ :=
    ofValue_map_iff.2 ⟨rfl, congrArg (Except.map (Checked.named snapshotName)) hcheck⟩
  have hvalidated : validated untidyRecord = .ok (toValue ⟨{}, tidyOptions rules⟩) := by
    have hsections : checkSections untidyRecord =
        (ofValue (.map [(.text snapshotName, .map untidyOptions)])).mapError .rejected := rfl
    rw [validated, hsections, hgiven]
    rfl
  exact ⟨rules, _, hvalidated, rfl, validated_twice hvalidated⟩

end TreeSieve.Config
