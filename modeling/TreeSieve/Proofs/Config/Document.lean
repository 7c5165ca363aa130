import TreeSieve.Config.Document
import TreeSieve.Proofs.Numerals
import TreeSieve.Proofs.Yaml.Layout

/-!
# Proofs — Config — Document

The document of a configuration and what it is read as.

* `toDocument_eq_layout`: the document is the layout of two sections, with one entry for each option.
* `read_toDocument`: **the document of a configuration is read as the configuration's record**, whatever
  texts it lists.
-/

namespace TreeSieve

/-- The numerals of the limits have no more digits than are read. -/
structure Snapshot.Options.HasShortLimits (o : Snapshot.Options) : Prop where
  maxItems : (Text.ofNat o.maxItems).length ≤ Number.digitLimit
  maxBytes : (Text.ofNat o.maxBytes).length ≤ Number.digitLimit

namespace Config

open Yaml Lexer

/-! ### Options with a word -/

/-- An option with a word that means a value. -/
def wordEntry (name word : Text) (v : Value) (hname : IsName name) (hword : IsWord word)
    (htag : (Tag.ofPlain word).isCollection = false)
    (hv : scalarValue (Tag.ofPlain word) word = .ok v) : Entry where
  name := name
  part := Part.scalar true word v htag hv
  lines := [' ' :: ' ' :: name ++ ": ".toList ++ word]
  isName := hname
  printed := by
    have hmark : IsPrinted ": ".toList := (areClear_of_all (by decide)).isPrinted
    have hstart : IsPrinted (List.replicate 2 ' ' ++ name) :=
      (isPrinted_replicate (.inl (by decide)) 2).append hname.isWord.areClear.isPrinted
    exact List.forall_mem_singleton.2 ((hstart.append hmark).append hword.areClear.isPrinted)
  cut {v margins out} h := by
    refine ⟨' ' :: word ++ '\n' :: v, ?_, rfl, fun column hcolumn =>
      Cut.word h hword (by omega) (by omega)⟩
    rw [closed_cons]
    simp [closed, List.replicate]

/-- An option that is on or off. -/
def flagEntry (name : Text) (b : Bool) (hname : IsName name) : Entry :=
  wordEntry name (if b then "true" else "false").toList (.bool b) hname
    (by cases b <;> decide) (by cases b <;> rfl) (by cases b <;> rfl)

theorem isWord_ofNat (n : Nat) : IsWord (Text.ofNat n) where
  ne_nil := Nat.toDigits_ne_nil
  isWordChar c hc := by simp [isWordChar, Number.areDigits_ofNat n c hc]

/-- A limit. -/
def limitEntry (name : Text) (n : Nat) (hname : IsName name)
    (hlen : (Text.ofNat n).length ≤ Number.digitLimit) : Entry :=
  wordEntry name (Text.ofNat n) (.int n) hname (isWord_ofNat n)
    (by rw [Tag.ofPlain_ofNat]; rfl) (by rw [Tag.ofPlain_ofNat]; exact intValue_ofNat hlen)

/-! ### Lists -/

/-- A member of a list, and whether it is written plain. -/
def member (t : Text) : Bool × Text := (Style.ofText t = .plain, t)

theorem scalarTag_member (t : Text) : scalarTag (member t).1 (member t).2 = .str := by
  rw [member, scalarTag]
  split
  · next h =>
    have hplain : Style.canBePlain t = true := by
      rw [decide_eq_true_eq, Style.ofText] at h
      split at h
      · assumption
      · split at h <;> cases h
    rw [Style.canBePlain, Bool.and_eq_true, decide_eq_true_eq] at hplain
    exact hplain.2
  · rfl

/-- The members of a list line by line. -/
theorem cutLines_members {v : Text} {margins : List Nat} {out : List Token} (ts : List Text)
    (h : CutLines v 3 margins out) : CutLines (closed (ts.map memberLine) v) 3 margins
      ((ts.map member).flatMap memberTokens ++ out) := by
  induction ts with
  | nil => exact h
  | cons t ts ih =>
    have hopens : Opens (writeScalar 4 4 t ++ '\n' :: closed (ts.map memberLine) v) :=
      opens_writeScalar 4 4 t _
    have hscalar : Cut (writeScalar 4 4 t ++ '\n' :: closed (ts.map memberLine) v) true (3 + 1) 3
        margins _ :=
      Cut.scalar ih (by omega) (by omega) (by decide) (by omega) t
    have hdash := (hscalar.behind_spaces hopens).dash rfl (by omega)
    rw [List.map_cons, closed_cons]
    exact hdash.line (opens_cons (by decide) (by decide) (by decide)) (.inl (by decide)) (by decide)

/-- An option with a list of texts. -/
def textsEntry (name : Text) (ts : List Text) (hname : IsName name) : Entry where
  name := name
  part := Part.texts (ts.map member) (List.forall_mem_map.2 fun t _ => scalarTag_member t)
  lines := listLines name ts
  isName := hname
  printed := by
    have hstart : IsPrinted (List.replicate 2 ' ' ++ name) :=
      (isPrinted_replicate (.inl (by decide)) 2).append hname.isWord.areClear.isPrinted
    rw [listLines]
    split
    · exact List.forall_mem_singleton.2 (hstart.append (areClear_of_all (by decide)).isPrinted)
    · refine List.forall_mem_cons.2 ⟨hstart.append (areClear_of_all (by decide)).isPrinted,
        List.forall_mem_map.2 fun t _ => ?_⟩
      have hdash : IsPrinted "  - ".toList := (areClear_of_all (by decide)).isPrinted
      exact hdash.append (isPrinted_writeScalar (by decide) 4 t)
  cut {v margins out} h := by
    cases ts with
    | nil =>
      refine ⟨' ' :: '[' :: ']' :: '\n' :: v, ?_, rfl, fun column hcolumn => ?_⟩
      · simp [closed, listLines, List.replicate]
      · have hlist : Cut ('[' :: ']' :: '\n' :: v) false (column + 1) 3 margins
            (.flowSequenceStart :: .flowSequenceEnd :: out) := Cut.emptyList h (by omega)
        exact hlist.behind_spaces (m := 1) (opens_cons (by decide) (by decide) (by decide))
    | cons t ts =>
      refine ⟨'\n' :: closed ((t :: ts).map memberLine) v, ?_, rfl, fun column _ =>
        (cutLines_members (t :: ts) h).cut_feed⟩
      simp [closed, listLines, List.replicate]

/-! ### Sections -/

/-- The section for searches. -/
def searchSection (s : Settings) : Section where
  name := searchName
  comment := ' ' :: "Matching behaviour and display hints".toList
  entries := [flagEntry Settings.caseName s.caseSensitive (by decide),
    flagEntry Settings.countName s.showCount (by decide),
    flagEntry Settings.highlightName s.highlight (by decide)]
  isName := by decide
  areClear := areClear_of_all (by decide)
  ne_nil := List.cons_ne_nil _ _
  nodup := by
    show [Settings.caseName, Settings.countName, Settings.highlightName].Nodup
    decide

/-- The section for snapshots. -/
def snapshotSection (o : Snapshot.Options) (h : o.HasShortLimits) : Section where
  name := snapshotName
  comment := ' ' :: "Filesystem snapshot settings (ignore patterns, tags, limits)".toList
  entries := [textsEntry Snapshot.Options.ignoreName o.ignore (by decide),
    flagEntry Snapshot.Options.hiddenName o.showHidden (by decide),
    flagEntry Snapshot.Options.readTagsName o.readTags (by decide),
    textsEntry Snapshot.Options.extensionsName o.tagExtensions (by decide),
    limitEntry Snapshot.Options.maxItemsName o.maxItems (by decide) h.maxItems,
    limitEntry Snapshot.Options.maxBytesName o.maxBytes (by decide) h.maxBytes]
  isName := by decide
  areClear := areClear_of_all (by decide)
  ne_nil := List.cons_ne_nil _ _
  nodup := by
    show [Snapshot.Options.ignoreName, Snapshot.Options.hiddenName, Snapshot.Options.readTagsName,
      Snapshot.Options.extensionsName, Snapshot.Options.maxItemsName,
      Snapshot.Options.maxBytesName].Nodup
    decide

/-! ### Documents -/

variable {c : Config}

/-- The document of a configuration is the layout of its two sections. -/
theorem toDocument_eq_layout (h : c.snapshot.HasShortLimits) :
    c.toDocument = layout (' ' :: "Fuzzy Tree Filter Configuration".toList)
      [searchSection c.search, snapshotSection c.snapshot h] := by
  rw [layout, ← join_concat_nil, toDocument]
  simp [sectionLines, searchSection, snapshotSection, Section.lines, settingsLines, optionsLines,
    flagEntry, limitEntry, textsEntry, wordEntry, flagLine, limitLine]

theorem areClear_title : AreClear (' ' :: "Fuzzy Tree Filter Configuration".toList) :=
  areClear_of_all (by decide)

/-- The document of a configuration is made of clear characters and line feeds. -/
theorem isPrinted_toDocument (h : c.snapshot.HasShortLimits) : IsPrinted c.toDocument := by
  rw [toDocument_eq_layout h]
  exact isPrinted_layout areClear_title _

/-- **The document of a configuration is read as the configuration's record.** The texts that it lists may
be any texts; its limits have no more digits than are read. -/
theorem read_toDocument (h : c.snapshot.HasShortLimits) : read c.toDocument = .ok c.toValue := by
  have hnodup : [searchName, snapshotName].Nodup := by decide
  rw [toDocument_eq_layout h, read_layout areClear_title (searchSection c.search)
    [snapshotSection c.snapshot h] hnodup]
  simp [entryValues, Section.named, Section.part, Part.mapping, searchSection, snapshotSection,
    Entry.named, flagEntry, limitEntry, textsEntry, wordEntry, Part.scalar, Part.texts, toValue,
    Settings.toValue, Snapshot.Options.toValue, member]

end Config

end TreeSieve
