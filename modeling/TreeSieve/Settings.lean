import TreeSieve.Value.Coerce

/-!
# Settings

How searches are made and shown: whether the case of letters counts, whether a pass reports how many
items match, and whether matched characters are highlighted.
-/

namespace TreeSieve

/-- The settings of searches. -/
structure Settings where
  caseSensitive : Bool := false
  showCount : Bool := true
  highlight : Bool := true
  deriving DecidableEq, Repr

namespace Settings

/-- The type name of settings in rejections. -/
def typeName : Text := "SearchSettings".toList

/-- The names of the settings, in order. -/
def caseName : Text := "case_sensitive".toList
/-- The name of the setting for the count. -/
def countName : Text := "show_match_count".toList
/-- The name of the setting for highlighting. -/
def highlightName : Text := "highlight_matches".toList

/-- Settings as a field of a record. -/
def check : Value → Checked Settings
  | .map entries =>
    Checked.both (fun f h => f h)
      (Checked.both (fun c n => Settings.mk c n)
        (Value.field entries caseName Value.asBool false)
        (Value.field entries countName Value.asBool true))
      (Value.field entries highlightName Value.asBool true)
  | _ => Checked.fault (.notRecord typeName)

/-- Reads settings from a value. -/
def ofValue (v : Value) : Except Rejection Settings := (check v).mapError (.faults typeName)

/-- Settings as a record. -/
def toValue (s : Settings) : Value :=
  .map [(.text caseName, .bool s.caseSensitive), (.text countName, .bool s.showCount),
    (.text highlightName, .bool s.highlight)]

end Settings

end TreeSieve
