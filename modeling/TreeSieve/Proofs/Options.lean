import TreeSieve.Proofs.Prelude
import TreeSieve.Snapshot.Options

/-!
# Proofs — Options

Options as the fields of a record.  A record is read as options when every field is read without a
fault and the ignore list can be made ready (`Options.ofValue_map_iff`), so what is accepted can be
said field by field.

* `Options.IsRead.with_ignore`: what else a record holds has no part in whether its ignore list is
  accepted.
-/

namespace TreeSieve

theorem Checked.named_eq_ok {α : Type} {name : Text} {x : Checked α} {a : α} :
    named name x = .ok a ↔ x = .ok a := by
  cases x <;> simp [named]

namespace Value

variable {α : Type} {entries : List (Value × Value)} {k name : Text} {v : Value}
  {read : Value → Checked α} {default a : α}

/-- An entry in front of a record hides no other one. -/
theorem lookup_cons_of_ne (h : k ≠ name) :
    lookup ((.text k, v) :: entries) name = lookup entries name := if_neg h

theorem field_cons_of_ne (h : k ≠ name) :
    field ((.text k, v) :: entries) name read default = field entries name read default := by
  rw [field, field, lookup_cons_of_ne h]

/-- A field that is given is read as what stands in it. -/
theorem field_eq_ok_iff (hv : lookup entries name = some v) :
    field entries name read default = .ok a ↔ read v = .ok a := by
  rw [field, hv]
  exact Checked.named_eq_ok

/-- A field that is missing is taken as its default. -/
theorem field_of_missing (hv : lookup entries name = none) :
    field entries name read default = .ok default := by
  rw [field, hv]

end Value

namespace Snapshot.Options

open IgnoreRule (readAll)
open Except (bind_eq_ok mapError_eq_ok)

/-- The ignore list of a record. -/
def ignoreIn (entries : List (Value × Value)) : Except Rejection (List Text) :=
  match Value.lookup entries ignoreName with
  | some v => ignoreOfValue v
  | none => .ok defaultIgnore

/-- The extensions of tagged files in a record. -/
def extensionsIn (entries : List (Value × Value)) : Except Rejection (List Text) :=
  match Value.lookup entries extensionsName with
  | some v => extensionsOfValue v
  | none => .ok [".md".toList]

/-- The options of fields that may have faults. -/
def assemble (ignore : Checked (List Text)) (hidden tags : Checked Bool)
    (extensions : Checked (List Text)) (items bytes : Checked Nat) : Checked Options :=
  let and {α β : Type} (f : Checked (α → β)) (x : Checked α) : Checked β :=
    Checked.both (fun f x => f x) f x
  let options := and (and (and (and (and (and (.ok fun ignore hidden tags extensions items bytes =>
      Options.mk ignore hidden tags extensions items bytes []) ignore) hidden) tags) extensions) items)
    bytes
  options.bind fun o =>
    match readAll o.ignore with
    | .ok rules => .ok { o with rules }
    | .error r => Checked.fault (.rule r.message)

variable {entries : List (Value × Value)} {o : Options}

theorem ofValue_map (entries : List (Value × Value)) :
    ofValue (.map entries) =
      (Checked.ofField ignoreName (ignoreIn entries)).bind fun ignore =>
        (Checked.ofField extensionsName (extensionsIn entries)).bind fun extensions =>
          (assemble ignore (Value.field entries hiddenName Value.asBool false)
            (Value.field entries readTagsName Value.asBool true) extensions
            (Value.field entries maxItemsName Value.asPositive 200000)
            (Value.field entries maxBytesName Value.asPositive 1000000)).mapError
              (.faults typeName) := by
  have hcheck : check (.map entries) = (Checked.ofField ignoreName (ignoreIn entries)).bind fun ignore =>
      (Checked.ofField extensionsName (extensionsIn entries)).bind fun extensions =>
        .ok (assemble ignore (Value.field entries hiddenName Value.asBool false)
          (Value.field entries readTagsName Value.asBool true) extensions
          (Value.field entries maxItemsName Value.asPositive 200000)
          (Value.field entries maxBytesName Value.asPositive 1000000)) := rfl
  rw [ofValue, hcheck]
  cases Checked.ofField ignoreName (ignoreIn entries) with
  | error e => rfl
  | ok lines => cases Checked.ofField extensionsName (extensionsIn entries) <;> rfl

theorem assemble_eq_ok {ignore extensions : Checked (List Text)} {hidden tags : Checked Bool}
    {items bytes : Checked Nat} :
    assemble ignore hidden tags extensions items bytes = .ok o ↔
      ∃ ls h t es i b r, ignore = .ok ls ∧ hidden = .ok h ∧ tags = .ok t ∧ extensions = .ok es ∧
        items = .ok i ∧ bytes = .ok b ∧ readAll ls = .ok r ∧ o = ⟨ls, h, t, es, i, b, r⟩ := by
  cases ignore with
  | error e =>
    cases hidden <;> cases tags <;> cases extensions <;> cases items <;> cases bytes <;>
      simp [assemble, Checked.both, Except.bind]
  | ok ls =>
    cases hr : readAll ls <;> cases hidden <;> cases tags <;> cases extensions <;> cases items <;>
      cases bytes <;> simp [assemble, Checked.both, Except.bind, hr, Checked.fault, eq_comm]

/-- Options are those of a record: each field is read without a fault, and the ignore list can be
made ready. -/
structure IsRead (entries : List (Value × Value)) (o : Options) : Prop where
  ignore : ignoreIn entries = .ok o.ignore
  extensions : extensionsIn entries = .ok o.tagExtensions
  hidden : Value.field entries hiddenName Value.asBool false = .ok o.showHidden
  readTags : Value.field entries readTagsName Value.asBool true = .ok o.readTags
  maxItems : Value.field entries maxItemsName Value.asPositive 200000 = .ok o.maxItems
  maxBytes : Value.field entries maxBytesName Value.asPositive 1000000 = .ok o.maxBytes
  rules : readAll o.ignore = .ok o.rules

/-- A field that is read as a record of its own is read without a fault when the record is. -/
theorem ofField_eq_ok {α : Type} {name : Text} {x : Except Rejection α} {a : α} :
    Checked.ofField name x = .ok (.ok a) ↔ x = .ok a := by
  match x with
  | .ok b => simp [Checked.ofField]
  | .error (.faults type fs) => simp [Checked.ofField, Checked.named]
  | .error (.notIterable kind) | .error (.notTrimmable kind) => simp [Checked.ofField]

/-- **Reading options**, field by field. -/
theorem ofValue_map_iff : ofValue (.map entries) = .ok o ↔ IsRead entries o := by
  simp only [ofValue_map, bind_eq_ok, mapError_eq_ok, assemble_eq_ok]
  constructor
  · rintro ⟨_, hi, _, he, ignore, h, t, extensions, i, b, r, rfl, hh, ht, rfl, hm, hb, hr, rfl⟩
    exact ⟨ofField_eq_ok.mp hi, ofField_eq_ok.mp he, hh, ht, hm, hb, hr⟩
  · rintro ⟨hi, he, hh, ht, hm, hb, hr⟩
    exact ⟨_, ofField_eq_ok.mpr hi, _, ofField_eq_ok.mpr he, _, _, _, _, _, _, _, rfl, hh, ht, rfl,
      hm, hb, hr, rfl⟩

/-- Options hold the rules of their ignore list. -/
theorem readAll_of_ofValue {v : Value} {o : Options} (h : ofValue v = .ok o) :
    readAll o.ignore = .ok o.rules := by
  cases v with
  | map entries => exact (ofValue_map_iff.mp h).rules
  | _ => cases h

/-- Where a record is accepted with an empty ignore list in front, it is accepted with its own list if
that can be made ready. -/
theorem IsRead.with_ignore (h : IsRead ((.text ignoreName, .null) :: entries) o)
    {lines : List Text} {rules : List IgnoreRule} (hlines : ignoreIn entries = .ok lines)
    (hrules : readAll lines = .ok rules) :
    IsRead entries { o with ignore := lines, rules := rules } where
  ignore := hlines
  extensions := by
    rw [← h.extensions, extensionsIn, extensionsIn, Value.lookup_cons_of_ne (by decide)]
  hidden := (Value.field_cons_of_ne (by decide)).symm.trans h.hidden
  readTags := (Value.field_cons_of_ne (by decide)).symm.trans h.readTags
  maxItems := (Value.field_cons_of_ne (by decide)).symm.trans h.maxItems
  maxBytes := (Value.field_cons_of_ne (by decide)).symm.trans h.maxBytes
  rules := hrules

end Snapshot.Options

end TreeSieve
