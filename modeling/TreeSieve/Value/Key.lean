import TreeSieve.Value.Basic

/-!
# Value — Key

Values as keys of maps.  Lists, sets and maps cannot be keys.  Numbers are the same key when they are
equal, whatever their kind; other values when they are the same value.  A map keeps the first of
equal keys and the value that was put last.
-/

namespace TreeSieve.Value

/-- Whether a value can be a key. -/
def isKey : Value → Bool
  | list _ | set _ | map _ | cycle _ => false
  | pair a b => a.isKey && b.isKey
  | _ => true

/-- The number that a value is, as a fraction; infinities lie outside all numbers of their kind. -/
def fraction? : Value → Option (Int × Nat)
  | bool b => some (if b then 1 else 0, 1)
  | int n => some (n, 1)
  | float x =>
    match x with
    | .nan => none
    | .infinite negative => some (if negative then -(Nat.pow 2 1100) else Nat.pow 2 1100, 1)
    | x => x.ratio?.map fun (negative, num, den) => (if negative then -(num : Int) else num, den)
  | _ => none

/-- Whether two values are the same key. -/
def sameKey (a b : Value) : Bool :=
  match a.fraction?, b.fraction? with
  | some (m, d), some (n, e) => m * e == n * d
  | none, none =>
    match a, b with
    | null, null => true
    | text s, text t => s == t
    | date y m d, date y' m' d' => (y, m, d) == (y', m', d')
    | moment y m d h mi s us o, moment y' m' d' h' mi' s' us' o' =>
      (y, m, d, h, mi, s, us, o) == (y', m', d', h', mi', s', us', o')
    | bytes bs, bytes cs => bs == cs
    | pair a b, pair c d => a.sameKey c && b.sameKey d
    | _, _ => false
  | _, _ => false

/-- The entries with a value put under a key. -/
def putKey (entries : List (Value × Value)) (k v : Value) : List (Value × Value) :=
  match entries with
  | [] => [(k, v)]
  | (k', v') :: es => if sameKey k' k then (k', v) :: es else (k', v') :: putKey es k v

/-- The values of a list, each once. -/
def distinct (vs : List Value) : List Value :=
  vs.foldl (fun found v => if found.any (·.sameKey v) then found else found ++ [v]) []

/-- Whether two values have an order between them: two numbers, or two values of one kind that
has an order. -/
def comparable (a b : Value) : Bool :=
  match a.fraction?, b.fraction? with
  | some _, some _ => true
  | _, _ => a.kind = b.kind && a.kind ≠ .null && a.kind ≠ .map

end TreeSieve.Value
