import TreeSieve.Text.Basic
import TreeSieve.Text.NameTable

/-!
# Text — Name

Characters by their Unicode names.  The names of ideographs and Hangul syllables follow from their
code points, and so do those of variation selectors and of two scripts whose characters are
numbered; other names stand in a table.  The names of unified ideographs and of syllables are
written in capitals, in other names letters count in either case.
-/

namespace TreeSieve.Text

/-- A name spelled out from its short form, word by word, given the name before. -/
def spellName (before : List Text) (t : Text) : List Text :=
  match t with
  | [] => []
  | c :: cs =>
    if '0' ≤ c && c ≤ '9' then before.take (c.toNat - 48) ++ parts ' ' cs else parts ' ' t

/-- The place of a name among names in short form, of which `before` is the one before. -/
def placeOfName? (name : List Text) : (before : List Text) → List Text → Option Nat
  | _, [] => none
  | before, ['-'] :: ts => (placeOfName? name before ts).map (· + 1)
  | before, t :: ts =>
    let spelled := spellName before t
    if spelled = name then some 0 else (placeOfName? name spelled ts).map (· + 1)

/-- The code point with a name in a block. -/
def NameBlock.find? (b : NameBlock) (name : Text) : Option Nat :=
  (placeOfName? (parts ' ' name) [] (b.lines.flatMap (parts ',' ·.toList))).map (b.start + ·)

/-- The number that some digits in base sixteen with capital letters stand for. -/
def capitalHex? (ds : Text) : Option Nat :=
  ds.foldl (fun n? d =>
    n?.bind fun n =>
      if '0' ≤ d && d ≤ '9' then some (n * 16 + (d.toNat - 48))
      else if 'A' ≤ d && d ≤ 'F' then some (n * 16 + (d.toNat - 55))
      else none) (some 0)

/-- Whether a code point is an ideograph whose name is its number. -/
def isIdeograph (n : Nat) : Bool :=
  [(0x3400, 0x4DBF), (0x4E00, 0x9FFF), (0x20000, 0x2A6DF), (0x2A700, 0x2B738), (0x2B740, 0x2B81D),
    (0x2B820, 0x2CEA1), (0x2CEB0, 0x2EBE0), (0x30000, 0x3134A)].any fun (a, b) => a ≤ n && n ≤ b

/-- The text behind a start. -/
def behind? (start t : Text) : Option Text :=
  if start.isPrefixOf t then some (t.drop start.length) else none

/-- The ideograph with a name. -/
def ideograph? (name : Text) : Option Nat := do
  let ds ← behind? "CJK UNIFIED IDEOGRAPH-".toList name
  let n ← capitalHex? ds
  if (ds.length = 4 || ds.length = 5) && isIdeograph n then some n else none

/-- The names of the consonants that begin a syllable. -/
def leadingNames : List Text :=
  parts ',' "G,GG,N,D,DD,R,M,B,BB,S,SS,,J,JJ,C,K,T,P,H".toList

/-- The names of vowels. -/
def vowelNames : List Text :=
  parts ',' "A,AE,YA,YAE,EO,E,YEO,YE,O,WA,WAE,OE,YO,U,WEO,WE,WI,YU,EU,YI,I".toList

/-- The names of the consonants that end a syllable, of which there may be none. -/
def trailingNames : List Text :=
  parts ',' ",G,GG,GS,N,NJ,NH,D,L,LG,LM,LB,LS,LT,LP,LH,M,B,BS,S,SS,NG,J,C,K,T,P,H".toList

/-- The syllable with a name. -/
def syllable? (name : Text) : Option Nat := do
  let sound ← behind? "HANGUL SYLLABLE ".toList name
  (List.range 19).findSome? fun l => do
    let rest ← behind? (leadingNames.getD l []) sound
    (List.range 21).findSome? fun v => do
      let tail ← behind? (vowelNames.getD v []) rest
      let t ← trailingNames.findIdx? (· = tail)
      return 0xAC00 + (l * 21 + v) * 28 + t

/-- The beginnings of names that end with the number of the code point in base sixteen, with the
code points that have them. -/
def numberedNames : List (String × CharTable) :=
  [("CJK COMPATIBILITY IDEOGRAPH-", [(0xF900, 0xFA6D), (0xFA70, 0xFAD9), (0x2F800, 0x2FA1D)]),
   ("KHITAN SMALL SCRIPT CHARACTER-", [(0x18B00, 0x18CD5)]),
   ("NUSHU CHARACTER-", [(0x1B170, 0x1B2FB)])]

/-- The numbered character with a name. -/
def numbered? (name : Text) : Option Nat :=
  numberedNames.findSome? fun (start, table) => do
    let ds ← behind? start.toList name
    let n ← capitalHex? ds
    if table.has n && ds.length = (if n < 0x10000 then 4 else 5) then some n else none

/-- The variation selector with a name, of which there is a long form and a short one. -/
def variationSelector? (name : Text) : Option Nat := do
  let ds ← (behind? "VARIATION SELECTOR-".toList name).orElse fun _ => behind? "VS".toList name
  let n ← (List.range 257).find? fun n => ofNat n = ds
  if n = 0 then none else if n ≤ 16 then some (0xFE00 + n - 1) else some (0xE0100 + n - 17)

/-- The code point with a name. -/
def ofName? (name : Text) : Option Nat :=
  let upper := name.map Char.toUpper
  (nameBlocks.findSome? (·.find? upper)).orElse fun _ =>
    (aliasTable.findSome? fun (n, names) =>
      if names.any (upper = ·.toList) then some n else none).orElse fun _ =>
    (numbered? upper).orElse fun _ =>
    (variationSelector? upper).orElse fun _ =>
    (ideograph? name).orElse fun _ => syllable? name

end TreeSieve.Text
