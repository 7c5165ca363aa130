import TreeSieve.Path
import TreeSieve.Text.Letter
import TreeSieve.Yaml.Meaning

/-!
# Note

The tags of a note: those of its front matter, a document between `---` and `---` or `...` at its
start, and those that stand in its body as `#tag`.  Fenced code in the body is passed over, and a run
of digits behind `#` is no tag.
-/

namespace TreeSieve.Note

/-! ### Front matter -/

/-- The text without spaces and tabs at its start. -/
def skipGap (t : Text) : Text := t.dropWhile fun c => c = ' ' || c = '\t'

/-- The rest behind a line break at the start of a text. -/
def behindBreak? : Text → Option Text
  | '\r' :: '\n' :: r => some r
  | '\n' :: r => some r
  | _ => none

/-- The rest behind the line that opens front matter. -/
def behindOpening? (t : Text) : Option Text :=
  if "---".toList.isPrefixOf t then behindBreak? (skipGap (t.drop 3)) else none

/-- The rest behind a line break and the line that closes front matter. -/
def behindClosing? (t : Text) : Option Text :=
  match behindBreak? t with
  | none => none
  | some t =>
    if "---".toList.isPrefixOf t || "...".toList.isPrefixOf t then
      let r := skipGap (t.drop 3)
      if r.isEmpty then some [] else behindBreak? r
    else none

/-- The text up to the first closing of front matter, and the rest behind it. -/
def untilClosing : Text → Option (Text × Text)
  | [] => none
  | c :: cs =>
    match behindClosing? (c :: cs) with
    | some rest => some ([], rest)
    | none => (untilClosing cs).map fun (front, rest) => (c :: front, rest)

/-- The front matter of a note, if it has one, and its body. -/
def split (t : Text) : Option Text × Text :=
  match (behindOpening? t).bind untilClosing with
  | some (front, body) => (some front, body)
  | none => (none, t)

/-- The words of a text between commas and blanks. -/
def words (t : Text) : List Text :=
  Text.parts ',' (t.map fun c => if Text.isBlank c then ',' else c)

/-- The tags under the key of front matter: the words of a text or the items of a list, all of which
must be such that they can be written. -/
def tagsOfValue : Value → Except Yaml.ValueFault (List Text)
  | .text t => .ok ((words t).map Tag.normalize)
  | .list xs =>
    if Value.areWritable xs then
      .ok ((xs.filter (·.kind ≠ .null)).map fun x => Tag.normalize x.toText)
    else .error .hugeNumber
  | _ => .ok []

/-- The value of a document that holds its tags. -/
def tagField? : Value → Option Value
  | .map entries =>
    (Value.lookup entries "tags".toList).or (Value.lookup entries "tag".toList)
  | _ => none

/-- The tags of a document. -/
def tagsOfDocument (v : Value) : Except Yaml.ValueFault (List Text) :=
  match tagField? v with
  | some v => tagsOfValue v
  | none => .ok []

/-- The tags of front matter. A malformed document has none; a faulty value is a failure. -/
def frontTags : Option Text → Except Yaml.ValueFault (List Text)
  | none => .ok []
  | some t =>
    match Yaml.read t with
    | .ok v => tagsOfDocument v
    | .error .malformed => .ok []
    | .error (.value f) => .error f

/-! ### Body -/

/-- Whether a text starts with the mark of fenced code. -/
def atFence (t : Text) : Bool := "```".toList.isPrefixOf t

/-- The rest behind the next mark of fenced code at the start of a line. -/
def behindFence? : Text → Option Text
  | [] => none
  | c :: cs => if c = '\n' && atFence cs then some (cs.drop 3) else behindFence? cs

theorem behindFence?_length {t r : Text} (h : behindFence? t = some r) : r.length < t.length := by
  induction t with
  | nil => simp [behindFence?] at h
  | cons c cs ih =>
    simp only [behindFence?] at h
    split at h
    · cases h; simp only [List.length_drop, List.length_cons]; omega
    · have := ih h; simp only [List.length_cons]; omega

/-- A text without its fenced code; `lineStart` says that a line begins with it. -/
def withoutFences (lineStart : Bool) : Text → Text
  | [] => []
  | c :: cs =>
    if lineStart && atFence (c :: cs) then
      match _h : behindFence? (cs.drop 2) with
      | some rest => withoutFences false rest
      | none => c :: withoutFences (c = '\n') cs
    else c :: withoutFences (c = '\n') cs
termination_by t => t.length
decreasing_by
  · have := behindFence?_length _h
    simp only [List.length_drop, List.length_cons] at this ⊢
    omega
  · simp
  · simp

/-- The characters that end a tag, besides blanks. -/
def tagEnds : Text := "#!\"$%&'()*+,.:;<=>?@[]^`\x7b|\x7d~".toList

/-- Whether a character can stand in a tag. -/
def isTagChar (c : Char) : Bool := !Text.isBlank c && !tagEnds.contains c

/-- Whether a tag can begin behind a character, or at the start of a text. -/
def allowsTag : Option Char → Bool
  | none => true
  | some c => !(Text.isWord c || c = '#' || c = '&' || c = '/')

/-- The tags in a text that follows the character `before?`. -/
def inlineTags (before? : Option Char) : Text → List Text
  | [] => []
  | c :: cs =>
    if c = '#' && allowsTag before? then
      match cs.takeWhile isTagChar with
      | [] => inlineTags (some c) cs
      | run => run :: inlineTags (some c) cs
    else inlineTags (some c) cs

/-- The tags of a body: a run of digits is none. -/
def bodyTags (body : Text) : List Text :=
  (inlineTags none (withoutFences true body)).filter fun t => !t.all Text.isDigit

/-- The tags of a note. -/
def tags (t : Text) : Except Yaml.ValueFault (List Text) := do
  let (front?, body) := split t
  let front ← frontTags front?
  return Text.sortedSet ((front ++ bodyTags body).filter (!·.isEmpty))

end TreeSieve.Note
