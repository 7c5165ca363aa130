import TreeSieve.Regex.Program

/-!
# Regex — Matcher

Matching by backtracking.  A `Place` lies between two characters of a text, and `Program.run` tries
the ways in which a program matches from a place on, the preferred one first, and hands the place
behind each to the rest of the match, until the rest accepts one.

Two things are remembered all along (`Memory`): the edges of the texts that groups have kept, and the
place last looked at.  A failed way does not leave the memory as it was.  Where another way is tried,
edges kept since then are forgotten, and inside a repetition the earlier ones are put back too
(`Memory.regain`).  The place last looked at shows in possessive repetitions alone: after a round that
fails, they go on from there.

A repetition makes its least number of rounds, and after them optional rounds.  An optional round
that begins where the round before began is not made, which bounds their number.
-/

namespace TreeSieve.Regex

/-! ### Places -/

/-- A place in a text, between the characters before it (nearest first) and those after it. -/
structure Place where
  pos : Nat
  before : Text
  after : Text
  deriving DecidableEq, Repr

namespace Place

/-- The place behind the next character, if that passes a test. -/
def step? (t : CharTest) (p : Place) : Option Place :=
  match p.after with
  | [] => none
  | x :: xs => if t.passes x then some ⟨p.pos + 1, x :: p.before, xs⟩ else none

/-- The place behind as many characters that pass a test as possible, at most `n`. -/
def past (t : CharTest) : (n : Nat) → Place → Place
  | 0, p => p
  | n + 1, p =>
    match p.step? t with
    | none => p
    | some q => past t n q

/-- The place `n` characters earlier, or the start of the text if there are fewer. -/
def back : (n : Nat) → Place → Place
  | 0, p => p
  | n + 1, p =>
    match p.before with
    | [] => p
    | x :: xs => back n ⟨p.pos - 1, xs, x :: p.after⟩

/-- Whether at least `n` characters come after a place. -/
def hasRoom (n : Nat) (p : Place) : Bool := n = 0 || !(p.after.drop (n - 1)).isEmpty

/-- The place behind the text `t`, if that stands at a place. -/
def behind? (rule : CaseRule) : (t : Text) → Place → Option Place
  | [], p => some p
  | y :: ys, p =>
    match p.after with
    | [] => none
    | x :: xs =>
      if rule.lower x.toNat = rule.lower y.toNat then behind? rule ys ⟨p.pos + 1, x :: p.before, xs⟩
      else none

end Place

/-- Whether a word character stands first in a text. -/
def startsWord (ascii : Bool) : Text → Bool
  | [] => false
  | c :: _ => CharClass.word.has ascii c

/-- Whether a condition holds at a place. In an empty text there is neither an edge of a word nor a
place that is none. -/
def Anchor.holds (multiline ascii : Bool) (p : Place) : Anchor → Bool
  | lineStart => p.before.isEmpty || (multiline && p.before.head? = some '\n')
  | lineEnd => p.after.isEmpty || p.after = ['\n'] || (multiline && p.after.head? = some '\n')
  | textStart => p.before.isEmpty
  | textEnd => p.after.isEmpty
  | wordEdge => startsWord ascii p.before != startsWord ascii p.after
  | notWordEdge =>
    !(p.before.isEmpty && p.after.isEmpty) && startsWord ascii p.before == startsWord ascii p.after

/-! ### Memory -/

/-- What is remembered while a program runs. -/
structure Memory where
  /-- The places of the edges, by number; an edge that was passed over has none. -/
  edges : List (Option Place)
  /-- The place last looked at. -/
  seen : Place
  deriving Repr

namespace Memory

/-- The memory after a look at a place. -/
def look (p : Place) (m : Memory) : Memory := { m with seen := p }

/-- The memory with a place kept as an edge. -/
def keep (i : Nat) (p : Place) (m : Memory) : Memory :=
  { m with edges :=
    if i < m.edges.length then m.edges.set i (some p)
    else m.edges ++ List.replicate (i - m.edges.length) none ++ [some p] }

/-- The memory for another way, after one that began with `m` has left `left`. -/
def regain (inRounds : Bool) (m left : Memory) : Memory :=
  { left with edges := if inRounds then m.edges else left.edges.take m.edges.length }

/-- The edges of the text that a group has kept. -/
def span? (index : Nat) (m : Memory) : Option (Place × Place) :=
  match m.edges[leftEdge index]?, m.edges[rightEdge index]? with
  | some (some p), some (some q) => some (p, q)
  | _, _ => none

/-- The text that a group has kept. A group whose edges have crossed has none. -/
def kept? (index : Nat) (m : Memory) : Option Text :=
  match m.span? index with
  | some (p, q) => if p.pos ≤ q.pos then some (p.after.take (q.pos - p.pos)) else none
  | none => none

/-- Whether the edges of a group have crossed. -/
def isCrossed (index : Nat) (m : Memory) : Bool := (m.span? index).any fun (p, q) => q.pos < p.pos

end Memory

/-- How a try ends: whether the rest has accepted a place, and what is remembered. -/
structure Outcome where
  found : Bool
  memory : Memory
  deriving Repr

namespace Outcome

/-- The failure that remembers `m`. -/
def fail (m : Memory) : Outcome := ⟨false, m⟩

/-- The outcome that remembers a place if it is a failure. -/
def lookBack (p : Place) (o : Outcome) : Outcome := if o.found then o else fail (o.memory.look p)

/-- The outcome, or in place of a failure that of another way. -/
def orElse (o : Outcome) (other : Memory → Outcome) : Outcome :=
  if o.found then o else other o.memory

end Outcome

/-- The rest of a match. -/
abbrev Rest := Place → Memory → Outcome

/-- A part of a match: it tries the rest at each place it leads to. -/
abbrev Step := Rest → Rest

/-- The rest that accepts every place. -/
def accept : Rest := fun p m => ⟨true, m.look p⟩

/-! ### Repetitions of one character -/

namespace CharTest

/-- Tries the rest behind fewer and fewer characters, `spare` of which can be given back. -/
def giveBack (inRounds : Bool) (follow? : Option Nat) (start : Memory) (k : Rest) :
    (spare : Nat) → Rest
  | spare, p, m =>
    let fits := follow?.all fun code => p.after.head?.any (·.toNat = code)
    (if fits then k p (m.look p) else .fail m).orElse fun left =>
      let m := start.regain inRounds left
      match spare with
      | 0 => .fail m
      | spare + 1 => giveBack inRounds follow? start k spare (p.back 1) m

/-- Tries the rest behind more and more characters, up to `spare` further ones. -/
def takeMore (t : CharTest) (inRounds : Bool) (start : Memory) (k : Rest) : (spare : Nat) → Rest
  | spare, p, m =>
    (k p (m.look p)).orElse fun left =>
      let m := (start.regain inRounds left).look p
      match p.step? t with
      | none => .fail m
      | some q =>
        let m := if t.isSubmatch then m.look q else m
        match spare with
        | 0 => .fail m
        | spare + 1 => takeMore t inRounds start k spare q m

/-- How many characters a repetition can take at a place. -/
def room (most? : Option Nat) (p : Place) : Nat := most?.getD p.after.length

/-- The place behind at most `n` characters that pass, and the memory of having looked for it. -/
def takeMost (t : CharTest) (n : Nat) (p : Place) (m : Memory) : Place × Memory :=
  let q := p.past t n
  (q, m.look (if t.isSubmatch then q else p))

/-- The characters of a repetition. -/
def repeated (t : CharTest) (least : Nat) (most? : Option Nat) (follow? : Option Nat)
    (inRounds : Bool) : Greed → Step
  | greed, k, p, m =>
    if !p.hasRoom least then .fail m
    else match greed with
      | .greedy =>
        let (q, m) := t.takeMost (room most? p) p m
        if q.pos - p.pos < least then .fail m
        else giveBack inRounds follow? m k (q.pos - p.pos - least) q m
      | .lazy =>
        let (q, m) := if least = 0 then (p, m.look p) else t.takeMost least p m
        if q.pos - p.pos < least then .fail m
        else takeMore t inRounds m k (min (room most? p - least) q.after.length) q m
      | .possessive =>
        let (q, m) := t.takeMost (room most? p) p m
        if q.pos - p.pos < least then .fail m else k q m

end CharTest

/-! ### Repetitions of anything else -/

namespace Step

/-- Exactly `n` rounds, and the rest behind them. -/
def times (step : Step) (k : Rest) : (n : Nat) → Rest
  | 0, p, m => k p m
  | n + 1, p, m => (step (times step k n) p (m.look p)).lookBack p

/-- Optional rounds, many before few; `last?` is where the round before began. -/
def manyFirst (step : Step) (k : Rest) : (last? : Option Nat) → (fuel : Nat) → Rest
  | _, 0, p, m => (k p (m.look p)).lookBack p
  | last?, fuel + 1, p, m =>
    let m := m.look p
    if last? = some p.pos then (k p m).lookBack p
    else (step (manyFirst step k (some p.pos) fuel) p m).orElse fun left =>
      (k p { left with edges := m.edges, seen := p }).lookBack p

/-- Optional rounds, few before many; `last?` is where the round before began. -/
def fewFirst (step : Step) (inRounds : Bool) (k : Rest) : (last? : Option Nat) → (fuel : Nat) → Rest
  | last?, fuel, p, m =>
    let m := m.look p
    (k p m).orElse fun left =>
      let m := (m.regain inRounds left).look p
      match fuel with
      | 0 => .fail m
      | fuel + 1 =>
        if last? = some p.pos then .fail m
        else (step (fewFirst step inRounds k (some p.pos) fuel) p m).lookBack p

/-- Exactly `n` rounds from the place last looked at, each in its first way only. -/
def firstTimes (step : Step) : (n : Nat) → Memory → Outcome
  | 0, m => ⟨true, m⟩
  | n + 1, m =>
    let o := step accept m.seen m
    if o.found then firstTimes step n o.memory else o

/-- As many optional rounds as possible from the place last looked at, each in its first way only. A
failed round gives back its edges, and not the place. -/
def firstMany (step : Step) : (last? : Option Nat) → (fuel : Nat) → Memory → Memory
  | _, 0, m => m
  | last?, fuel + 1, m =>
    if last? = some m.seen.pos then m
    else
      let o := step accept m.seen m
      if o.found then firstMany step (some m.seen.pos) fuel o.memory
      else { o.memory with edges := m.edges }

/-- How many optional rounds there can be at a place. -/
def optionalRounds (least : Nat) (most? : Option Nat) (p : Place) : Nat :=
  let possible := (p.pos + p.after.length + 2) * (p.pos + p.after.length + 2)
  match most? with
  | some n => min (n - least) possible
  | none => possible

/-- The rounds of a repetition; `inRounds` says whether it stands in a round of another one. -/
def repeated (step : Step) (least : Nat) (most? : Option Nat) (inRounds : Bool) : Greed → Step
  | .greedy, k, p, m =>
    times step (manyFirst step k none (optionalRounds least most? p)) least p m
  | .lazy, k, p, m =>
    times step (fewFirst step inRounds k none (optionalRounds least most? p)) least p m
  | .possessive, k, p, m =>
    let o := (firstTimes step least (m.look p)).lookBack p
    if o.found then
      let m := firstMany step none (optionalRounds least most? p) o.memory
      k m.seen m
    else o

end Step

/-! ### Programs -/

namespace Program

/-- Whether an alternative can be left out at a place, as the character that it begins with does not
pass. -/
def isBarred (p : Place) (a : Program) : Bool :=
  (a.firstTest? none).any fun t => t.isGuard && (p.step? t).isNone

/-- Runs a program from a place on and then the rest; `inRounds` says whether the program stands in a
round of a repetition that can be given up. -/
def run : Program → (inRounds : Bool) → Step
  | done, _, k, p, m => k p m
  | never, _, _, _, m => .fail m
  | one t, _, k, p, m =>
    match p.step? t with
    | some q => k q m
    | none => .fail m
  | anchor multiline ascii a, _, k, p, m => if a.holds multiline ascii p then k p m else .fail m
  | edge i, _, k, p, m => k p (m.keep i p)
  | seq a b, r, k, p, m => a.run r (b.run r k) p m
  | either a b, r, k, p, m =>
    (if a.isBarred p then .fail m else a.run r k p (m.look p)).orElse fun left =>
      b.run r k p (m.regain r left)
  | chars t least most? greed follow?, r, k, p, m => t.repeated least most? follow? r greed k p m
  | rounds least most? greed body, r, k, p, m =>
    Step.repeated (body.run (r || greed ≠ .possessive)) least most? r greed k p m
  | atomic body, r, k, p, m =>
    let o := (body.run r accept p (m.look p)).lookBack p
    if o.found then k o.memory.seen o.memory else o
  | look back negated body, r, k, p, m =>
    if p.pos < back then if negated then k p m else .fail m
    else
      let q := p.back back
      let o := body.run r accept q (m.look q)
      if negated then if o.found then .fail o.memory else k p (m.regain r o.memory)
      else if o.found then k p o.memory else o
  | same rule i, _, k, p, m =>
    match (m.kept? i).bind fun t => p.behind? rule t with
    | some q => k q m
    | none => .fail m
  | given i yes no, r, k, p, m => if (m.kept? i).isSome then yes.run r k p m else no.run r k p m

end Program

/-! ### Search -/

/-- How a search for a pattern ends. -/
inductive Finding where
  | found
  | notFound
  /-- The pattern matches, but the edges of a group have crossed: there is no answer. -/
  | crossed
  deriving DecidableEq, Repr

namespace Pattern

/-- What is remembered after the first match that begins at a place, or at one of the `n - 1` places
behind it. -/
def searchFrom (pat : Pattern) : (n : Nat) → Place → Option Memory
  | 0, _ => none
  | n + 1, p =>
    let o := if pat.opening?.all fun t => (p.step? t).isSome then
        pat.program.run false accept p ⟨[], p⟩
      else .fail ⟨[], p⟩
    if o.found then some o.memory
    else match p.after with
      | [] => none
      | x :: xs => searchFrom pat n ⟨p.pos + 1, x :: p.before, xs⟩

/-- At how many places a match in a text of `n` characters is looked for. -/
def startCount (pat : Pattern) (n : Nat) : Nat :=
  if n < pat.least then 0
  else if pat.opening?.isSome then n
  else n + 1 - (pat.least - 1)

/-- Looks for a pattern in a text. -/
def search (pat : Pattern) (t : Text) : Finding :=
  match pat.searchFrom (pat.startCount t.length) ⟨0, [], t⟩ with
  | none => .notFound
  | some m => if (List.range pat.groups).any fun i => m.isCrossed (i + 1) then .crossed else .found

/-- Whether a pattern is found somewhere in a text. -/
def finds (pat : Pattern) (t : Text) : Bool := pat.search t = .found

end Pattern

end TreeSieve.Regex
