import BeanMeter.Yaml.Token

/-! # Layout

Indentation and the keys of mappings as tokens. A text becomes a key only by the colon after it, so
wherever a key may start the lexer leaves a slot, and the colon settles what the slot becomes:
nothing, a key, or a key that also opens a block mapping.

* `Slot` — a token, or a place where a key may turn out to start.
* `Layout` — what the lexer knows at a place: open collections and open slots.
* `Token.scan?` — all tokens of a text.
-/

namespace BeanMeter.Yaml

/-- A token, or a place where a key may turn out to start. -/
inductive Slot where
  | token (t : Token)
  | place (number : Nat)
  deriving Repr

/-- A place where a key may have started. -/
structure Candidate where
  number : Nat
  /-- The place stands where the open block mapping needs a key. -/
  required : Bool
  mark : Mark
  deriving Repr

/-- What a slot has turned out to be. -/
structure Settled where
  number : Nat
  opensMapping : Bool
  deriving Repr

/-- What the lexer knows at a place in a text. -/
structure Layout where
  cursor : Cursor
  /-- The slots so far, the last one first. -/
  slots : List Slot
  /-- The columns of the open block collections, the innermost first. -/
  indents : List Nat
  /-- The key that may have started in each open flow collection, the innermost first, with one
  more at the end for the blocks around them. -/
  candidates : List (Option Candidate)
  /-- Whether a key may start here. -/
  keyAllowed : Bool
  /-- The number of places so far. -/
  places : Nat
  settled : List Settled

namespace Layout

/-- The start of a text. -/
def start (cs : List Char) : Layout := ⟨⟨cs, .start⟩, [], [], [none], true, 0, []⟩

/-- Whether a flow collection is open. -/
def inFlow (l : Layout) : Bool := 1 < l.candidates.length

/-- The column of the innermost block collection. -/
def indent? (l : Layout) : Option Nat := l.indents.head?

/-- The column of the place. -/
def column (l : Layout) : Nat := l.cursor.mark.column

/-- Adds a token. -/
def push (t : Token) (l : Layout) : Layout := { l with slots := .token t :: l.slots }

/-- Passes over `n` characters. -/
def skip (n : Nat) (l : Layout) : Layout := { l with cursor := l.cursor.skip n }

/-! ## Blocks -/

/-- Closes the block collections with more indentation than `keep` allows. -/
def closeBlocks (keep : Nat → Bool) (l : Layout) : Layout :=
  let closed := l.indents.takeWhile fun n => !keep n
  { l with
    slots := closed.map (fun _ => .token .blockEnd) ++ l.slots
    indents := l.indents.dropWhile fun n => !keep n }

/-- Closes the block collections that are indented further than the place. -/
def closeInner (l : Layout) : Layout :=
  if l.inFlow then l else l.closeBlocks fun n => n ≤ l.column

/-- Whether a block collection starts at a column, and is not open there already. -/
def opensAt (column : Nat) (l : Layout) : Bool :=
  !l.inFlow && l.indent?.all fun n => n < column

/-- Opens a block collection at the place, unless it is open already. -/
def openBlock (t : Token) (l : Layout) : Layout :=
  if l.opensAt l.column then { l.push t with indents := l.column :: l.indents } else l

/-! ## Keys -/

/-- Gives up on the key that may have started in the innermost collection; an error if one was
needed there. -/
def dropCandidate? (l : Layout) : Option Layout :=
  match l.candidates with
  | some c :: rest => if c.required then none else some { l with candidates := none :: rest }
  | _ => some l

/-- Leaves a slot for a key, if one may start at the place. -/
def saveCandidate? (l : Layout) : Option Layout :=
  if l.keyAllowed then do
    -- In the column of a block mapping nothing but a key can start.
    let required := !l.inFlow && l.indent? == some l.column
    let l ← l.dropCandidate?
    some { l with
      slots := .place l.places :: l.slots
      candidates := some ⟨l.places, required, l.cursor.mark⟩ :: l.candidates.drop 1
      places := l.places + 1 }
  else some l

/-- Whether a colon at a place comes too late for a key: a key is in one line, and at most 1024
characters long. -/
def Candidate.isStale (now : Mark) (c : Candidate) : Bool :=
  c.mark.line < now.line || c.mark.column + 1024 < now.column

/-- Gives up on the keys that can no longer be completed. -/
def dropStale? (l : Layout) : Option Layout :=
  let isStale := fun c : Candidate => Candidate.isStale l.cursor.mark c
  if l.candidates.any fun o => o.any fun c => isStale c && c.required then none
  else some { l with candidates := l.candidates.map fun o => o.filter fun c => !isStale c }

/-- Sets whether a key may start at the next token. -/
def allowKey (allowed : Bool) (l : Layout) : Layout := { l with keyAllowed := allowed }

/-! ## Between tokens -/

/-- Passes over blanks, comments and line ends, and over byte order marks at the start of lines.
Tabs do not separate where a key may start. -/
def skipGaps : Nat → Layout → Layout
  | 0, l => l
  | fuel + 1, l =>
    -- A tab where a key may start would be indentation.
    let tabs := l.inFlow || !l.keyAllowed
    let c := l.cursor.skipOrderMark
    let c := ((c.span fun x => x == ' ' || (tabs && x == '\t')).2).skipComment
    match c.rest with
    | x :: _ =>
      if isBreak x then skipGaps fuel ({ l with cursor := c.skipBreak }.allowKey
        (!l.inFlow || l.keyAllowed))
      else { l with cursor := c }
    | [] => { l with cursor := c }

/-! ## Tokens -/

/-- Takes a border between documents or a directive; all blocks end before it. -/
def takeBorder? (l : Layout) : Option Layout :=
  ((l.closeBlocks fun _ => false).dropCandidate?).map fun l => l.allowKey false

/-- Takes the start of a flow collection. -/
def takeFlowStart? (t : Token) (l : Layout) : Option Layout :=
  l.saveCandidate?.map fun l =>
    ({ l with candidates := none :: l.candidates }.allowKey true).push t |>.skip 1

/-- Takes the end of a flow collection. -/
def takeFlowEnd? (t : Token) (l : Layout) : Option Layout :=
  l.dropCandidate?.map fun l =>
    let candidates := if l.inFlow then l.candidates.drop 1 else l.candidates
    ({ l with candidates := candidates }.allowKey false).push t |>.skip 1

/-- Takes the dash of a sequence entry. -/
def takeBlockEntry? (l : Layout) : Option Layout := do
  let l ← if l.inFlow then some l
    else if l.keyAllowed then some (l.openBlock .blockSequenceStart) else none
  let l ← l.dropCandidate?
  some ((l.allowKey true).push .blockEntry |>.skip 1)

/-- Takes the question mark of a key. -/
def takeKey? (l : Layout) : Option Layout := do
  let l ← if l.inFlow then some l
    else if l.keyAllowed then some (l.openBlock .blockMappingStart) else none
  let l ← l.dropCandidate?
  some ((l.allowKey !l.inFlow).push .key |>.skip 1)

/-- Takes the colon of a value, and settles what stands before it. -/
def takeValue? (l : Layout) : Option Layout :=
  match l.candidates with
  | some c :: rest =>
    let column := c.mark.column
    let opens := l.opensAt column
    let l := { l with
      candidates := none :: rest
      settled := ⟨c.number, opens⟩ :: l.settled
      indents := if opens then column :: l.indents else l.indents }
    some ((l.allowKey false).push .value |>.skip 1)
  | _ => do
    -- Nothing stands before the colon: the value of an explicit key, or of an empty one.
    let l ← if l.inFlow then some l
      else if l.keyAllowed then some (l.openBlock .blockMappingStart) else none
    some ((l.allowKey !l.inFlow).push .value |>.skip 1)

/-- Takes a token that can be a key or belong to one. -/
def takeKeyPart? (read : Layout → Option (Token × Cursor)) (l : Layout) : Option Layout := do
  let l ← l.saveCandidate?
  let (t, c) ← read l
  some ({ l with cursor := c }.allowKey false |>.push t)

/-- Takes a block scalar. -/
def takeBlock? (literal : Bool) (l : Layout) : Option Layout := do
  let l ← l.dropCandidate?
  let (text, c) ← Block.read? literal l.indent? (l.cursor.skip 1)
  some ({ l with cursor := c }.allowKey true |>.push (.scalar .marked text))

/-- Takes a plain scalar; after it a new line may start a key. -/
def takePlain? (l : Layout) : Option Layout := do
  let l ← l.saveCandidate?
  let (text, broken, c) ← plain? l.inFlow ((l.indent?.map (· + 1)).getD 0) l.cursor
  some ({ l with cursor := c }.allowKey broken |>.push (.scalar .plain text))

/-- Whether a plain scalar may start with these characters. -/
def startsPlain (flow : Bool) : List Char → Bool
  | [] => false
  | c :: rest =>
    !(atGap (c :: rest) || "-?:,[]\x7b\x7d#&*!|>'\"%@\x60".toList.contains c) ||
    (c == '-' && !(rest.head?.any isBlank)) ||
    (!flow && (c == '?' || c == ':') && !atGap rest)

/-- Takes the token that starts with the next character. -/
def takeToken? (l : Layout) (c : Char) (rest : List Char) : Option Layout :=
  let all := c :: rest
  let indicates := l.inFlow || atGap rest
  -- Borders between documents stand at the start of a line.
  if l.column = 0 ∧ c = '%' then do
    let l ← l.takeBorder?
    let (t, stop) ← Token.directive? (l.cursor.skip 1)
    some ({ l with cursor := stop }.push t)
  else if l.column = 0 ∧ startsMarkerOf '-' all then
    l.takeBorder?.map fun l => (l.push .documentStart).skip 3
  else if l.column = 0 ∧ startsMarkerOf '.' all then
    l.takeBorder?.map fun l => (l.push .documentEnd).skip 3
  else if c = '[' then l.takeFlowStart? .flowSequenceStart
  else if c = '\x7b' then l.takeFlowStart? .flowMappingStart
  else if c = ']' then l.takeFlowEnd? .flowSequenceEnd
  else if c = '\x7d' then l.takeFlowEnd? .flowMappingEnd
  else if c = ',' then
    l.dropCandidate?.map fun l => (l.allowKey true).push .flowEntry |>.skip 1
  else if c = '-' ∧ atGap rest then l.takeBlockEntry?
  else if c = '?' ∧ indicates then l.takeKey?
  else if c = ':' ∧ indicates then l.takeValue?
  else if c = '*' then
    l.takeKeyPart? fun l => (Token.name? (l.cursor.skip 1)).map fun (s, c) => (.alias s, c)
  else if c = '&' then
    l.takeKeyPart? fun l => (Token.name? (l.cursor.skip 1)).map fun (s, c) => (.anchor s, c)
  else if c = '!' then l.takeKeyPart? fun l => Token.tag? l.inFlow l.cursor
  else if c = '|' ∧ !l.inFlow then l.takeBlock? true
  else if c = '>' ∧ !l.inFlow then l.takeBlock? false
  else if c = '\'' then
    l.takeKeyPart? fun l =>
      (singleQuoted? (l.cursor.skip 1)).map fun (s, c) => (.scalar .marked s, c)
  else if c = '"' then
    l.takeKeyPart? fun l =>
      (doubleQuoted? (l.cursor.skip 1)).map fun (s, c) => (.scalar .marked s, c)
  else if startsPlain l.inFlow all then l.takePlain?
  else none

/-- The tokens of the slots, in order. -/
def tokens (l : Layout) : List Token :=
  l.slots.reverse.flatMap fun
    | .token t => [t]
    | .place n =>
      match l.settled.find? fun s => s.number == n with
      | some s => if s.opensMapping then [.blockMappingStart, .key] else [.key]
      | none => []

/-- Takes all tokens up to the end of the text, in at most `fuel` steps. -/
def run? : Nat → Layout → Option Layout
  | 0, _ => none
  | fuel + 1, l => do
    let l ← (l.skipGaps (l.cursor.rest.length + 1)).dropStale?
    -- A line that starts further left closes the blocks that it has left.
    let l := l.closeInner
    match l.cursor.rest with
    | [] => (l.closeBlocks fun _ => false).dropCandidate?
    | c :: rest =>
      let l ← l.takeToken? c rest
      run? fuel l

end Layout

/-- The tokens of a text. -/
def Token.scan? (cs : List Char) : Option (List Token) :=
  (Layout.run? (cs.length + 1) (.start cs)).map Layout.tokens

end BeanMeter.Yaml
