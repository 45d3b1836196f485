import BeanMeter.Collection.SortedMap
import BeanMeter.Json.Number
import BeanMeter.Json.Token

/-! # JSON documents

The syntax tree of a JSON text, with numbers and strings as written, and its meaning as a value.
The two are kept apart because parts of a record that nobody asks for need not have a meaning:
a number in them may be too large, a string may hold half a surrogate pair, and they may be nested
to any depth.

* `Document.ofTokens?`, `Document.parse?` — the tree of a text.
* `Document.value?` — its value, with a bound on how deep containers are nested.
* `Json.parse?` — the value of a text.
-/

namespace BeanMeter.Json

/-- The syntax tree of a JSON text. -/
inductive Document where
  | null
  | bool (b : Bool)
  | number (n : NumberText)
  | string (pieces : List StringPiece)
  | array (items : List Document)
  | object (fields : List (List StringPiece × Document))
  deriving Repr, Inhabited

namespace Document

/-- A container that is still open: what it holds so far, in reverse order. -/
inductive Frame where
  | array (done : List Document)
  | object (done : List (List StringPiece × Document)) (key : List StringPiece)

/-- What may come next. -/
inductive Expect where
  | value
  | valueOrClose
  | key (done : List (List StringPiece × Document))
  | keyOrClose
  | colon (done : List (List StringPiece × Document)) (key : List StringPiece)
  /-- A value is complete. -/
  | after (d : Document)

/-- The tree of a token that is a value by itself. -/
def leaf? : Token → Option Document
  | .null => some .null
  | .true => some (.bool true)
  | .false => some (.bool false)
  | .number text => (NumberText.ofChars? text).map .number
  | .string pieces => some (.string pieces)
  | _ => none

/-- Begins a value with a token. -/
def beginValue? (open_ : List Frame) (t : Token) : Option (List Frame × Expect) :=
  match t with
  | .openArray => some (.array [] :: open_, .valueOrClose)
  | .openObject => some (open_, .keyOrClose)
  | t => (leaf? t).map fun d => (open_, .after d)

/-- Takes one token. -/
def step? : List Frame → Expect → Token → Option (List Frame × Expect)
  | open_, .value, t => beginValue? open_ t
  | .array done :: outer, .valueOrClose, .closeArray => some (outer, .after (.array done.reverse))
  | open_, .valueOrClose, t => beginValue? open_ t
  | open_, .keyOrClose, .closeObject => some (open_, .after (.object []))
  | open_, .keyOrClose, .string key => some (open_, .colon [] key)
  | _, .keyOrClose, _ => none
  | open_, .key done, .string key => some (open_, .colon done key)
  | _, .key _, _ => none
  | open_, .colon done key, .colon => some (.object done key :: open_, .value)
  | _, .colon _ _, _ => none
  | .array done :: outer, .after d, .comma => some (.array (d :: done) :: outer, .value)
  | .array done :: outer, .after d, .closeArray => some (outer, .after (.array (d :: done).reverse))
  | .object done key :: outer, .after d, .comma => some (outer, .key ((key, d) :: done))
  | .object done key :: outer, .after d, .closeObject =>
    some (outer, .after (.object ((key, d) :: done).reverse))
  | _, .after _, _ => none

/-- Reads the tokens from a given point on. -/
def buildFrom? (open_ : List Frame) (expect : Expect) : List Token → Option Document
  | [] =>
    match open_, expect with
    | [], .after d => some d
    | _, _ => none
  | t :: ts => (step? open_ expect t).bind fun (open_, expect) => buildFrom? open_ expect ts

/-- The tree of a sequence of tokens. -/
def ofTokens? (ts : List Token) : Option Document := buildFrom? [] .value ts

/-- The tree of a text. -/
def parse? (cs : List Char) : Option Document := (Token.scan? cs).bind ofTokens?

/-! ## Meaning -/

/-- Whether a code unit begins a surrogate pair. -/
def isHighSurrogate (n : Nat) : Bool := 0xd800 ≤ n && n ≤ 0xdbff

/-- Whether a code unit ends a surrogate pair. -/
def isLowSurrogate (n : Nat) : Bool := 0xdc00 ≤ n && n ≤ 0xdfff

/-- The text of a string. There is none if it holds half a surrogate pair. -/
def text? : List StringPiece → Option (List Char)
  | [] => some []
  | .char c :: rest => (text? rest).map (c :: ·)
  | .unit h :: .unit l :: rest =>
    -- Only the first half of a pair looks at the unit after it.
    if isHighSurrogate h then
      if isLowSurrogate l then
        (text? rest).map (Char.ofNat (0x10000 + (h - 0xd800) * 0x400 + (l - 0xdc00)) :: ·)
      else none
    else if isLowSurrogate h then none
    else (text? (.unit l :: rest)).map (Char.ofNat h :: ·)
  | .unit h :: rest =>
    if isHighSurrogate h || isLowSurrogate h then none
    else (text? rest).map (Char.ofNat h :: ·)

/-- The string that a sequence of pieces writes. -/
def stringOf? (pieces : List StringPiece) : Option String := (text? pieces).map String.ofList

/-- How many containers may be nested in each other. -/
def maxDepth : Nat := 127

mutual

/-- The value of a tree with at most `depth` containers nested in each other. Entries of an object
are sorted by key, and of two with one key the later counts. -/
def value? (depth : Nat) : Document → Option Json
  | .null => some .null
  | .bool b => some (.bool b)
  | .number n => n.value?
  | .string pieces => (stringOf? pieces).map .str
  | .array items =>
    if depth = 0 then none else (values? (depth - 1) items).map .arr
  | .object fields =>
    if depth = 0 then none
    else (fieldValues? (depth - 1) fields).map fun fs => .obj (SortedMap.ofList fs).entries

/-- The values of a list of trees. -/
def values? (depth : Nat) : List Document → Option (List Json)
  | [] => some []
  | d :: ds =>
    match value? depth d, values? depth ds with
    | some v, some vs => some (v :: vs)
    | _, _ => none

/-- The keys and values of a list of entries. -/
def fieldValues? (depth : Nat) : List (List StringPiece × Document) → Option (List (String × Json))
  | [] => some []
  | (k, d) :: fs =>
    match stringOf? k, value? depth d, fieldValues? depth fs with
    | some key, some v, some vs => some ((key, v) :: vs)
    | _, _, _ => none

end

end Document

/-- The value of a JSON text. -/
def parse? (s : String) : Option Json :=
  (Document.parse? s.toList).bind (Document.value? Document.maxDepth)

end BeanMeter.Json
