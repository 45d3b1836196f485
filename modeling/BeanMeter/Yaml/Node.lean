import BeanMeter.Collection.SortedMap
import BeanMeter.Yaml.Layout

/-! # YAML nodes

The tree of a YAML document.

* `Node` — scalars, sequences, mappings and the references between them.
* `Document` — a node and what its references stand for.
* `Document.parse?` — the only document of a text.
-/

namespace BeanMeter.Yaml

/-- A part of a document. Anchors are numbers; names matter only while a text is read. -/
inductive Node where
  | scalar (style : ScalarStyle) (tag : Option String) (text : String)
  | sequence (items : List Node)
  | mapping (entries : List (Node × Node))
  | alias (anchor : Nat)
  | anchored (anchor : Nat) (node : Node)
  deriving Repr, Inhabited

namespace Node

/-- The node where nothing is written. -/
def absent : Node := .scalar .plain none ""

/-! ## Reading tokens -/

/-- The tokens ahead, and the names known so far. -/
structure Reader where
  tokens : List Token
  /-- The number of the last anchor of each name. -/
  anchors : SortedMap String Nat
  /-- What tag handles stand for. -/
  handles : List (String × String)

namespace Reader

/-- The token ahead. -/
def head? (r : Reader) : Option Token := r.tokens.head?

/-- Passes over a token. -/
def next (r : Reader) : Reader := { r with tokens := r.tokens.drop 1 }

/-- Whether the token ahead is one of those given, or there is none. -/
def atOneOf (ts : List Token) (r : Reader) : Bool := r.head?.all ts.contains

/-- What is said about a node before it. -/
structure Properties where
  anchor : Option String := none
  tag : Option (String × String) := none

/-- Takes an anchor and a tag, in either order. -/
def properties (r : Reader) : Properties × Reader :=
  match r.tokens with
  | .anchor a :: .tag h s :: rest => (⟨some a, some (h, s)⟩, { r with tokens := rest })
  | .tag h s :: .anchor a :: rest => (⟨some a, some (h, s)⟩, { r with tokens := rest })
  | .anchor a :: rest => (⟨some a, none⟩, { r with tokens := rest })
  | .tag h s :: rest => (⟨none, some (h, s)⟩, { r with tokens := rest })
  | _ => ({}, r)

/-- The whole tag for a handle and a suffix. -/
def tag? (r : Reader) (handle suffix : String) : Option String :=
  if handle = "" then some suffix
  else
    match r.handles.find? fun h => h.1 == handle with
    | some (_, meaning) => some (meaning ++ suffix)
    | none => none

/-- Gives an anchor a number: the number of different names before it. -/
def define (r : Reader) : Option String → Option Nat × Reader
  | none => (none, r)
  | some name =>
    let number := r.anchors.size
    (some number, { r with anchors := r.anchors.insert name number })

end Reader

/-- The node with an anchor, if it has one. -/
def withAnchor (anchor : Option Nat) (n : Node) : Node :=
  match anchor with
  | some number => .anchored number n
  | none => n

/-- Where a node stands: block collections are not allowed everywhere, and only as the value or the
key of a block mapping a sequence may be indented no further than what it belongs to. -/
inductive Place where
  | flow
  | block
  | blockMapping
  deriving DecidableEq, Repr

mutual

/-- Reads a node. Every call takes a token or leads to one that does within three steps, so `fuel`
of three for each token is enough. -/
def read? (fuel : Nat) (place : Place) (r : Reader) : Option (Node × Reader) :=
  match fuel with
  | 0 => none
  | fuel + 1 =>
    match r.head? with
    | some (.alias name) => (r.anchors.get? name).map fun number => (.alias number, r.next)
    | _ => do
      let (about, r) := r.properties
      let tag ← match about.tag with
        | none => some none
        | some (handle, suffix) => (r.tag? handle suffix).map some
      match r.head? with
      | some .blockEntry =>
        -- The dash of an entry without a sequence around it.
        if place = .blockMapping then do
          let (anchor, r) := r.define about.anchor
          let (items, r) ← dashes? fuel r
          some (withAnchor anchor (.sequence items), r)
        else if about.anchor.isSome ∨ about.tag.isSome then
          let (anchor, r) := r.define about.anchor
          some (withAnchor anchor (.scalar .plain tag ""), r)
        else none
      | some (.scalar style text) =>
        let (anchor, r) := r.next.define about.anchor
        some (withAnchor anchor (.scalar style tag text), r)
      | some .flowSequenceStart => do
        let (anchor, r) := r.next.define about.anchor
        let (items, r) ← flowItems? fuel true r
        some (withAnchor anchor (.sequence items), r)
      | some .flowMappingStart => do
        let (anchor, r) := r.next.define about.anchor
        let (entries, r) ← flowEntries? fuel true r
        some (withAnchor anchor (.mapping entries), r)
      | t =>
        if t = some .blockSequenceStart ∧ place ≠ .flow then do
          let (anchor, r) := r.next.define about.anchor
          let (items, r) ← blockItems? fuel r
          some (withAnchor anchor (.sequence items), r)
        else if t = some .blockMappingStart ∧ place ≠ .flow then do
          let (anchor, r) := r.next.define about.anchor
          let (entries, r) ← blockEntries? fuel r
          some (withAnchor anchor (.mapping entries), r)
        -- An anchor or a tag with nothing behind it belongs to an empty scalar.
        else if about.anchor.isSome ∨ about.tag.isSome then
          let (anchor, r) := r.define about.anchor
          some (withAnchor anchor (.scalar .plain tag ""), r)
        else none

/-- Reads a node, unless one of the given tokens is ahead. -/
def readUnless? (fuel : Nat) (place : Place) (stops : List Token) (r : Reader) :
    Option (Node × Reader) :=
  match fuel with
  | 0 => none
  | fuel + 1 => if r.atOneOf stops then some (absent, r) else read? fuel place r

/-- The items of a block sequence, up to its end. -/
def blockItems? (fuel : Nat) (r : Reader) : Option (List Node × Reader) :=
  match fuel with
  | 0 => none
  | fuel + 1 =>
    match r.head? with
    | some .blockEntry => do
      let (item, r) ← readUnless? fuel .block [.blockEntry, .blockEnd] r.next
      let (items, r) ← blockItems? fuel r
      some (item :: items, r)
    | some .blockEnd => some ([], r.next)
    | _ => none

/-- The items of a sequence that is not indented, up to something else. -/
def dashes? (fuel : Nat) (r : Reader) : Option (List Node × Reader) :=
  match fuel with
  | 0 => none
  | fuel + 1 =>
    match r.head? with
    | some .blockEntry => do
      let (item, r) ← readUnless? fuel .block [.blockEntry, .key, .value, .blockEnd] r.next
      let (items, r) ← dashes? fuel r
      some (item :: items, r)
    | _ => some ([], r)

/-- The entries of a block mapping, up to its end. A key and a value may each be missing. -/
def blockEntries? (fuel : Nat) (r : Reader) : Option (List (Node × Node) × Reader) :=
  match fuel with
  | 0 => none
  | fuel + 1 =>
    match r.head? with
    | some .key => do
      let (key, r) ← readUnless? fuel .blockMapping [.key, .value, .blockEnd] r.next
      let (value, r) ←
        if r.head? = some .value then
          readUnless? fuel .blockMapping [.key, .value, .blockEnd] r.next
        else some (absent, r)
      let (entries, r) ← blockEntries? fuel r
      some ((key, value) :: entries, r)
    | some .blockEnd => some ([], r.next)
    | _ => none

/-- The items of a flow sequence, up to its end. A key among them starts a mapping of one entry. -/
def flowItems? (fuel : Nat) (first : Bool) (r : Reader) : Option (List Node × Reader) :=
  match fuel with
  | 0 => none
  | fuel + 1 => do
    if r.head? = some .flowSequenceEnd then some ([], r.next)
    else
      let r ← if first then some r
        else if r.head? = some .flowEntry then some r.next else none
      match r.head? with
      | some .flowSequenceEnd => some ([], r.next)
      | some .key => do
        let r := r.next
        let (key, r) ←
          if r.atOneOf [.value, .flowEntry, .flowSequenceEnd] then some (absent, r.next)
          else read? fuel .flow r
        let (value, r) ←
          if r.head? = some .value then
            readUnless? fuel .flow [.flowEntry, .flowSequenceEnd] r.next
          else some (absent, r)
        let (items, r) ← flowItems? fuel false r
        some (.mapping [(key, value)] :: items, r)
      | _ => do
        let (item, r) ← read? fuel .flow r
        let (items, r) ← flowItems? fuel false r
        some (item :: items, r)

/-- The entries of a flow mapping, up to its end. A text without a colon is a key without a
value. -/
def flowEntries? (fuel : Nat) (first : Bool) (r : Reader) :
    Option (List (Node × Node) × Reader) :=
  match fuel with
  | 0 => none
  | fuel + 1 => do
    if r.head? = some .flowMappingEnd then some ([], r.next)
    else
      let r ← if first then some r
        else if r.head? = some .flowEntry then some r.next else none
      match r.head? with
      | some .flowMappingEnd => some ([], r.next)
      | some .key => do
        let (key, r) ← readUnless? fuel .flow [.value, .flowEntry, .flowMappingEnd] r.next
        let (value, r) ←
          if r.head? = some .value then
            readUnless? fuel .flow [.flowEntry, .flowMappingEnd] r.next
          else some (absent, r)
        let (entries, r) ← flowEntries? fuel false r
        some ((key, value) :: entries, r)
      | _ => do
        let (key, r) ← read? fuel .flow r
        let (entries, r) ← flowEntries? fuel false r
        some ((key, absent) :: entries, r)

end

/-! ## References -/

mutual

/-- The anchored nodes in a node, in the order in which they start. -/
def anchors : Node → List (Nat × Node)
  | .scalar _ _ _ => []
  | .sequence items => anchorsOfItems items
  | .mapping entries => anchorsOfEntries entries
  | .alias _ => []
  | .anchored number n => (number, n) :: anchors n

/-- The anchored nodes in the items of a sequence. -/
def anchorsOfItems : List Node → List (Nat × Node)
  | [] => []
  | n :: ns => anchors n ++ anchorsOfItems ns

/-- The anchored nodes in the entries of a mapping. -/
def anchorsOfEntries : List (Node × Node) → List (Nat × Node)
  | [] => []
  | (k, v) :: es => anchors k ++ anchors v ++ anchorsOfEntries es

end

end Node

/-! ## Documents -/

/-- A node and what its references stand for. -/
structure Document where
  /-- Nothing, if the text holds no document. -/
  root : Option Node
  /-- The anchored nodes in the order in which they start; of two with one number the later
  counts. -/
  anchors : List (Nat × Node)

namespace Document

/-- The meanings of tag handles that need no directive. -/
def defaultHandles : List (String × String) := [("!", "!"), ("!!", "tag:yaml.org,2002:")]

/-- Whether a version of the language can be read. -/
def isKnownVersion (major minor : Nat) : Bool := major == 1 && (minor == 1 || minor == 2)

/-- Takes the directives before a document. -/
def directives? (versioned : Bool) (handles : List (String × String)) :
    List Token → Option (List (String × String) × List Token)
  | .version major minor :: rest =>
    if versioned || !isKnownVersion major minor then none else directives? true handles rest
  | .handle name meaning :: rest =>
    if handles.any fun h => h.1 == name then none
    else directives? versioned (handles ++ [(name, meaning)]) rest
  | rest => some (handles, rest)

/-- Reads the tokens of a text that holds one document at most. -/
def ofTokens? (ts : List Token) : Option Document :=
  if ts = [] then some ⟨none, []⟩
  else do
    let (handles, rest) ← directives? false [] ts
    let explicit := rest.head? == some .documentStart
    -- Directives are of use only to a document that starts explicitly.
    if !explicit && rest.length != ts.length then none
    let rest := if explicit then rest.drop 1 else rest
    let (node, r) ←
      if explicit ∧ rest.head?.all (fun t => t = .documentStart ∨ t = .documentEnd) then
        some (.absent, ⟨rest, .empty, []⟩)
      else Node.read? (4 * ts.length + 4) .block ⟨rest, .empty, handles ++ defaultHandles⟩
    if (r.tokens.dropWhile fun t => t == .documentEnd) = [] then some ⟨some node, node.anchors⟩
    else none

/-- Reads the document of a text. -/
def parse? (s : String) : Option Document :=
  (normalize? s).bind fun cs => (Token.scan? cs).bind ofTokens?

/-- What a node stands for. -/
def resolve (d : Document) : Node → Node
  | .alias number =>
    match d.anchors.reverse.find? fun a => a.1 == number with
    | some (_, n) => n
    | none => .absent
  | .anchored _ n => n
  | n => n

/-- What the document stands for. -/
def content (d : Document) : Node := d.resolve (d.root.getD .absent)

/-! ## Meaning -/

/-- The words for null. -/
def isNullWord (s : String) : Bool := s == "~" || s == "null" || s == "Null" || s == "NULL"

/-- Whether nothing is written for a node. -/
def isEmptyPlain : Node → Bool
  | .scalar .plain _ text => text == ""
  | _ => false

/-- The tag of null. -/
def nullTag : String := "tag:yaml.org,2002:null"

/-- Whether a node is null, if it may be; a node with the tag of null has to be. -/
def isNull? : Node → Option Bool
  | .scalar .plain none text => some (text == "" || isNullWord text)
  | .scalar .plain (some tag) text =>
    if tag = nullTag then (if isNullWord text then some true else none) else some false
  | _ => some false

/-- The text of a scalar of any kind. -/
def text? (d : Document) (n : Node) : Option String :=
  match d.resolve n with
  | .scalar _ _ text => some text
  | _ => none

/-- Reads a value that may be null. -/
def optional? {α : Type} (d : Document) (read : Node → Option α) (n : Node) : Option (Option α) :=
  let n := d.resolve n
  (isNull? n).bind fun isNull => if isNull then some none else (read n).map some

/-- The items of a sequence; nothing at all is an empty one. -/
def items? (d : Document) (n : Node) : Option (List Node) :=
  match d.resolve n with
  | .sequence items => some items
  | n => if isEmptyPlain n then some [] else none

/-- The entries of a mapping; nothing at all is an empty one. -/
def entries? (d : Document) (n : Node) : Option (List (Node × Node)) :=
  match d.resolve n with
  | .mapping entries => some entries
  | n => if isEmptyPlain n then some [] else none

/-- Reads a mapping from texts; of two entries with one key the later counts. -/
def map? {α : Type} (d : Document) (read : Node → Option α) (n : Node) :
    Option (SortedMap String α) :=
  (d.entries? n).bind fun entries =>
    (entries.mapM fun (k, v) => do return (← d.text? k, ← read v)).map .ofList

/-- Reads a mapping with fixed keys, none of them twice. -/
def fields? (d : Document) (names : List String) (n : Node) : Option (List (String × Node)) := do
  let entries ← d.entries? n
  let fields ← entries.mapM fun (k, v) => (d.text? k).map fun name => (name, v)
  let keys := fields.map (·.1)
  if keys.all names.contains ∧ keys.Nodup then some fields else none

end Document

/-- The value of a field, or a default where it is missing. -/
def fieldOr? {α : Type} (fields : List (String × Node)) (name : String) (default : α)
    (read : Node → Option α) : Option α :=
  match fields.find? fun f => f.1 == name with
  | some (_, n) => read n
  | none => some default

end BeanMeter.Yaml
