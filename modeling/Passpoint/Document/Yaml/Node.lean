import Passpoint.Document.Yaml.Lexing
import Passpoint.Document.Yaml.Tag

/-!
The nodes of a YAML document. They form a graph: a collection names its parts by their numbers, and
an alias is the number of the node that it names, which may be a collection around it. A text holds
one document at most.

The reader goes down the text once and looks one token ahead. A loop over entries takes a token
each turn, so the length of the text bounds its turns; another bound limits how deeply nodes may be
nested.
-/

namespace Passpoint.Document.Yaml

open Text (Codes charsOf)

/-- What a node holds. -/
inductive Content where
  | scalar (codes : Codes)
  | seq (items : List Nat)
  | map (entries : List (Nat × Nat))

structure Node where
  tag : Tag
  content : Content

/-- The nodes of a document by number. -/
abbrev Graph := Array Node

/-- What an entry without a value holds. -/
def Node.empty : Node := ⟨.null, .scalar []⟩

/-- What is left of the text, and the nodes read so far. -/
structure Reading where
  lexing : Lexing
  graph : Graph := #[]
  /-- The nodes that aliases can name. -/
  anchors : List (String × Nat) := []

abbrev Reader := StateT Reading Outcome

namespace Reading

def refuse {α : Type} : Reader α := throw .form

def peek : Reader (Option Token) := do
  let s ← get
  let (t, lexing) ← s.lexing.peek
  set { s with lexing }
  return t

def advance : Reader Unit := modify fun s => { s with lexing := s.lexing.advance }

/-- Takes a token if it comes next. -/
def accept (t : Token) : Reader Bool := do
  if (← peek) = some t then
    advance
    return true
  else return false

def expect (t : Token) : Reader Unit := do if !(← accept t) then refuse

/-- Whether one of these tokens comes next. -/
def comes (ts : List Token) : Reader Bool := return (← peek).any ts.contains

/-- Turns enough for a loop that takes a token each time. -/
def turns : Reader Nat := return (← get).lexing.cursor.turns

/-! ### Nodes -/

/-- Adds a node; its number is the count of those before it. -/
def add (n : Node) : Reader Nat :=
  modifyGet fun s => (s.graph.size, { s with graph := s.graph.push n })

def anchor? : Reader (Option String) := do
  match ← peek with
  | some (.anchor name) => advance; return some name
  | _ => return none

def tag? : Reader (Option (Option String × String)) := do
  match ← peek with
  | some (.tag handle suffix) => advance; return some (handle, suffix)
  | _ => return none

/-- The anchor and the tag in front of a node, in either order. -/
def properties : Reader (Option String × Option (Option String × String)) := do
  match ← anchor? with
  | some name => return (some name, ← tag?)
  | none =>
    let tag ← tag?
    if tag.isSome then return (← anchor?, tag) else return (none, none)

/-- The name that a tag spells. A handle must have a meaning. -/
def tagName? (handles : List (String × String)) : Option String × String → Option String
  | (none, suffix) => some suffix
  | (some handle, suffix) => (handles.lookup handle).map (· ++ suffix)

/-- The tag of a collection; a lone exclamation mark leaves the usual one. -/
def collectionTag (usual : Tag) (name : Option String) : Tag :=
  match name with
  | none => usual
  | some name => if name = "!" then usual else .ofName name

/-- The tag of a scalar. Its spelling counts if it is plain and untagged, or tagged by a lone
exclamation mark. -/
def scalarTag (name : Option String) (plain : Bool) (codes : Codes) : Tag :=
  match name with
  | none => if plain then .ofPlain (charsOf codes) else .str
  | some name => if name = "!" then .ofPlain (charsOf codes) else .ofName name

/-- Adds a node that an anchor may name. No two nodes may have one anchor. -/
def addNamed (anchor : Option String) (n : Node) : Reader Nat := do
  match anchor with
  | none => add n
  | some name =>
    if ((← get).anchors.lookup name).isSome then refuse
    let id ← add n
    modify fun s => { s with anchors := (name, id) :: s.anchors }
    return id

/-- Adds a collection, which its own parts may refer to. -/
def addCollection (anchor : Option String) (tag : Tag) (read : Reader Content) : Reader Nat := do
  let id ← addNamed anchor ⟨tag, .seq []⟩
  let content ← read
  modify fun s => { s with graph := s.graph.setIfInBounds id ⟨tag, content⟩ }
  return id

/-! ### Collections -/

/-- Where the entries of a collection stand: in a block, or between brackets. -/
inductive Style where
  | block
  | flow
  deriving DecidableEq

/-- The tokens that end a key of a mapping. -/
def Style.keyEnds : Style → List Token
  | .block => [.key, .value, .blockEnd]
  | .flow => [.value, .comma, .closeBrace]

/-- The tokens that end a value of a mapping. -/
def Style.valueEnds : Style → List Token
  | .block => [.key, .value, .blockEnd]
  | .flow => [.comma, .closeBrace]

/-- A reader of the parts of a collection. As the key or value of a block mapping a sequence need
not be indented. -/
abbrev PartReader := Style → (unindented : Bool) → Reader Nat

/-- A node, unless one of `ends` comes next. -/
def optional (part : PartReader) (style : Style) (ends : List Token) (unindented : Bool) :
    Reader Nat := do
  if ← comes ends then add .empty else part style unindented

/-- The value behind its mark, or nothing if there is no mark. -/
def value (part : PartReader) (style : Style) (ends : List Token) : Reader Nat := do
  if ← accept .value then optional part style ends (style = .block) else add .empty

/-- The entries of a block sequence; `ends` come after an entry that is empty. -/
def blockItems (part : PartReader) (ends : List Token) : (fuel : Nat) → Reader (List Nat)
  | 0 => refuse
  | fuel + 1 => do
    if !(← accept .blockEntry) then return []
    let item ← optional part .block ends false
    return item :: (← blockItems part ends fuel)

/-- The entries of a block mapping. -/
def blockEntries (part : PartReader) : (fuel : Nat) → Reader (List (Nat × Nat))
  | 0 => refuse
  | fuel + 1 => do
    if !(← accept .key) then return []
    let key ← optional part .block Style.block.keyEnds true
    let value ← value part .block Style.block.valueEnds
    return (key, value) :: (← blockEntries part fuel)

/-- A pair between brackets, which stands for a mapping. -/
def flowPair (part : PartReader) : Reader Nat :=
  addCollection none .map do
    let key ← optional part .flow [.value, .comma, .closeBracket] false
    let value ← value part .flow [.comma, .closeBracket]
    return .map [(key, value)]

/-- The items between brackets, to the closing one. -/
def flowItems (part : PartReader) (first : Bool) : (fuel : Nat) → Reader (List Nat)
  | 0 => refuse
  | fuel + 1 => do
    if ← accept .closeBracket then return []
    if !first then
      expect .comma
      if ← accept .closeBracket then return []
    let item ← if ← accept .key then flowPair part else part .flow false
    return item :: (← flowItems part false fuel)

/-- The entries between braces, to the closing one. An item without a key mark is a key alone. -/
def flowEntries (part : PartReader) (first : Bool) : (fuel : Nat) → Reader (List (Nat × Nat))
  | 0 => refuse
  | fuel + 1 => do
    if ← accept .closeBrace then return []
    if !first then
      expect .comma
      if ← accept .closeBrace then return []
    let entry ←
      if ← accept .key then do
        let key ← optional part .flow Style.flow.keyEnds false
        pure (key, ← value part .flow Style.flow.valueEnds)
      else pure (← part .flow false, ← add .empty)
    return entry :: (← flowEntries part false fuel)

/-- The content of the collection that the next token opens, if it opens one, with its usual tag.
-/
def collection? (part : PartReader) (style : Style) (unindented : Bool) (next : Option Token) :
    Option (Tag × Reader Content) :=
  match next, style with
  | some .blockEntry, _ =>
    if unindented then
      some (.seq, return .seq (← blockItems part [.blockEntry, .key, .value, .blockEnd] (← turns)))
    else none
  | some .openBracket, _ =>
    some (.seq, do advance; return .seq (← flowItems part true (← turns)))
  | some .openBrace, _ =>
    some (.map, do advance; return .map (← flowEntries part true (← turns)))
  | some .blockSequence, .block =>
    some (.seq, do
      advance
      let items ← blockItems part [.blockEntry, .blockEnd] (← turns)
      expect .blockEnd
      return .seq items)
  | some .blockMapping, .block =>
    some (.map, do
      advance
      let entries ← blockEntries part (← turns)
      expect .blockEnd
      return .map entries)
  | _, _ => none

/-- One node with at most `depth` levels. -/
def node (handles : List (String × String)) : (depth : Nat) → PartReader
  | 0, _, _ => throw (.unforeseen .tooDeep)
  | depth + 1, style, unindented => do
    if let some (.alias name) ← peek then
      advance
      match (← get).anchors.lookup name with
      | some id => return id
      | none => refuse
    let (anchor, tag) ← properties
    let tag ← tag.mapM fun t => (require (tagName? handles t) : Outcome String)
    let next ← peek
    match collection? (node handles depth) style unindented next, next with
    | some (usual, content), _ => addCollection anchor (collectionTag usual tag) content
    | none, some (.scalar codes plain) =>
      advance
      addNamed anchor ⟨scalarTag tag plain codes, .scalar codes⟩
    | none, _ =>
      -- A node without content has something in front of it.
      if anchor.isNone ∧ tag.isNone then refuse
      addNamed anchor ⟨scalarTag tag true [], .scalar []⟩

/-! ### Documents -/

/-- The handles that need no directive. -/
def usualHandles : List (String × String) := [("!", "!"), ("!!", standardTags)]

/-- The handles that directives define; no handle may come twice, and the version only once. -/
def directives (versioned : Bool) (known : List (String × String)) :
    (fuel : Nat) → Reader (List (String × String))
  | 0 => refuse
  | fuel + 1 => do
    match ← peek with
    | some (.directive d) =>
      advance
      match d with
      | .version major => if versioned ∨ major ≠ 1 then refuse else directives true known fuel
      | .handle name meaning =>
        if (known.lookup name).isSome then refuse
        else directives versioned ((name, meaning) :: known) fuel
      | .other => directives versioned known fuel
    | _ => return known

def skipEnds : (fuel : Nat) → Reader Unit
  | 0 => return
  | fuel + 1 => do if ← accept .documentEnd then skipEnds fuel

/-- Behind the document there may be marks of its end. Directives and the start of another document
are read before it is refused. -/
def finish : Reader Unit := do
  skipEnds (← turns)
  if (← peek).isSome then
    let _ ← directives false [] (← turns)
    let _ ← peek
    refuse

/-- The node of the document; nothing for a text without one. -/
def document : Reader (Option Nat) := do
  match ← peek with
  | none => return none
  | some (.directive _) | some .documentStart =>
    let known ← directives false [] (← turns)
    expect .documentStart
    let root ← match ← peek with
      | none | some (.directive _) | some .documentStart | some .documentEnd => add .empty
      | _ => node (known ++ usualHandles) Nesting.yaml .block false
    finish
    return some root
  | _ =>
    let root ← node usualHandles Nesting.yaml .block false
    finish
    return some root

end Reading

/-- The nodes of the document in a text, and the number of its root. -/
def Graph.ofText (cs : List Char) : Outcome (Graph × Option Nat) := do
  let (root, s) ← Reading.document.run { lexing := ← Lexing.ofText cs }
  return (s.graph, root)

end Passpoint.Document.Yaml
