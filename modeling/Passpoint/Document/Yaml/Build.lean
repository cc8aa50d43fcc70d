import Passpoint.Document.Value
import Passpoint.Document.Yaml.Merge
import Passpoint.Document.Yaml.ScalarValue

/-!
The document that the nodes of a text describe. Every node with a tag of a collection becomes one
collection of the document, however often it is referred to. The collections are filled in the
order in which they were met, so the parts of a collection wait until those met before it have been
filled. A key must be a scalar.
-/

namespace Passpoint.Document.Yaml

open Text (Codes)

/-- The text of a node that has to be a scalar. A mapping has that of its key `=`. -/
def Graph.text (g : Graph) : (depth : Nat) → (id : Nat) → Outcome Codes
  | 0, _ => .error (.unforeseen .tooDeep)
  | depth + 1, id =>
    match (g.node id).content with
    | .scalar codes => .ok codes
    | .seq _ => .error .form
    | .map entries =>
      match entries.find? fun e => g.tag e.1 = .value with
      | some (_, value) => g.text depth value
      | none => .error .form

/-- The value of a node that is no collection by its tag. -/
def Graph.atom (g : Graph) (id : Nat) : Outcome Atom := do
  let tag := g.tag id
  if [Tag.merge, .value, .unknown].contains tag then throw .form
  let codes ← g.text Nesting.chain id
  if tag = .timestamp ∧ (g.entries? id).isSome then throw (.unforeseen .timeOfMapping)
  scalarValue tag id codes

def isCollection (tag : Tag) : Bool := [Tag.seq, .map, .set, .orderedMap, .pairs].contains tag

structure Building where
  graph : Graph
  /-- The values of the nodes, as far as they have been met. -/
  values : Array (Option Value)
  /-- The nodes that become collections, in the order in which they were met. -/
  met : Array Nat := #[]
  /-- The collections that have been filled, in the same order. -/
  cells : Cells := #[]

abbrev Builder := StateT Building Outcome

namespace Builder

def graph : Builder Graph := return (← get).graph

/-- The value of a node that is met for the first time; a collection is a reference to one that is
filled later. -/
def meet (id : Nat) : Builder Value := do
  let s ← get
  if isCollection (s.graph.tag id) then
    set { s with met := s.met.push id }
    return .link s.met.size
  else return .atom (← s.graph.atom id)

def value (id : Nat) : Builder Value := do
  match (← get).values.getD id none with
  | some v => return v
  | none =>
    let v ← meet id
    modify fun s => { s with values := s.values.setIfInBounds id (some v) }
    return v

def key (id : Nat) : Builder Atom := do
  match ← value id with
  | .atom a => return a
  | _ => throw .form

def entries : List Entry → List (Atom × Value) → Builder (List (Atom × Value))
  | [], done => return done
  | (k, v) :: rest, done => do
    let k ← key k
    let v ← value v
    entries rest (putEntry k v done)

/-- The entries of a mapping, with what it merges. -/
def mapping (id : Nat) : Builder (List (Atom × Value)) := do
  let s ← get
  if (s.graph.entries? id).isNone then throw .form
  let graph ← s.graph.merge id
  set { s with graph }
  entries ((graph.entries? id).getD []) []

/-- An item of a list of pairs, which is a mapping of one entry. -/
def pair (id : Nat) : Builder Value := do
  match (← graph).entries? id with
  | some [(k, v)] => return .pair (← value k) (← value v)
  | _ => throw .form

def items (id : Nat) : Builder (List Nat) := do
  match (← graph).items? id with
  | some items => return items
  | none => throw .form

/-- What a collection holds. -/
def collection (id : Nat) : Builder Value := do
  match (← graph).tag id with
  | .map => return .map (← mapping id)
  | .set => return .set ((← mapping id).map (·.1))
  | .orderedMap | .pairs => return .list (← (← items id).mapM pair)
  | _ => return .list (← (← items id).mapM value)

/-- Fills the collections that have been met, with those met on the way. No node is met twice, so
the number of nodes is enough turns. -/
def fill : (turns : Nat) → Builder Unit
  | 0 => return
  | turns + 1 => do
    let s ← get
    match s.met[s.cells.size]? with
    | none => return
    | some id =>
      let v ← collection id
      modify fun s => { s with cells := s.cells.push v }
      fill turns

end Builder

/-- The document with this root. -/
def Graph.build (g : Graph) (root : Nat) : Outcome Document := do
  let build : Builder Value := do
    let v ← Builder.value root
    Builder.fill g.size
    return v
  let (v, s) ← build.run { graph := g, values := Array.replicate g.size none }
  return ⟨v, s.cells⟩

/-- The document in a text; a text without one says nothing. -/
def document (cs : List Char) : Outcome Document := do
  match ← Graph.ofText cs with
  | (_, none) => return { root := .null }
  | (g, some root) => g.build root

end Passpoint.Document.Yaml
