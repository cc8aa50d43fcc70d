import Passpoint.Document.Yaml.Node

/-!
Merging. An entry with the key `<<` stands for the entries of a mapping, or of several mappings,
and these come in front of the entries that the mapping has itself. Merging changes the node:
afterwards it has no such entry, and whoever refers to it finds the merged entries. Since an entry
that is being merged has already left its mapping, merging comes to an end also where mappings
merge each other.
-/

namespace Passpoint.Document.Yaml

abbrev Entry := Nat × Nat

namespace Graph

def node (g : Graph) (id : Nat) : Node := g.getD id .empty

def tag (g : Graph) (id : Nat) : Tag := (g.node id).tag

/-- The entries of a mapping; nothing for another node. -/
def entries? (g : Graph) (id : Nat) : Option (List Entry) :=
  match (g.node id).content with
  | .map entries => some entries
  | _ => none

def items? (g : Graph) (id : Nat) : Option (List Nat) :=
  match (g.node id).content with
  | .seq items => some items
  | _ => none

def setEntries (g : Graph) (id : Nat) (entries : List Entry) : Graph :=
  g.setIfInBounds id ⟨g.tag id, .map entries⟩

/-- Makes a key `=` a text of its own. -/
def retag (g : Graph) (id : Nat) (tag : Tag) : Graph :=
  g.setIfInBounds id ⟨tag, (g.node id).content⟩

end Graph

abbrev Merging := StateT Graph Outcome

namespace Merging

def entries (id : Nat) : Merging (List Entry) := return ((← get).entries? id).getD []

/-- The entries of a mapping once its own merging is done by `flatten`. -/
def flattened (flatten : Nat → Merging Unit) (id : Nat) : Merging (List Entry) := do
  if ((← get).entries? id).isNone then throw .form
  flatten id
  entries id

/-- The entries that a value of the key `<<` stands for. Of several mappings the last comes
first. -/
def merged (flatten : Nat → Merging Unit) (id : Nat) : Merging (List Entry) := do
  match (← get).items? id with
  | some items => return (← items.mapM (flattened flatten)).reverse.flatten
  | none => flattened flatten id

/-- Takes the entries to be merged out of a mapping, from the entry with this index on, and gives
what they stand for. As many turns as the mapping has entries are enough: if entries are added on
the way, the mapping has been merged from inside itself, and holds no more entries to be merged. -/
def takeMerges (flatten : Nat → Merging Unit) (id : Nat) :
    (turns index : Nat) → Merging (List Entry)
  | 0, _ => return []
  | turns + 1, index => do
    match (← entries id)[index]? with
    | none => return []
    | some (key, value) =>
      match (← get).tag key with
      | .merge =>
        let rest := (← entries id).eraseIdx index
        modify fun g => g.setEntries id rest
        let found ← merged flatten value
        return found ++ (← takeMerges flatten id turns index)
      | .value =>
        modify fun g => g.retag key .str
        takeMerges flatten id turns (index + 1)
      | _ => takeMerges flatten id turns (index + 1)

/-- Merges a mapping, and every mapping that it merges. -/
def flatten : (depth : Nat) → (id : Nat) → Merging Unit
  | 0, _ => throw (.unforeseen .tooDeep)
  | depth + 1, id => do
    let found ← takeMerges (flatten depth) id (← entries id).length 0
    if !found.isEmpty then
      let own ← entries id
      modify fun g => g.setEntries id (found ++ own)

end Merging

/-- The nodes after a mapping has been merged. -/
def Graph.merge (g : Graph) (id : Nat) : Outcome Graph :=
  return (← (Merging.flatten Nesting.chain id).run g).2

end Passpoint.Document.Yaml
