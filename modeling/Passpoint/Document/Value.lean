import Passpoint.Document.Atom

/-!
Documents: a root value and the collections that values can refer to by number. A reference lets a
collection stand in several places, and inside itself; a document without references is a tree.
-/

namespace Passpoint.Document

inductive Value where
  | atom (a : Atom)
  | list (items : List Value)
  | pair (first second : Value)
  | set (items : List Atom)
  /-- Entries in the order in which their keys first came. -/
  | map (entries : List (Atom × Value))
  /-- The collection of the document that has this number. -/
  | link (cell : Nat)
  deriving Inhabited

/-- The collections of a document. None of them is itself a reference. -/
abbrev Cells := Array Value

namespace Value

def null : Value := .atom .null

def text (s : String) : Value := .atom (.text s)

/-- The value that a reference stands for. -/
def follow (cells : Cells) : Value → Value
  | .link cell => cells.getD cell null
  | v => v

/-- Whether a value counts as an empty document. -/
def isEmpty : Value → Bool
  | .atom a => a.isEmpty
  | .list items => items.isEmpty
  | .set items => items.isEmpty
  | .map entries => entries.isEmpty
  | _ => false

end Value

/-- The entries after `key` has been given `value`: a key that is there keeps its place. -/
def putEntry (key : Atom) (value : Value) : List (Atom × Value) → List (Atom × Value)
  | [] => [(key, value)]
  | (k, v) :: rest =>
    if k.sameKey key then (k, value) :: rest else (k, v) :: putEntry key value rest

end Passpoint.Document

namespace Passpoint

structure Document where
  root : Document.Value
  cells : Document.Cells := #[]

namespace Document

/-- The root, with a reference followed. -/
def top (d : Document) : Value := d.root.follow d.cells

end Document

end Passpoint
