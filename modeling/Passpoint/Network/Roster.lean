import Passpoint.Network.Basic

/-!
Networks by name and address. A network that comes again keeps its place and its first description
as the key, and the last description as the value.
-/

namespace Passpoint.Network

structure Entry where
  first : Network
  last : Network

/-- The entries after one more description. -/
def putEntry (n : Network) : List Entry → List Entry
  | [] => [⟨n, n⟩]
  | e :: es => if e.first.sameAs n then { e with last := n } :: es else e :: putEntry n es

structure Roster where
  entries : List Entry := []

namespace Roster

def put (r : Roster) (n : Network) : Roster := ⟨putEntry n r.entries⟩

def ofList (ns : List Network) : Roster := ns.foldl put {}

/-- The last description of a network. -/
def find? (r : Roster) (n : Network) : Option Network :=
  (r.entries.find? fun e => e.first.sameAs n).map (·.last)

/-- The last descriptions, in the order in which the networks first came. -/
def networks (r : Roster) : List Network := r.entries.map (·.last)

end Roster

end Passpoint.Network
