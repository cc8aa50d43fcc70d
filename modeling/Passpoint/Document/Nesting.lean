/-!
How deeply the parts of a document may be nested. Each limit counts the levels that one way of
going down a document takes.
-/

namespace Passpoint.Document

namespace Nesting

/-- Lists and maps of JSON. -/
def json : Nat := 987

/-- Nodes of YAML. -/
def yaml : Nat := 486

/-- Mappings that are merged into each other, or stand for a scalar of each other. -/
def chain : Nat := 980

/-- Values in messages. -/
def shown : Nat := 987

end Nesting

def tooDeepMessage (activity : String) : String :=
  "maximum recursion depth exceeded" ++ (if activity = "" then "" else " " ++ activity)

end Passpoint.Document
