/-!
The release of Hotspot 2.0 that a network announces.
-/

namespace Passpoint

inductive Release where
  | r1
  | r2
  | unknown
  deriving DecidableEq, Repr

namespace Release

def all : List Release := [.r1, .r2, .unknown]

/-- The name of the constant. -/
def name : Release → String
  | .r1 => "R1"
  | .r2 => "R2"
  | .unknown => "UNKNOWN"

/-- The release as reports show it. -/
def label : Release → String
  | .r1 => "R1"
  | .r2 => "R2"
  | .unknown => "Unknown"

def ofName? (name : String) : Option Release := all.find? fun r => r.name = name

def ofCode (code : Int) : Release :=
  if code = 0 then .r1 else if code = 1 then .r2 else .unknown

end Release

end Passpoint
