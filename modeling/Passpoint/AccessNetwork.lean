/-!
The kind of access that a network offers: four bits of its Interworking element.
-/

namespace Passpoint

inductive AccessNetwork where
  | privateOnly
  | privateWithGuests
  | chargeablePublic
  | freePublic
  | personal
  | emergencyOnly
  | reserved6
  | reserved7
  | reserved8
  | reserved9
  | reserved10
  | reserved11
  | reserved12
  | reserved13
  | experimental
  | wildcard
  deriving DecidableEq, Repr

namespace AccessNetwork

def all : List AccessNetwork :=
  [.privateOnly, .privateWithGuests, .chargeablePublic, .freePublic, .personal, .emergencyOnly,
   .reserved6, .reserved7, .reserved8, .reserved9, .reserved10, .reserved11, .reserved12,
   .reserved13, .experimental, .wildcard]

def name : AccessNetwork → String
  | .privateOnly => "PRIVATE"
  | .privateWithGuests => "PRIVATE_WITH_GUEST"
  | .chargeablePublic => "CHARGEABLE_PUBLIC"
  | .freePublic => "FREE_PUBLIC"
  | .personal => "PERSONAL"
  | .emergencyOnly => "EMERGENCY_ONLY"
  | .reserved6 => "RESERVED_6"
  | .reserved7 => "RESERVED_7"
  | .reserved8 => "RESERVED_8"
  | .reserved9 => "RESERVED_9"
  | .reserved10 => "RESERVED_10"
  | .reserved11 => "RESERVED_11"
  | .reserved12 => "RESERVED_12"
  | .reserved13 => "RESERVED_13"
  | .experimental => "TEST_OR_EXPERIMENTAL"
  | .wildcard => "WILDCARD"

def ofName? (name : String) : Option AccessNetwork := all.find? fun a => a.name = name

/-- The kind with a code. Only the last four bits count; a negative code has infinitely many sign
bits in front. -/
def ofCode (code : Int) : AccessNetwork := all.getD (code % 16).toNat .wildcard

end AccessNetwork

end Passpoint
