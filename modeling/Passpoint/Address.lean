import Passpoint.Text.Hex

/-!
Hardware addresses: 48 bits, carried as a number. A text spells an address by its twelve
hexadecimal digits, whatever stands between them; the written form has two digits per octet and
colons between.
-/

namespace Passpoint.Address

/-- How many digits spell an address. -/
def digitCount : Nat := 12

inductive Fault where
  | missing
  /-- The text does not have twelve hexadecimal digits. -/
  | digits (text : String)
  deriving DecidableEq, Repr

def Fault.message : Fault → String
  | .missing => "Bad MAC address: None"
  | .digits text => s!"Bad MAC address: '{text}'"

/-- The values of the hexadecimal digits of a text. -/
def digitsOf (cs : List Char) : List Nat := cs.filterMap Text.hexValue?

def ofDigits (ds : List Nat) : Nat := ds.foldl (fun n d => 16 * n + d) 0

def parse (text : String) : Except Fault Nat :=
  let ds := digitsOf text.toList
  if ds.length = digitCount then .ok (ofDigits ds) else .error (.digits text)

/-- Reads a text that may be missing. -/
def parse? : Option String → Except Fault Nat
  | none => .error .missing
  | some text => parse text

/-- The octet of a number that starts at bit `8 * i`. -/
def octet (n : Int) (i : Nat) : UInt8 := UInt8.ofNat (n >>> (8 * i) % 256).toNat

/-- The written form of the last 48 bits of a number, in two's complement. -/
def format (n : Int) : String :=
  ":".intercalate ([5, 4, 3, 2, 1, 0].map fun i => String.ofList (Text.octetDigits (octet n i)))

def normalize (text : Option String) : Except Fault String := do return format (← parse? text)

end Passpoint.Address
