import Passpoint.Decimal.Shortest
import Passpoint.Document.Calendar
import Passpoint.Text.Codes

/-!
The values without parts that a document can hold. Only such a value can be a key. Two keys are
one if they are equal as numbers, whatever their kind, or equal in every respect.
-/

namespace Passpoint.Document

inductive Atom where
  | null
  | bool (b : Bool)
  | int (n : Int)
  /-- A number or an infinity. -/
  | float (x : Float)
  /-- The float that is no number. It equals nothing, and as a key it is one with another only if
  both come from one place; there is no place for the usual spelling. -/
  | notNumber (place : Option Nat)
  | text (s : String)
  /-- Text with lone surrogates. -/
  | brokenText (codes : Text.Codes)
  | octets (bs : List UInt8)
  | day (d : Day)
  | moment (m : Moment)
  deriving Inhabited

/-- The exact value of a number. -/
inductive Exact where
  /-- The number `n / 2 ^ scale`. -/
  | finite (n : Int) (scale : Nat)
  | infinite (negative : Bool)
  deriving DecidableEq, Repr

def Exact.compare : Exact → Exact → Ordering
  | .finite m i, .finite n j =>
    Ord.compare (m * ((1 <<< j : Nat) : Int)) (n * ((1 <<< i : Nat) : Int))
  | .finite _ _, .infinite negative => if negative then .gt else .lt
  | .infinite negative, .finite _ _ => if negative then .lt else .gt
  | .infinite a, .infinite b => if a = b then .eq else if a then .lt else .gt

/-- The exact value of a binary64 value that is a number. -/
def Exact.ofFloat (x : Float) : Exact :=
  let bits := x.toBits
  let magnitude := bits &&& 0x7FFFFFFFFFFFFFFF
  let negative := bits ≠ magnitude
  if 0x7FF0000000000000 ≤ magnitude then .infinite negative
  else
    let b := Decimal.Binary.ofBits magnitude
    let n : Int := ((b.m <<< b.q.toNat : Nat) : Int)
    .finite (if negative then -n else n) (-b.q).toNat

namespace Atom

/-- Text from code points. -/
def ofCodes (codes : Text.Codes) : Atom :=
  match Text.string? codes with
  | some s => .text s
  | none => .brokenText codes

/-- The value of a float; `place` is where it comes from. -/
def ofFloat (place : Option Nat) (x : Float) : Atom :=
  if 0x7FF0000000000000 < x.toBits &&& 0x7FFFFFFFFFFFFFFF then .notNumber place else .float x

/-- The code points of a text. -/
def codes? : Atom → Option Text.Codes
  | .text s => some (Text.codesOf s.toList)
  | .brokenText codes => some codes
  | _ => none

/-- The number that a value counts as when it is compared; `true` is one and `false` zero. -/
def number? : Atom → Option Exact
  | .bool b => some (.finite (if b then 1 else 0) 0)
  | .int n => some (.finite n 0)
  | .float x => some (.ofFloat x)
  | _ => none

/-- Whether two keys are one key. -/
def sameKey (a b : Atom) : Bool :=
  match a.number?, b.number? with
  | some m, some n => m.compare n = .eq
  | none, none =>
    match a, b with
    | .null, .null => true
    | .notNumber i, .notNumber j => i == j
    | .text s, .text t => s == t
    | .brokenText s, .brokenText t => s == t
    | .octets s, .octets t => s == t
    | .day s, .day t => s == t
    | .moment s, .moment t => s.sameAs t
    | _, _ => false
  | _, _ => false

/-- Whether a value counts as an empty document. -/
def isEmpty : Atom → Bool
  | .null => true
  | .bool b => !b
  | .int n => n == 0
  | .float x => x == 0.0
  | .text s => s.isEmpty
  | .octets bs => bs.isEmpty
  | _ => false

/-- The name of a value's kind in messages. -/
def kind : Atom → String
  | .null => "NoneType"
  | .bool _ => "bool"
  | .int _ => "int"
  | .float _ | .notNumber _ => "float"
  | .text _ | .brokenText _ => "str"
  | .octets _ => "bytes"
  | .day _ => "datetime.date"
  | .moment _ => "datetime.datetime"

end Atom

end Passpoint.Document
