import Passpoint.Text.Hex

/-!
UTF-8. `pieces` cuts a run of octets into well-formed characters and maximal ill-formed pieces: a
piece is the longest start of a character that the next octet does not continue, or one octet that
starts none. A lenient reader shows each broken piece as U+FFFD, a strict one stops at the first.
-/

namespace Passpoint.Text.Utf8

/-- Why a piece is no character. -/
inductive Flaw where
  | badStart
  | badContinuation
  | truncated
  deriving DecidableEq, Repr

def Flaw.message : Flaw → String
  | .badStart => "invalid start byte"
  | .badContinuation => "invalid continuation byte"
  | .truncated => "unexpected end of data"

/-- A character with its octets, or octets that form none. -/
inductive Piece where
  | scalar (c : Char) (octets : List UInt8)
  | broken (flaw : Flaw) (octets : List UInt8)
  deriving DecidableEq, Repr

def Piece.octets : Piece → List UInt8
  | .scalar _ bs => bs
  | .broken _ bs => bs

/-- What a lead octet announces: how many octets follow, and the bounds of the first of them. The
bounds exclude overlong forms, surrogates and values above U+10FFFF. -/
structure Lead where
  tails : Nat
  low : UInt8 := 0x80
  high : UInt8 := 0xBF
  deriving DecidableEq, Repr

def lead? (a : UInt8) : Option Lead :=
  if a ≤ 0x7F then some { tails := 0 }
  else if a < 0xC2 then none
  else if a ≤ 0xDF then some { tails := 1 }
  else if a = 0xE0 then some { tails := 2, low := 0xA0 }
  else if a = 0xED then some { tails := 2, high := 0x9F }
  else if a ≤ 0xEF then some { tails := 2 }
  else if a = 0xF0 then some { tails := 3, low := 0x90 }
  else if a ≤ 0xF3 then some { tails := 3 }
  else if a = 0xF4 then some { tails := 3, high := 0x8F }
  else none

/-- The longest run of at most `n` octets that continue a character, the first between `low` and
`high`. -/
def tails : (n : Nat) → (low high : UInt8) → List UInt8 → List UInt8
  | n + 1, low, high, b :: bs => if low ≤ b ∧ b ≤ high then b :: tails n 0x80 0xBF bs else []
  | _, _, _, _ => []

/-- The code point of a lead octet and its continuation octets. -/
def codePoint (a : UInt8) (ts : List UInt8) : Nat :=
  let start := match ts.length with
    | 0 => a.toNat
    | 1 => a.toNat % 32
    | 2 => a.toNat % 16
    | _ => a.toNat % 8
  ts.foldl (fun acc b => 64 * acc + b.toNat % 64) start

/-- The first piece of `a :: rest`. -/
def firstPiece (a : UInt8) (rest : List UInt8) : Piece :=
  match lead? a with
  | none => .broken .badStart [a]
  | some l =>
    let ts := tails l.tails l.low l.high rest
    if ts.length = l.tails then .scalar (Char.ofNat (codePoint a ts)) (a :: ts)
    else if ts.length = rest.length then .broken .truncated (a :: ts)
    else .broken .badContinuation (a :: ts)

def pieces : List UInt8 → List Piece
  | [] => []
  | a :: rest =>
    let p := firstPiece a rest
    p :: pieces (rest.drop (p.octets.length - 1))
termination_by bs => bs.length
decreasing_by simp only [List.length_drop, List.length_cons]; omega

/-- The character that stands for a piece. -/
def Piece.shown : Piece → Char
  | .scalar c _ => c
  | .broken _ _ => '\ufffd'

/-- Reads every run of octets; each broken piece becomes one U+FFFD. -/
def decodeLossy (bs : List UInt8) : List Char := (pieces bs).map Piece.shown

/-- The first broken piece of a text that had to be whole. -/
structure Fault where
  position : Nat
  flaw : Flaw
  octets : List UInt8
  deriving DecidableEq, Repr

def Fault.message (f : Fault) : String :=
  let place := match f.octets with
    | [b] => s!"byte 0x{String.ofList (octetDigits b)} in position {f.position}"
    | bs => s!"bytes in position {f.position}-{f.position + bs.length - 1}"
  s!"'utf-8' codec can't decode {place}: {f.flaw.message}"

/-- Reads pieces that must all be characters, the first of them at `position`. -/
def charsOfPieces (position : Nat) : List Piece → Except Fault (List Char)
  | [] => .ok []
  | .scalar c bs :: ps => (charsOfPieces (position + bs.length) ps).map (c :: ·)
  | .broken flaw bs :: _ => .error ⟨position, flaw, bs⟩

/-- Reads well-formed octets only. -/
def decode (bs : List UInt8) : Except Fault (List Char) := charsOfPieces 0 (pieces bs)

def encode (cs : List Char) : List UInt8 := cs.flatMap String.utf8EncodeChar

end Passpoint.Text.Utf8
