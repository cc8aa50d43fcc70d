import Passpoint.Text.Blank

/-!
Hexadecimal text. Digits are written in lower case and read in either case. A text of octets is a
run of digit pairs; ASCII blanks may stand between two pairs and never inside one.
-/

namespace Passpoint.Text

/-- The value of an ASCII hexadecimal digit. -/
def hexValue? (c : Char) : Option Nat :=
  if '0' ≤ c ∧ c ≤ '9' then some (c.toNat - 48)
  else if 'a' ≤ c ∧ c ≤ 'f' then some (c.toNat - 87)
  else if 'A' ≤ c ∧ c ≤ 'F' then some (c.toNat - 55)
  else none

/-- The lower-case digit of a value below sixteen. -/
def hexDigit (n : Nat) : Char :=
  if n < 10 then Char.ofNat (48 + n) else Char.ofNat (87 + n)

/-- The two digits of an octet, high half first. -/
def octetDigits (b : UInt8) : List Char := [hexDigit (b.toNat / 16), hexDigit (b.toNat % 16)]

def octetsDigits (bs : List UInt8) : List Char := bs.flatMap octetDigits

/-- Octets as text, two digits each. -/
def hexOfOctets (bs : List UInt8) : String := String.ofList (octetsDigits bs)

/-- A number in base sixteen, without leading zeros. -/
def hexOfNat (n : Nat) : String := String.ofList (Nat.toDigits 16 n)

/-- A number of either sign in base sixteen; a minus stands before the digits and before `mark`. -/
def hexOfInt (mark : String) : Int → String
  | .ofNat n => mark ++ hexOfNat n
  | .negSucc n => "-" ++ mark ++ hexOfNat (n + 1)

/-- Reads digit pairs, counting characters from `pos`. The failure is the position of the character
that should have been a digit; a text that ends inside a pair fails at its end. -/
def readPairs (pos : Nat) : List Char → Except Nat (List UInt8)
  | [] => .ok []
  | a :: rest =>
    if isAsciiBlank a then readPairs (pos + 1) rest
    else match hexValue? a with
      | none => .error pos
      | some high => match rest with
        | [] => .error (pos + 1)
        | b :: rest' => match hexValue? b with
          | none => .error (pos + 1)
          | some low => (readPairs (pos + 2) rest').map (UInt8.ofNat (16 * high + low) :: ·)

/-- The octets that a text spells. A text with a character beyond ASCII fails at the first of them,
whatever stands before it. -/
def readOctets (cs : List Char) : Except Nat (List UInt8) :=
  match cs.findIdx? (fun c => 0x7F < c.toNat) with
  | some i => .error i
  | none => readPairs 0 cs

theorem hexValue?_lt {c : Char} {n : Nat} (h : hexValue? c = some n) : n < 16 := by
  simp only [hexValue?, Char.le_def, UInt32.le_iff_toNat_le] at h
  have e : c.toNat = c.val.toNat := rfl
  split at h
  · rename_i hc
    have h9 : ('9' : Char).val.toNat = 57 := rfl
    cases h; omega
  · split at h
    · rename_i hc
      have hf : ('f' : Char).val.toNat = 102 := rfl
      cases h; omega
    · split at h
      · rename_i hc
        have hF : ('F' : Char).val.toNat = 70 := rfl
        cases h; omega
      · cases h

theorem hexValue?_hexDigit {n : Nat} (h : n < 16) : hexValue? (hexDigit n) = some n := by
  have all : ∀ k : Fin 16, hexValue? (hexDigit k) = some k.val := by decide
  exact all ⟨n, h⟩

end Passpoint.Text
