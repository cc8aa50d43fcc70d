/-!
Capital letters. `asciiCapitals` upper-cases a character as far as the capital form is made of
ASCII letters: the ASCII letters, dotless i, long s, sharp s and the Latin ligatures. Any other
character stays as it is, so its image never spells an ASCII word and comparing the result with
one is exact.
-/

namespace Passpoint.Text

def asciiCapitals (c : Char) : List Char :=
  match c.toNat with
  | 0x00DF => ['S', 'S']
  | 0x0131 => ['I']
  | 0x017F => ['S']
  | 0xFB00 => ['F', 'F']
  | 0xFB01 => ['F', 'I']
  | 0xFB02 => ['F', 'L']
  | 0xFB03 => ['F', 'F', 'I']
  | 0xFB04 => ['F', 'F', 'L']
  | 0xFB05 => ['S', 'T']
  | 0xFB06 => ['S', 'T']
  | _ => [c.toUpper]

def upper (cs : List Char) : List Char := cs.flatMap asciiCapitals

end Passpoint.Text
