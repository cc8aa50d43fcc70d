import Mathlib.Data.List.Induction
import Mathlib.Data.Nat.Digits.Defs
import Mathlib.Tactic.NormNum
import Passpoint.Octets
import Passpoint.Proofs.Description

/-! Numbers, octets and addresses in hexadecimal. What is written is read back: a number from its
digits, octets from theirs, and the last 48 bits of a number from the text of an address. So two
addresses with one text are one. -/

namespace Passpoint

/-! ## Numbers -/

theorem Text.hexValue?_digitChar {d : Nat} (h : d < 16) : hexValue? d.digitChar = some d := by
  have all : ∀ k : Fin 16, hexValue? (Nat.digitChar k) = some k.val := by decide
  exact all ⟨d, h⟩

namespace Address

theorem digitsOf_append (cs ds : List Char) : digitsOf (cs ++ ds) = digitsOf cs ++ digitsOf ds :=
  List.filterMap_append

theorem ofDigits_concat (ds : List Nat) (d : Nat) :
    ofDigits (ds ++ [d]) = 16 * ofDigits ds + d := by
  rw [ofDigits, List.foldl_append]
  rfl

theorem ofDigits_digitsOf_toDigits (n : Nat) : ofDigits (digitsOf (Nat.toDigits 16 n)) = n := by
  -- The last digit is cut off, and `n / 16` is what the others spell.
  induction n using Nat.strong_induction_on with
  | _ n ih =>
    by_cases h : n < 16
    · rw [Nat.toDigits_of_lt_base h, digitsOf,
        List.filterMap_cons_some (Text.hexValue?_digitChar h)]
      exact Nat.zero_add n
    · have hm : n % 16 < 16 := Nat.mod_lt n (by decide)
      rw [Nat.toDigits_of_base_le (by decide) (Nat.le_of_not_lt h), digitsOf_append,
        digitsOf.eq_def [_], List.filterMap_cons_some (Text.hexValue?_digitChar hm),
        List.filterMap_nil, ofDigits_concat, ih (n / 16) (by omega)]
      omega

end Address

namespace Text

theorem isSome_hexValue?_of_mem_toDigits {n : Nat} {c : Char} (h : c ∈ Nat.toDigits 16 n) :
    (hexValue? c).isSome := by
  induction n using Nat.strong_induction_on with
  | _ n ih =>
    by_cases hn : n < 16
    · rw [Nat.toDigits_of_lt_base hn, List.mem_singleton] at h
      rw [h, hexValue?_digitChar hn]
      rfl
    · have hm : n % 16 < 16 := Nat.mod_lt n (by decide)
      rw [Nat.toDigits_of_base_le (by decide) (Nat.le_of_not_lt hn)] at h
      rcases List.mem_append.mp h with h | h
      · exact ih (n / 16) (by omega) h
      · rw [List.mem_singleton] at h
        rw [h, hexValue?_digitChar hm]
        rfl

theorem hexOfNat_injective : Function.Injective hexOfNat := by
  intro m n h
  have hd : Nat.toDigits 16 m = Nat.toDigits 16 n := String.ofList_injective h
  rw [← Address.ofDigits_digitsOf_toDigits m, hd, Address.ofDigits_digitsOf_toDigits]

/-- No minus stands in a number that has none in front. -/
theorem minus_notMem_hexOfNat (n : Nat) : '-' ∉ (hexOfNat n).toList := by
  intro h
  rw [hexOfNat, String.toList_ofList] at h
  have hv := isSome_hexValue?_of_mem_toDigits h
  revert hv
  decide

theorem hexOfInt_injective {mark : String} (hmark : '-' ∉ mark.toList) :
    Function.Injective (hexOfInt mark) := by
  have hsign : ∀ m n : Nat, mark ++ hexOfNat m ≠ "-" ++ mark ++ hexOfNat (n + 1) := by
    intro m n h
    have hc : '-' ∈ (mark ++ hexOfNat m).toList := by
      rw [h]
      simp
    rw [String.toList_append] at hc
    rcases List.mem_append.mp hc with hc | hc
    · exact hmark hc
    · exact minus_notMem_hexOfNat m hc
  intro a b h
  cases a with
  | ofNat m =>
    cases b with
    | ofNat n => rw [hexOfNat_injective (String.append_right_inj mark |>.mp h)]
    | negSucc n => exact absurd h (hsign m n)
  | negSucc m =>
    cases b with
    | ofNat n => exact absurd h.symm (hsign n m)
    | negSucc n =>
      have hn := hexOfNat_injective (String.append_right_inj ("-" ++ mark) |>.mp h)
      rw [Nat.succ.inj hn]

/-! ## Octets -/

theorem isAsciiBlank_hexDigit {d : Nat} (h : d < 16) : isAsciiBlank (hexDigit d) = false := by
  have all : ∀ k : Fin 16, isAsciiBlank (hexDigit k) = false := by decide
  exact all ⟨d, h⟩

/-- What an octet is written with is a digit below 16. -/
theorem exists_hexDigit_of_mem_octetDigits {b : UInt8} {c : Char} (h : c ∈ octetDigits b) :
    ∃ k : Fin 16, c = hexDigit k := by
  have hlt : b.toNat < 256 := b.toNat_lt
  simp only [octetDigits, List.mem_cons, List.not_mem_nil, or_false] at h
  rcases h with rfl | rfl
  · exact ⟨⟨b.toNat / 16, by omega⟩, rfl⟩
  · exact ⟨⟨b.toNat % 16, by omega⟩, rfl⟩

theorem readPairs_octetsDigits (pos : Nat) (bs : Octets) :
    readPairs pos (octetsDigits bs) = .ok bs := by
  induction bs generalizing pos with
  | nil => rfl
  | cons b bs ih =>
    have hb : b.toNat < 256 := b.toNat_lt
    have hh : b.toNat / 16 < 16 := by omega
    have hl : b.toNat % 16 < 16 := by omega
    have hv : 16 * (b.toNat / 16) + b.toNat % 16 = b.toNat := by omega
    have hd : octetsDigits (b :: bs) =
        hexDigit (b.toNat / 16) :: hexDigit (b.toNat % 16) :: octetsDigits bs := rfl
    rw [hd, readPairs]
    simp only [isAsciiBlank_hexDigit hh, hexValue?_hexDigit hh, hexValue?_hexDigit hl]
    rw [ih, hv, UInt8.ofNat_toNat]
    rfl

theorem hexOfOctets_injective : Function.Injective hexOfOctets := by
  intro bs bs' h
  have hd : octetsDigits bs = octetsDigits bs' := String.ofList_injective h
  have hr := readPairs_octetsDigits 0 bs
  rw [hd, readPairs_octetsDigits] at hr
  exact (Except.ok.inj hr).symm

end Text

/-! ## Addresses -/

namespace Address

/-- The octets of an address, most significant first. -/
def octets (n : Int) : Octets := [5, 4, 3, 2, 1, 0].map (octet n)

theorem toNat_octet (n : Int) (i : Nat) : ((octet n i).toNat : Int) = n / 2 ^ (8 * i) % 256 := by
  have hm : n / 2 ^ (8 * i) % 256 < 256 := Int.emod_lt_of_pos _ (by decide)
  have h0 : 0 ≤ n / 2 ^ (8 * i) % 256 := Int.emod_nonneg _ (by decide)
  rw [octet, Int.shiftRight_eq_div_pow, UInt8.toNat_ofNat']
  push_cast
  omega

/-- The octets of an address hold the last 48 bits of its number. -/
theorem bigEndian_octets (n : Int) : bigEndian (octets n) = (n % 2 ^ 48).toNat := by
  have h0 := toNat_octet n 0
  have h1 := toNat_octet n 1
  have h2 := toNat_octet n 2
  have h3 := toNat_octet n 3
  have h4 := toNat_octet n 4
  have h5 := toNat_octet n 5
  norm_num only [] at h0 h1 h2 h3 h4 h5
  simp only [octets, bigEndian, List.map_cons, List.map_nil, List.foldl_cons, List.foldl_nil]
  omega

theorem toList_format (n : Int) :
    (format n).toList =
      [':'].intercalate ([5, 4, 3, 2, 1, 0].map fun i => Text.octetDigits (octet n i)) := by
  rw [format, String.toList_intercalate, List.map_map]
  simp [Function.comp_def]

theorem length_format (n : Int) : (format n).toList.length = 17 := by
  rw [toList_format]
  rfl

theorem digitsOf_octetDigits (b : UInt8) :
    digitsOf (Text.octetDigits b) = [b.toNat / 16, b.toNat % 16] := by
  have hb : b.toNat < 256 := b.toNat_lt
  have hh := Text.hexValue?_hexDigit (n := b.toNat / 16) (by omega)
  have hl := Text.hexValue?_hexDigit (n := b.toNat % 16) (by omega)
  simp [digitsOf, Text.octetDigits, hh, hl]

theorem digitsOf_colon (cs : List Char) : digitsOf (':' :: cs) = digitsOf cs := by
  rw [digitsOf, List.filterMap_cons_none (by decide)]
  rfl

theorem digitsOf_format (n : Int) :
    digitsOf (format n).toList = (octets n).flatMap fun b => [b.toNat / 16, b.toNat % 16] := by
  rw [toList_format, octets]
  simp [digitsOf_append, digitsOf_octetDigits, digitsOf_colon, List.intercalate_cons_cons]

theorem ofDigits_flatMap (bs : Octets) :
    ofDigits (bs.flatMap fun b => [b.toNat / 16, b.toNat % 16]) = bigEndian bs := by
  induction bs using List.reverseRecOn with
  | nil => rfl
  | append_singleton bs b ih =>
    have hsplit : (bs ++ [b]).flatMap (fun b => [b.toNat / 16, b.toNat % 16]) =
        bs.flatMap (fun b => [b.toNat / 16, b.toNat % 16]) ++ [b.toNat / 16] ++ [b.toNat % 16] := by
      simp
    have hbig : bigEndian (bs ++ [b]) = 256 * bigEndian bs + b.toNat := by
      rw [bigEndian, List.foldl_append]
      rfl
    rw [hsplit, ofDigits_concat, ofDigits_concat, ih, hbig]
    omega

/-- The text of an address is read back as the last 48 bits of its number. -/
theorem parse_format (n : Int) : parse (format n) = .ok (n % 2 ^ 48).toNat := by
  have hl : (digitsOf (format n).toList).length = digitCount := by
    rw [digitsOf_format]
    rfl
  rw [parse, if_pos hl, digitsOf_format, ofDigits_flatMap, bigEndian_octets]

/-- Addresses of 48 bits with one text are one. -/
theorem format_injOn {m n : Int} (hm : 0 ≤ m ∧ m < 2 ^ 48) (hn : 0 ≤ n ∧ n < 2 ^ 48)
    (h : format m = format n) : m = n := by
  have hp := parse_format m
  rw [h, parse_format n] at hp
  have hp := Except.ok.inj hp
  omega

end Address

end Passpoint
