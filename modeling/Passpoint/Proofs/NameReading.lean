import Mathlib.Data.Int.Bitwise
import Passpoint.Element.Name
import Passpoint.Proofs.Segments

/-! Reading the octets of a name. As ISO-8859-1 they can always be had back from the text. As UTF-8
they can if the text has no U+FFFD; what is not UTF-8 is shown as U+FFFD, one for each maximal
ill-formed subpart. So two names that differ are read alike only if they show U+FFFD. -/

namespace Passpoint

/-! ## ISO-8859-1 -/

namespace Text.Latin1

theorem toNat_ofNat_octet (b : UInt8) : (Char.ofNat b.toNat).toNat = b.toNat := by
  have hb := b.toNat_lt
  exact Utf8.val_ofNat (.inl (by omega))

theorem replacement_notMem_decode (bs : List UInt8) : '\ufffd' ∉ decode bs := by
  intro h
  obtain ⟨b, -, hb⟩ := List.mem_map.mp h
  have hn := congrArg Char.toNat hb
  have hl := b.toNat_lt
  rw [toNat_ofNat_octet] at hn
  have hr : '\ufffd'.toNat = 0xFFFD := by decide
  omega

theorem encode?_decode (bs : List UInt8) : encode? (decode bs) = some bs := by
  induction bs with
  | nil => rfl
  | cons b bs ih =>
    rw [encode?] at ih ⊢
    rw [decode, List.map_cons, List.mapM_cons, ← decode, ih, toNat_ofNat_octet,
      if_pos b.toNat_lt, UInt8.ofNat_toNat]
    rfl

theorem decode_injective : Function.Injective decode := fun a b h =>
  Option.some.inj ((encode?_decode a).symm.trans ((congrArg encode? h).trans (encode?_decode b)))

end Text.Latin1

namespace Element

/-! ## The bit for UTF-8 -/

/-- A bit of a number of either sign, as in two's complement. -/
theorem Capabilities.hasBit_eq_testBit (bits : Int) (i : Nat) : hasBit bits i = bits.testBit i := by
  rw [hasBit]
  cases bits with
  | ofNat n =>
    have hs : Int.ofNat n >>> i = Int.ofNat (n >>> i) := rfl
    rw [hs, Int.testBit, Nat.testBit_eq_decide_div_mod_eq, ← Nat.shiftRight_eq_div_pow,
      decide_eq_decide, Int.ofNat_eq_natCast]
    omega
  | negSucc n =>
    -- The bits of a negative number are those of its complement, turned over.
    have hs : Int.negSucc n >>> i = Int.negSucc (n >>> i) := rfl
    rw [hs, Int.testBit, Nat.testBit_eq_decide_div_mod_eq, ← Nat.shiftRight_eq_div_pow,
      ← decide_not, decide_eq_decide, Int.negSucc_eq]
    omega

/-- Bit 48 of the capabilities is set. A negative number is read in two's complement, and without
capabilities no bit is set. -/
def SetsNameBit (capabilities : Option Int) : Prop :=
  ∃ bits ∈ capabilities, bits.testBit 48 = true

instance (capabilities : Option Int) : Decidable (SetsNameBit capabilities) :=
  inferInstanceAs (Decidable (∃ bits ∈ capabilities, bits.testBit 48 = true))

theorem announcesUtf8_iff {capabilities : Option Int} :
    Capabilities.announcesUtf8 capabilities = true ↔ SetsNameBit capabilities := by
  simp [Capabilities.announcesUtf8, SetsNameBit, Capabilities.hasBit_eq_testBit,
    Capabilities.utf8NameBit, Option.any_eq_true]

variable {capabilities : Option Int}

theorem nameText_of_setsNameBit (h : SetsNameBit capabilities) (octets : Octets) :
    nameText octets capabilities = String.ofList (Text.Utf8.decodeLossy octets) := by
  rw [nameText, if_pos (announcesUtf8_iff.mpr h)]

theorem nameText_of_not_setsNameBit (h : ¬ SetsNameBit capabilities) (octets : Octets) :
    nameText octets capabilities = String.ofList (Text.Latin1.decode octets) := by
  rw [nameText, if_neg fun hu => h (announcesUtf8_iff.mp hu)]

/-! ## Both ways -/

/-- **A name is read faithfully.** If bit 48 is set, every text is read back from its UTF-8 form; a
text without U+FFFD is written with the octets that it was read from; and the text of any octets is
the one that has a character for each of the segments that they are cut into, none of them empty,
which is a character in its UTF-8 form or U+FFFD for a maximal ill-formed subpart. If bit 48 is not
set, the text is always written with the octets that it was read from, as ISO-8859-1. So different
octets that are read alike show U+FFFD. -/
theorem nameText_reads_back (capabilities : Option Int) :
    (SetsNameBit capabilities →
      (∀ text : String, nameText (Text.Utf8.encode text.toList) capabilities = text) ∧
      (∀ octets, '\ufffd' ∉ (nameText octets capabilities).toList →
        Text.Utf8.encode (nameText octets capabilities).toList = octets) ∧
      ∀ octets text, nameText octets capabilities = text ↔
        ∃ segs : List Octets, segs.flatten = octets ∧ (∀ seg ∈ segs, seg ≠ []) ∧
          Text.Utf8.Shows segs text.toList) ∧
    (¬ SetsNameBit capabilities → ∀ octets,
      Text.Latin1.encode? (nameText octets capabilities).toList = some octets) ∧
    ∀ octets octets', octets ≠ octets' →
      nameText octets capabilities = nameText octets' capabilities →
      '\ufffd' ∈ (nameText octets capabilities).toList := by
  have hback : SetsNameBit capabilities → ∀ octets,
      '\ufffd' ∉ (nameText octets capabilities).toList →
      Text.Utf8.encode (nameText octets capabilities).toList = octets := by
    intro hs octets hn
    rw [nameText_of_setsNameBit hs, String.toList_ofList] at hn ⊢
    exact Text.Utf8.encode_decodeLossy hn
  refine ⟨fun hs => ⟨fun text => ?_, hback hs, fun octets text => ?_⟩, fun hs octets => ?_,
    fun octets octets' hne he => ?_⟩
  · rw [nameText_of_setsNameBit hs, Text.Utf8.decodeLossy_encode, String.ofList_toList]
  · rw [nameText_of_setsNameBit hs, ← Text.Utf8.decodeLossy_eq_iff, ← String.toList_inj,
      String.toList_ofList]
  · rw [nameText_of_not_setsNameBit hs, String.toList_ofList, Text.Latin1.encode?_decode]
  · by_contra hn
    by_cases hs : SetsNameBit capabilities
    · exact hne ((hback hs octets hn).symm.trans (he ▸ hback hs octets' (he ▸ hn)))
    · rw [nameText_of_not_setsNameBit hs, nameText_of_not_setsNameBit hs, String.ofList_inj] at he
      exact hne (Text.Latin1.decode_injective he)

/-- A sign of three octets; it is cut short in front of a letter, and cut short in two ways. -/
theorem nameText_reads_back_cut :
    SetsNameBit (some (-1)) ∧ ¬ SetsNameBit none ∧
    nameText (Text.Utf8.encode "€".toList) (some (-1)) = "€" ∧
    '\ufffd' ∉ (nameText [0xE2, 0x82, 0xAC] (some (-1))).toList ∧
    Text.Utf8.encode (nameText [0xE2, 0x82, 0xAC] (some (-1))).toList = [0xE2, 0x82, 0xAC] ∧
    (∃ segs : List Octets, segs.flatten = [0xE2, 0x82, 0x41] ∧ (∀ seg ∈ segs, seg ≠ []) ∧
      Text.Utf8.Shows segs "\ufffdA".toList) ∧
    Text.Latin1.encode? (nameText [0xE2, 0x82, 0x41] none).toList = some [0xE2, 0x82, 0x41] ∧
    nameText [0xE2, 0x82] (some (-1)) = nameText [0xE2] (some (-1)) ∧
    '\ufffd' ∈ (nameText [0xE2, 0x82] (some (-1))).toList := by
  have hs : SetsNameBit (some (-1)) := by decide
  have hn : ¬ SetsNameBit none := by decide
  have hr : '\ufffd' ∉ (nameText [0xE2, 0x82, 0xAC] (some (-1))).toList := by decide +kernel
  have ht : nameText [0xE2, 0x82, 0x41] (some (-1)) = "\ufffdA" := by decide +kernel
  have he : nameText [0xE2, 0x82] (some (-1)) = nameText [0xE2] (some (-1)) := by decide +kernel
  obtain ⟨hset, -, hboth⟩ := nameText_reads_back (some (-1))
  obtain ⟨htext, hback, hsegs⟩ := hset hs
  exact ⟨hs, hn, htext "€", hr, hback _ hr, (hsegs _ _).mp ht,
    (nameText_reads_back none).2.1 hn _, he, hboth _ _ (by decide) he⟩

end Element

end Passpoint
