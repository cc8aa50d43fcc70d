import Passpoint.Proofs.Coherence
import Passpoint.Proofs.NameReading
import Passpoint.Proofs.Strictness

/-! The two ways to read the octets of a name. They agree on octets below 0x80 and on no others, since
UTF-8 takes more than one octet for any other character that ISO-8859-1 has. So two frames with one
address and the same octets for a name are taken for one network exactly if their capabilities agree
on the charset, or if the octets do not care. -/

namespace Passpoint

/-! ## Octets below 0x80 -/

namespace Text

/-- What ISO-8859-1 makes of octets takes two octets in UTF-8 for each that is not below 0x80. -/
theorem Utf8.length_encode_latin1 (bs : List UInt8) :
    (encode (Latin1.decode bs)).length = bs.length + bs.countP fun b => 0x80 ≤ b.toNat := by
  induction bs with
  | nil => rfl
  | cons b bs ih =>
    have hb := b.toNat_lt
    rw [Latin1.decode, List.map_cons, encode, List.flatMap_cons, List.length_append, ← Latin1.decode,
      ← encode, ih, encodeChar_ofNat (.inl (by omega)), List.length_cons, List.countP_cons]
    by_cases h : b.toNat ≤ 0x7F
    · rw [if_pos h, if_neg (by simp; omega), List.length_singleton]
      omega
    · rw [if_neg h, if_pos (by omega), if_pos (by simp; omega)]
      simp only [List.length_cons, List.length_nil]
      omega

theorem Utf8.encode_latin1 {bs : List UInt8} (h : ∀ b ∈ bs, b.toNat < 0x80) :
    encode (Latin1.decode bs) = bs := by
  induction bs with
  | nil => rfl
  | cons b bs ih =>
    obtain ⟨hb, hbs⟩ := List.forall_mem_cons.mp h
    rw [Latin1.decode, List.map_cons, encode, List.flatMap_cons, ← Latin1.decode, ← encode, ih hbs,
      encodeChar_ofNat (.inl (by omega)), if_pos (by omega), UInt8.ofNat_toNat]
    rfl

theorem decodeLossy_eq_latin1_iff {bs : List UInt8} :
    Utf8.decodeLossy bs = Latin1.decode bs ↔ ∀ b ∈ bs, b.toNat < 0x80 := by
  constructor
  · intro h
    -- There is no U+FFFD in the text, so the octets are its UTF-8 form, and as many as it has.
    have hn : '\ufffd' ∉ Utf8.decodeLossy bs := h ▸ Latin1.replacement_notMem_decode bs
    have hl := congrArg List.length (Utf8.encode_decodeLossy hn)
    rw [h, Utf8.length_encode_latin1] at hl
    have hc : bs.countP (fun b => 0x80 ≤ b.toNat) = 0 := by omega
    intro b hb
    simpa using List.countP_eq_zero.mp hc b hb
  · intro h
    calc Utf8.decodeLossy bs = Utf8.decodeLossy (Utf8.encode (Latin1.decode bs)) := by
          rw [Utf8.encode_latin1 h]
      _ = Latin1.decode bs := Utf8.decodeLossy_encode _

end Text

/-! ## One name read in two ways -/

namespace Element

/-- Octets are read in one way under two capabilities, or there is only one way to read them. -/
def ReadAlike (octets : Octets) (c c' : Option Int) : Prop :=
  (SetsNameBit c ∧ SetsNameBit c') ∨ (¬ SetsNameBit c ∧ ¬ SetsNameBit c') ∨
    ∀ b ∈ octets, b.toNat < 0x80

instance (octets : Octets) (c c' : Option Int) : Decidable (ReadAlike octets c c') :=
  inferInstanceAs (Decidable (_ ∨ _ ∨ _))

theorem nameText_eq_iff_readAlike {octets : Octets} {c c' : Option Int} :
    nameText octets c = nameText octets c' ↔ ReadAlike octets c c' := by
  by_cases h : SetsNameBit c <;> by_cases h' : SetsNameBit c'
  · simp [ReadAlike, h, h', nameText_of_setsNameBit]
  · rw [nameText_of_setsNameBit h, nameText_of_not_setsNameBit h', String.ofList_inj,
      Text.decodeLossy_eq_latin1_iff]
    simp [ReadAlike, h, h']
  · rw [nameText_of_not_setsNameBit h, nameText_of_setsNameBit h', String.ofList_inj, eq_comm,
      Text.decodeLossy_eq_latin1_iff]
    simp [ReadAlike, h, h']
  · simp [ReadAlike, h, h', nameText_of_not_setsNameBit]

end Element

/-! ## Two frames -/

namespace Capture

open Element

/-- A frame describes the network `n`, with these octets for its name and these capabilities. -/
structure Names (s : Settings) (f : Frame) (octets : Octets) (capabilities : Option Int)
    (n : Network) : Prop where
  describes : Describes s f
  network : Network.ofOctets f.bssid f.elements .empty = .ok n
  found : ∃ x, scan f.elements = .ok x ∧ x.name = some octets ∧
    x.capabilities.map Int.ofNat = capabilities

variable {s : Settings} {f g : Frame} {octets : Octets} {c c' : Option Int} {m n : Network}

theorem Names.network?_eq (h : Names s f octets c n) : network? s f = some n :=
  network?_eq_some_iff.mpr ⟨h.describes, h.network⟩

theorem Names.sound (h : Names s f octets c n) : malformed? s f = none := by
  cases hm : malformed? s f with
  | none => rfl
  | some p =>
    have hn := network?_eq_none_of_malformed hm
    rw [h.network?_eq] at hn
    cases hn

theorem Names.ssid (h : Names s f octets c n) : n.ssid = some (nameText octets c) := by
  obtain ⟨x, hx, hname, rfl⟩ := h.found
  obtain ⟨address, x', -, hx', rfl⟩ := Network.eq_ofFindings_of_ofOctets h.network
  cases hx.symm.trans hx'
  rw [Network.ofFindings, Findings.nameText, hname, Option.map_some]

theorem Names.sameAs_iff (hf : Names s f octets c m) (hg : Names s g octets c' n)
    (hb : m.bssid = n.bssid) : m.sameAs n = true ↔ ReadAlike octets c c' := by
  simp [Network.sameAs, hf.ssid, hg.ssid, hb, nameText_eq_iff_readAlike]

theorem listed_pair (hm : isListed s m = true) (hn : isListed s n = true) :
    listed s [m, n] = if m.sameAs n then [n] else [m, n] := by
  have hl : [m, n].filter (isListed s) = [m, n] := by simp [hm, hn]
  rw [listed, hl]
  by_cases hs : m.sameAs n = true <;>
    simp [hs, Network.Roster.ofList, Network.Roster.put, Network.putEntry, Network.Roster.networks]

/-- **The same octets are read alike exactly if charset or octets leave no choice.** Under two
capabilities octets give one text exactly if bit 48 is set in both, or in neither, or if all octets
lie below 0x80. So two frames with one address and these octets for a name are one network exactly
then: a survey of both lists the second alone, and otherwise lists both. -/
theorem names_merge_iff (octets : Octets) (c c' : Option Int) :
    (nameText octets c = nameText octets c' ↔
      (SetsNameBit c ∧ SetsNameBit c') ∨ (¬ SetsNameBit c ∧ ¬ SetsNameBit c') ∨
        ∀ b ∈ octets, b.toNat < 0x80) ∧
    ∀ (s : Settings) (f g : Frame) (m n : Network),
      Names s f octets c m → Names s g octets c' n → m.bssid = n.bssid →
      (m.sameAs n = true ↔ ReadAlike octets c c') ∧
      ∀ t, isListed s m = true → isListed s n = true →
        (survey s [f, g] t).result = .ok (if ReadAlike octets c c' then [n] else [m, n]) := by
  refine ⟨nameText_eq_iff_readAlike, fun s f g m n hf hg hb => ?_⟩
  have hs := hf.sameAs_iff hg hb
  refine ⟨hs, fun t hm hn => ?_⟩
  have hsound : ∀ x ∈ [f, g], malformed? s x = none := by
    simp [hf.sound, hg.sound]
  have hnetworks : [f, g].filterMap (network? s) = [m, n] := by
    simp [hf.network?_eq, hg.network?_eq]
  rw [survey_of_sound hsound, hnetworks, listed_pair hm hn]
  simp only [hs]
  rfl

/-- A name of two octets, announced as UTF-8 or not. -/
def accentFrame : Frame := ⟨.beacon, some "00:11:22:33:44:55", [0, 2, 0xC3, 0xA9]⟩

def accentUtf8Frame : Frame :=
  ⟨.beacon, some "001122334455", [127, 7, 0, 0, 0, 0, 0, 0, 1, 0, 2, 0xC3, 0xA9]⟩

/-- Two frames that send them are two networks. -/
theorem names_merge_iff_accent :
    let m : Network :=
      { ssid := some "é", bssid := 0x1122334455, capabilities := some 0x1000000000000 }
    let n : Network := { ssid := some "Ã©", bssid := 0x1122334455 }
    Names {} accentUtf8Frame [0xC3, 0xA9] (some 0x1000000000000) m ∧
    Names {} accentFrame [0xC3, 0xA9] none n ∧
    nameText [0xC3, 0xA9] (some (-1)) = nameText [0xC3, 0xA9] (some 0x1000000000000) ∧
    m.sameAs n = false ∧ (survey {} [accentUtf8Frame, accentFrame] {}).result = .ok [m, n] := by
  intro m n
  have hm : Names {} accentUtf8Frame [0xC3, 0xA9] (some 0x1000000000000) m :=
    ⟨by decide +kernel, by decide +kernel,
      { name := some [0xC3, 0xA9], capabilities := some 0x1000000000000, seen := 2,
        consumed := 13 }, by decide +kernel⟩
  have hn : Names {} accentFrame [0xC3, 0xA9] none n :=
    ⟨by decide +kernel, by decide +kernel,
      { name := some [0xC3, 0xA9], seen := 1, consumed := 4 }, by decide +kernel⟩
  have hr : ¬ ReadAlike [0xC3, 0xA9] (some 0x1000000000000) none := by decide +kernel
  obtain ⟨-, hframes⟩ := names_merge_iff [0xC3, 0xA9] (some 0x1000000000000) none
  obtain ⟨hs, hlist⟩ := hframes {} _ _ m n hm hn rfl
  refine ⟨hm, hn, (names_merge_iff _ (some (-1)) _).1.mpr (.inl ⟨by decide, by decide⟩),
    Bool.eq_false_iff.mpr (mt hs.mp hr), ?_⟩
  rw [hlist {} rfl rfl, if_neg hr]

end Capture

end Passpoint
