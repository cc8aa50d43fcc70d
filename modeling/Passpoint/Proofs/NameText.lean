import Passpoint.Network.Report
import Passpoint.Proofs.Description
import Passpoint.Proofs.LastRecord

/-! The name of a network as text. Its octets are those of the last name in the buffer, and they are
read as the last capabilities in the buffer say, wherever the two stand: as UTF-8 if the seventh
octet is there and is odd, and as ISO-8859-1 otherwise. -/

namespace Passpoint

/-! ## The bit for UTF-8 -/

theorem littleEndian_drop (k : Nat) (bs : Octets) :
    littleEndian (bs.drop k) = littleEndian bs / 256 ^ k := by
  induction k generalizing bs with
  | zero => simp
  | succ k ih =>
    cases bs with
    | nil => simp [littleEndian]
    | cons b bs =>
      have hb := b.toNat_lt
      have hd : (b.toNat + 256 * littleEndian bs) / 256 = littleEndian bs := by omega
      rw [List.drop_succ_cons, ih, littleEndian, Nat.pow_succ', ← Nat.div_div_eq_div_mul, hd]

theorem littleEndian_mod (bs : Octets) : littleEndian bs % 256 = (bs.getD 0 0).toNat := by
  cases bs with
  | nil => rfl
  | cons b bs =>
    have hb := b.toNat_lt
    rw [littleEndian, List.getD_cons_zero]
    omega

/-- The octets of a number, one by one; those behind the last are zero. -/
theorem littleEndian_octet (bs : Octets) (k : Nat) :
    littleEndian bs / 256 ^ k % 256 = (bs.getD k 0).toNat := by
  rw [← littleEndian_drop, littleEndian_mod]
  simp

namespace Element

/-- The body of a capabilities element says that names are UTF-8. -/
def SaysUtf8 (body : Octets) : Prop := 7 ≤ body.length ∧ (body.getD 6 0).toNat % 2 = 1

instance (body : Octets) : Decidable (SaysUtf8 body) := inferInstanceAs (Decidable (_ ∧ _))

theorem saysUtf8_iff {body : Octets} : SaysUtf8 body ↔ (body.getD 6 0).toNat % 2 = 1 := by
  constructor
  · exact And.right
  · intro h
    refine ⟨?_, h⟩
    by_contra hl
    have hz : body.getD 6 0 = 0 := by
      rw [List.getD_eq_getElem?_getD, List.getElem?_eq_none (by omega), Option.getD_none]
    rw [hz] at h
    cases h

/-- Bit 48 is the lowest bit of the seventh octet, whether the octets behind the eighth are cut off
or not. -/
theorem Capabilities.hasBit_decode (body : Octets) :
    hasBit (Int.ofNat (decode body)) utf8NameBit = decide (SaysUtf8 body) := by
  have ho : (body.take limit).getD 6 0 = body.getD 6 0 := by
    simp [limit]
  have hb := littleEndian_octet (body.take limit) 6
  have hs : Int.ofNat (decode body) >>> utf8NameBit = Int.ofNat (decode body / 2 ^ 48) := by
    rw [← Nat.shiftRight_eq_div_pow]
    rfl
  rw [ho, ← decode] at hb
  rw [hasBit, decide_eq_decide, hs, saysUtf8_iff, ← hb]
  simp only [Int.ofNat_eq_natCast]
  omega

/-! ## The last records -/

/-- A field that a body alone decides is read off the last record of its kind. -/
theorem LastDecides.eq_map_findRev? {α : Type} {p : Record → Prop} [DecidablePred p]
    {gives : Octets → α → Prop} {means : Octets → α} {rs : List Record} {field : Option α}
    (h : LastDecides p gives rs field) (hg : ∀ body a, gives body a → a = means body) :
    field = (rs.findRev? (p ·)).map fun r => means r.body := by
  rw [List.findRev?_eq_find?_reverse]
  cases field with
  | none =>
    have hn : rs.reverse.find? (p ·) = none := by
      simpa using h.absent.mp rfl
    rw [hn, Option.map_none]
  | some a =>
    obtain ⟨before, r, after, rfl, hr, hn, ha⟩ := h.given a rfl
    have hf : (before ++ r :: after).reverse.find? (p ·) = some r := by
      refine List.find?_eq_some_iff_append.mpr ⟨by simpa using hr, after.reverse, before.reverse,
        by simp, ?_⟩
      simpa using hn
    rw [hf, Option.map_some, hg r.body a ha]

/-- The last capabilities in a buffer say that names are UTF-8. -/
def NamesUtf8 (rs : List Record) : Prop := ∃ r ∈ rs.findRev? (·.tag = 127), SaysUtf8 r.body

instance (rs : List Record) : Decidable (NamesUtf8 rs) :=
  inferInstanceAs (Decidable (∃ r ∈ (_ : Option Record), _))

theorem Reads.name_eq {rs : List Record} {s : Findings} (h : Reads rs s) :
    s.name = (rs.findRev? (·.tag = 0)).map (·.body) := by
  have hl : LastDecides (·.tag = 0) (fun body octets => octets = body) rs s.name :=
    nameField.lastDecides h
  exact hl.eq_map_findRev? fun _ _ h => h

theorem Reads.capabilities_eq {rs : List Record} {s : Findings} (h : Reads rs s) :
    s.capabilities = (rs.findRev? (·.tag = 127)).map fun r => Capabilities.decode r.body := by
  have hl : LastDecides (·.tag = 127) (fun body bits => bits = Capabilities.decode body) rs
      s.capabilities := capabilitiesField.lastDecides h
  exact hl.eq_map_findRev? fun _ _ h => h

theorem Reads.announcesUtf8_eq {rs : List Record} {s : Findings} (h : Reads rs s) :
    Capabilities.announcesUtf8 (s.capabilities.map Int.ofNat) = decide (NamesUtf8 rs) := by
  rw [h.capabilities_eq, Bool.eq_iff_iff, decide_eq_true_iff, NamesUtf8]
  cases rs.findRev? (·.tag = 127) with
  | none => simp [Capabilities.announcesUtf8]
  | some r => simpa [Capabilities.announcesUtf8] using
      congrArg (· = true) (Capabilities.hasBit_decode r.body)

end Element

/-! ## The name -/

open Element

/-- **The last name is read as the last capabilities say.** An address of twelve digits and an
accepted buffer describe a network. Its name is missing exactly if the buffer has none; otherwise it
is the last name in the buffer, read as UTF-8 if the last capabilities in the buffer have seven
octets with the lowest bit of the seventh set, and as ISO-8859-1 if they do not or if there are
none. The network tells which of the two it was, and so does a report of it. -/
theorem Network.ssid_of_last_records {bssid : String} {data : Octets} {s : Findings}
    (hb : HasTwelveDigits bssid) (hs : scan data = .ok s) (answers : Anqp.Answers) :
    ∃ rs n, data = Record.encodeAll rs ∧ Network.ofOctets (some bssid) data answers = .ok n ∧
      (n.ssid = (rs.findRev? (·.tag = 0)).map fun r =>
        String.ofList (if NamesUtf8 rs then Text.Utf8.decodeLossy r.body
          else Text.Latin1.decode r.body)) ∧
      n.announcesUtf8 = decide (NamesUtf8 rs) ∧
      ∃ members, n.toJson = .object members ∧
        members.lookup "ssid_utf8" = some (.bool (decide (NamesUtf8 rs))) := by
  obtain ⟨rs, rfl, hr⟩ := scan_eq_ok_iff.mp hs
  have hu := hr.announcesUtf8_eq
  refine ⟨rs, _, rfl, Network.ofOctets_of_hasTwelveDigits hb hs, ?_, hu, _, rfl, ?_⟩
  · rw [Network.ofFindings, Findings.nameText, hr.name_eq, Option.map_map]
    simp only [Function.comp_def, Element.nameText, hu, decide_eq_true_eq]
  · rw [← hu]
    rfl

/-- Capabilities of one octet, two names, and behind them capabilities of nine octets. -/
theorem Network.ssid_of_last_records_repeated :
    HasTwelveDigits "00-11-22 33:44:5f" ∧
    ∃ n, Network.ofOctets (some "00-11-22 33:44:5f") [127, 1, 0xFE, 0, 1, 0x61, 0, 2, 0xC3, 0xA9,
        127, 9, 0, 0, 0, 0, 0, 0, 1, 0, 0xFF] .empty = .ok n ∧
      n.ssid = some "é" ∧ n.announcesUtf8 = true := by
  have hb : HasTwelveDigits "00-11-22 33:44:5f" := by decide +kernel
  have hs : scan [127, 1, 0xFE, 0, 1, 0x61, 0, 2, 0xC3, 0xA9,
      127, 9, 0, 0, 0, 0, 0, 0, 1, 0, 0xFF] =
      .ok { name := some [0xC3, 0xA9], capabilities := some 0x1000000000000, seen := 4,
            consumed := 21 } := by
    decide +kernel
  obtain ⟨rs, n, hd, hn, hname, hu, -⟩ := Network.ssid_of_last_records hb hs .empty
  have hrs : rs = [⟨127, [0xFE], by decide⟩, ⟨0, [0x61], by decide⟩, ⟨0, [0xC3, 0xA9], by decide⟩,
      ⟨127, [0, 0, 0, 0, 0, 0, 1, 0, 0xFF], by decide⟩] :=
    Record.encodeAll_injective hd.symm
  subst hrs
  exact ⟨hb, n, hn, hname.trans (by decide +kernel), hu.trans (by decide +kernel)⟩

end Passpoint
