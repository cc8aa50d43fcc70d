import Mathlib.Tactic.IntervalCases
import Passpoint.Network.Basic

/-! When an address and an element buffer describe a network: the address has twelve hexadecimal
digits, whatever stands between them, and the buffer is accepted. -/

namespace Passpoint

/-! ## Addresses -/

/-- The hexadecimal digits, in either case. -/
def hexDigits : List Char :=
  ['0', '1', '2', '3', '4', '5', '6', '7', '8', '9', 'a', 'b', 'c', 'd', 'e', 'f', 'A', 'B', 'C',
    'D', 'E', 'F']

/-- A text has exactly twelve hexadecimal digits. -/
def HasTwelveDigits (text : String) : Prop := text.toList.countP (· ∈ hexDigits) = 12

instance (text : String) : Decidable (HasTwelveDigits text) := inferInstanceAs (Decidable (_ = _))

theorem Text.toNat_of_isSome_hexValue? {c : Char} (h : (hexValue? c).isSome) :
    (48 ≤ c.toNat ∧ c.toNat ≤ 57) ∨ (97 ≤ c.toNat ∧ c.toNat ≤ 102) ∨
      65 ≤ c.toNat ∧ c.toNat ≤ 70 := by
  simp only [hexValue?, Char.le_def, UInt32.le_iff_toNat_le] at h
  split at h
  · rename_i hc
    exact .inl hc
  · split at h
    · rename_i hc
      exact .inr (.inl hc)
    · split at h
      · rename_i hc
        exact .inr (.inr hc)
      · cases h

theorem Text.isSome_hexValue?_iff {c : Char} : (hexValue? c).isSome ↔ c ∈ hexDigits := by
  constructor
  · intro h
    rw [← Char.ofNat_toNat c]
    rcases toNat_of_isSome_hexValue? h with ⟨hl, hu⟩ | ⟨hl, hu⟩ | ⟨hl, hu⟩ <;>
      interval_cases c.toNat <;> decide
  · intro h
    have hd : hexDigits.all fun d => (hexValue? d).isSome := by decide
    exact List.all_eq_true.mp hd c h

theorem Address.length_digitsOf (cs : List Char) :
    (digitsOf cs).length = cs.countP (· ∈ hexDigits) := by
  rw [digitsOf, List.length_filterMap_eq_countP]
  refine List.countP_congr fun c _ => ?_
  rw [Text.isSome_hexValue?_iff, decide_eq_true_iff]

theorem Address.length_digitsOf_iff {text : String} :
    (digitsOf text.toList).length = digitCount ↔ HasTwelveDigits text := by
  rw [length_digitsOf, digitCount, HasTwelveDigits]

theorem Address.parse_of_hasTwelveDigits {text : String} (h : HasTwelveDigits text) :
    parse text = .ok (ofDigits (digitsOf text.toList)) := by
  rw [parse, if_pos (length_digitsOf_iff.mpr h)]

theorem Address.parse_of_not_hasTwelveDigits {text : String} (h : ¬ HasTwelveDigits text) :
    parse text = .error (.digits text) := by
  rw [parse, if_neg fun hl => h (length_digitsOf_iff.mp hl)]

/-! ## Networks -/

namespace Network

variable {bssid : String} {data : Octets} {answers : Anqp.Answers}

theorem ofOctets_of_hasTwelveDigits {s : Element.Findings} (hb : HasTwelveDigits bssid)
    (hs : Element.scan data = .ok s) :
    ofOctets (some bssid) data answers =
      .ok (ofFindings (Address.ofDigits (Address.digitsOf bssid.toList)) s answers) := by
  rw [ofOctets, Address.parse?, Address.parse_of_hasTwelveDigits hb, hs]
  rfl

/-- A network is described exactly by twelve digits and an accepted buffer. -/
theorem exists_ofOctets_iff :
    (∃ n, ofOctets (some bssid) data answers = .ok n) ↔
      HasTwelveDigits bssid ∧ ∃ s, Element.scan data = .ok s := by
  constructor
  · rintro ⟨n, h⟩
    rw [ofOctets, Address.parse?] at h
    by_cases hb : HasTwelveDigits bssid
    · rw [Address.parse_of_hasTwelveDigits hb] at h
      cases hs : Element.scan data with
      | ok s => exact ⟨hb, s, rfl⟩
      | error fault => rw [hs] at h; cases h
    · rw [Address.parse_of_not_hasTwelveDigits hb] at h
      cases h
  · rintro ⟨hb, s, hs⟩
    exact ⟨_, ofOctets_of_hasTwelveDigits hb hs⟩

end Network

end Passpoint
