import Passpoint.Proofs.Description
import Passpoint.Proofs.Routes

/-! What the two texts of a scan result come to. They are sound if one is digits behind an equals
sign, the other has twelve digits, and the buffer is accepted; then there is one network. If not,
there is one thing to tell: what is wrong with the text of the elements, or else that the other is
no address, or else where the buffer is refused. -/

namespace Passpoint

/-! ## Texts that hold no buffer -/

namespace Element.ScanText

open Text

/-- What is wrong with a text that holds no buffer. White space between its digits is told before
anything else about them. -/
inductive Misspelt (text : String) : Fault → Prop
  | noSeparator (h : '=' ∉ text.toList) : Misspelt text .noSeparator
  | inside {before after : List Char} (hb : '=' ∉ before)
      (ht : text.toList = before ++ '=' :: after) (hw : ∃ c ∈ strip after, isBlank c = true) :
      Misspelt text .inside
  | notHex {before after : List Char} {position : Nat} (hb : '=' ∉ before)
      (ht : text.toList = before ++ '=' :: after) (hw : ∀ c ∈ strip after, isBlank c = false)
      (hr : readOctets (strip after) = .error position) : Misspelt text (.notHex position)

variable {text : String} {f : Fault}

theorem parse_of_unbroken {before after : List Char} (hb : '=' ∉ before)
    (ht : text.toList = before ++ '=' :: after) (hw : ∀ c ∈ strip after, isBlank c = false) :
    parse text = (readOctets (strip after)).mapError .notHex := by
  have hn : (strip after).any isBlank = false := by simpa using hw
  rw [parse_of_split ht hb, hn]
  rfl

theorem Misspelt.parse_eq (h : Misspelt text f) : parse text = .error f := by
  cases h with
  | noSeparator h => exact parse_of_notMem h
  | inside hb ht hw => rw [parse_of_split ht hb, if_pos (List.any_eq_true.mpr hw)]
  | notHex hb ht hw hr =>
    rw [parse_of_unbroken hb ht hw, hr]
    rfl

theorem spelled_or_misspelt (text : String) :
    (∃ data, Spelled text.toList data) ∨ ∃ f, Misspelt text f := by
  rcases notMem_or_exists_split '=' text.toList with hn | ⟨before, after, hb, ht⟩
  · exact .inr ⟨_, .noSeparator hn⟩
  by_cases hw : ∃ c ∈ strip after, isBlank c = true
  · exact .inr ⟨_, .inside hb ht hw⟩
  have hw : ∀ c ∈ strip after, isBlank c = false := by simpa using hw
  cases hr : readOctets (strip after) with
  | error position => exact .inr ⟨_, .notHex hb ht hw hr⟩
  | ok data =>
    refine .inl ⟨data, parse_eq_ok_iff_spelled.mp ?_⟩
    rw [parse_of_unbroken hb ht hw, hr]
    rfl

end Element.ScanText

namespace Network

open Element.ScanText (Spelled Formed Misspelt)

/-! ## What there is to tell -/

/-- Two texts that describe a network. -/
structure Sound (bssid elements : String) : Prop where
  digits : HasTwelveDigits bssid
  accepted : ∃ data, Spelled elements.toList data ∧ ∃ s, Element.scan data = .ok s

/-- `Describes bssid elements answers n`: the network that two sound texts describe, with some
answers. -/
inductive Describes (bssid elements : String) (answers : Anqp.Answers) : Network → Prop
  | network {data : Octets} {s : Element.Findings} (he : Spelled elements.toList data)
      (hb : HasTwelveDigits bssid) (hs : Element.scan data = .ok s) :
      Describes bssid elements answers
        (ofFindings (Address.ofDigits (Address.digitsOf bssid.toList)) s answers)

/-- `AtFault bssid elements f`: what is first at fault with two texts. -/
inductive AtFault (bssid elements : String) : Fault → Prop
  | text {f : Element.ScanText.Fault} (he : Misspelt elements f) : AtFault bssid elements (.text f)
  | address (he : Formed elements.toList) (hb : ¬ HasTwelveDigits bssid) :
      AtFault bssid elements (.address (.digits bssid))
  | element {data : Octets} {f : Element.Fault} (he : Spelled elements.toList data)
      (hb : HasTwelveDigits bssid) (hs : Element.scan data = .error f) :
      AtFault bssid elements (.element f)

variable {bssid elements : String} {data : Octets} {answers : Anqp.Answers}

theorem exists_describes_iff (answers : Anqp.Answers) :
    (∃ n, Describes bssid elements answers n) ↔ Sound bssid elements := by
  constructor
  · rintro ⟨n, ⟨he, hb, hs⟩⟩
    exact ⟨hb, _, he, _, hs⟩
  · rintro ⟨hb, data, he, s, hs⟩
    exact ⟨_, .network he hb hs⟩

theorem describes_or_atFault (bssid elements : String) (answers : Anqp.Answers) :
    (∃ n, Describes bssid elements answers n) ∨ ∃ f, AtFault bssid elements f := by
  rcases Element.ScanText.spelled_or_misspelt elements with ⟨data, he⟩ | ⟨f, he⟩
  · by_cases hb : HasTwelveDigits bssid
    · cases hs : Element.scan data with
      | ok s => exact .inl ⟨_, .network he hb hs⟩
      | error f => exact .inr ⟨_, .element he hb hs⟩
    · exact .inr ⟨_, .address (Element.ScanText.exists_spelled_iff.mp ⟨data, he⟩) hb⟩
  · exact .inr ⟨_, .text he⟩

/-! ## What is told -/

theorem examinedText_of_spelled (he : Spelled elements.toList data) :
    examinedText (some bssid) (some elements) = examined (some bssid) data :=
  examinedText_of_parse (Element.ScanText.parse_eq_ok_iff_spelled.mpr he)

theorem Describes.ofScanText_eq {n : Network} (h : Describes bssid elements answers n) :
    ofScanText (some bssid) (some elements) answers = .ok n := by
  obtain ⟨he, hb, hs⟩ := h
  have ha : Address.parse? (some bssid) = .ok _ := Address.parse_of_hasTwelveDigits hb
  rw [ofScanText_eq_map, examinedText_of_spelled he, examined_of_sound ha hs]
  rfl

theorem AtFault.ofScanText_eq {f : Fault} (h : AtFault bssid elements f) :
    ofScanText (some bssid) (some elements) answers = .error f := by
  rw [ofScanText_eq_map]
  cases h with
  | text he =>
    rw [examinedText, Element.ScanText.parse?, he.parse_eq]
    rfl
  | address he hb =>
    obtain ⟨data, he⟩ := Element.ScanText.exists_spelled_iff.mpr he
    have ha : Address.parse? (some bssid) = .error _ := Address.parse_of_not_hasTwelveDigits hb
    rw [examinedText_of_spelled he, examined_of_bad_address ha]
    rfl
  | element he hb hs =>
    have ha : Address.parse? (some bssid) = .ok _ := Address.parse_of_hasTwelveDigits hb
    rw [examinedText_of_spelled he, examined_of_bad_buffer ha hs]
    rfl

/-- Texts that are at fault are not sound. -/
theorem AtFault.not_sound {f : Fault} (h : AtFault bssid elements f) : ¬ Sound bssid elements := by
  intro hs
  obtain ⟨n, hn⟩ := (exists_describes_iff .empty).mpr hs
  cases hn.ofScanText_eq.symm.trans h.ofScanText_eq

end Network

end Passpoint
