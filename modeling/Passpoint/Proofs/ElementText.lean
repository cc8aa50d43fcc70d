import Passpoint.Element.ScanText
import Passpoint.Proofs.HexText
import Passpoint.Proofs.WhiteSpace

/-! Which texts hold an element buffer. Behind the first equals sign stand pairs of hexadecimal
digits in either case, with white space of any script around them and none inside; what stands in
front of the sign does not matter. Every other text is refused. -/

namespace Passpoint.Element.ScanText

open Text

/-- `Spelled cs data`: a text without an equals sign, the sign, and the digits of octets with white
space around them. -/
inductive Spelled : List Char → Octets → Prop
  | octets {before w digits w' : List Char} {data : Octets} (hb : '=' ∉ before) (hw : AllBlank w)
      (hd : digits.map Char.toLower = octetsDigits data) (hw' : AllBlank w') :
      Spelled (before ++ '=' :: (w ++ digits ++ w')) data

/-- The same for an even number of digits, whatever they spell. -/
inductive Formed : List Char → Prop
  | digits {before w digits w' : List Char} (hb : '=' ∉ before) (hw : AllBlank w)
      (he : digits.length % 2 = 0) (hd : ∀ c ∈ digits, c ∈ hexDigits) (hw' : AllBlank w') :
      Formed (before ++ '=' :: (w ++ digits ++ w'))

variable {text : String} {before after digits : List Char} {data : Octets}

theorem exists_spelled_iff {cs : List Char} : (∃ data, Spelled cs data) ↔ Formed cs := by
  constructor
  · rintro ⟨data, ⟨hb, hw, hd, hw'⟩⟩
    obtain ⟨he, hdigits⟩ := exists_map_toLower_iff.mp ⟨data, hd⟩
    exact .digits hb hw he hdigits hw'
  · rintro ⟨hb, hw, he, hdigits, hw'⟩
    obtain ⟨data, hd⟩ := exists_map_toLower_iff.mpr ⟨he, hdigits⟩
    exact ⟨data, .octets hb hw hd hw'⟩

/-! ## Reading -/

theorem parse_of_notMem (h : '=' ∉ text.toList) : parse text = .error .noSeparator := by
  rw [parse, splitFirst_of_notMem h]

theorem parse_of_split (ht : text.toList = before ++ '=' :: after) (hb : '=' ∉ before) :
    parse text =
      if (strip after).any isBlank then .error .inside
      else (readOctets (strip after)).mapError .notHex := by
  rw [parse, ht, splitFirst_append hb]

theorem isBlank_of_map_toLower (hd : digits.map Char.toLower = octetsDigits data) :
    ∀ c ∈ digits, isBlank c = false :=
  fun c hc => (isBlank_of_mem_hexDigits ((exists_map_toLower_iff.mp ⟨data, hd⟩).2 c hc)).1

/-- What stands behind the sign is read, white space at its ends apart. -/
theorem parse_eq_ok_iff (ht : text.toList = before ++ '=' :: after) (hb : '=' ∉ before) :
    parse text = .ok data ↔ (strip after).map Char.toLower = octetsDigits data := by
  rw [parse_of_split ht hb]
  constructor
  · intro h
    split at h
    · cases h
    · rename_i hany
      have hany : ∀ c ∈ strip after, isBlank c = false := by simpa using hany
      cases hr : readOctets (strip after) with
      | error pos => rw [hr] at h; cases h
      | ok bs =>
        rw [hr] at h
        cases h
        have hs := readOctets_strip_eq_ok_iff.mp hr
        exact hs.map_toLower fun c hc => isAsciiBlank_eq_false (hany c hc)
  · intro hd
    have hany : (strip after).any isBlank = false := by simpa using isBlank_of_map_toLower hd
    rw [hany, readOctets_strip_eq_ok_iff.mpr (spells_of_map_toLower hd)]
    rfl

theorem parse_eq_ok_iff_spelled : parse text = .ok data ↔ Spelled text.toList data := by
  constructor
  · intro h
    rcases notMem_or_exists_split '=' text.toList with hn | ⟨before, after, hb, ht⟩
    · rw [parse_of_notMem hn] at h
      cases h
    · have hd := (parse_eq_ok_iff ht hb).mp h
      obtain ⟨w, w', hw, hw', ha⟩ := exists_eq_strip after
      rw [ht, ha]
      exact .octets hb hw hd hw'
  · intro h
    generalize ht : text.toList = cs at h
    obtain ⟨hb, hw, hd, hw'⟩ := h
    rw [parse_eq_ok_iff ht hb, strip_append_append hw hw', strip,
      stripBy_eq_self (isBlank_of_map_toLower hd)]
    exact hd

/-- White space between two digits is refused as such, whatever else there is. -/
theorem parse_of_blank_inside {w middle w' : List Char} {d d' : Char} (hb : '=' ∉ before)
    (hw : AllBlank w) (hw' : AllBlank w') (hd : d ∈ hexDigits) (hd' : d' ∈ hexDigits)
    (hm : ∃ c ∈ middle, isBlank c = true)
    (ht : text.toList = before ++ '=' :: (w ++ d :: (middle ++ [d']) ++ w')) :
    parse text = .error .inside := by
  have hs : strip (w ++ d :: (middle ++ [d']) ++ w') = d :: (middle ++ [d']) := by
    rw [strip_append_append hw hw']
    exact stripBy_of_ends (isBlank_of_mem_hexDigits hd).1 (isBlank_of_mem_hexDigits hd').1 middle
  obtain ⟨c, hc, hblank⟩ := hm
  have hany : (d :: (middle ++ [d'])).any isBlank = true :=
    List.any_eq_true.mpr ⟨c, by simp [hc], hblank⟩
  rw [parse_of_split ht hb, hs, if_pos hany]

/-- **A text holds a buffer exactly if digits alone stand behind its first equals sign.** The buffer
is what an even number of hexadecimal digits spell, in either case, with white space of any script
before and behind them; a text of any other form is refused. White space of any kind between two
digits is always refused as such, and what stands in front of the first equals sign has no part in
the octets. -/
theorem parse_accepts_spelled (text : String) :
    (∀ data, parse text = .ok data ↔ Spelled text.toList data) ∧
    ((∃ fault, parse text = .error fault) ↔ ¬ Formed text.toList) ∧
    (∀ (before w middle w' : List Char) (d d' : Char), '=' ∉ before → AllBlank w → AllBlank w' →
      d ∈ hexDigits → d' ∈ hexDigits → (∃ c ∈ middle, isBlank c = true) →
      text.toList = before ++ '=' :: (w ++ d :: (middle ++ [d']) ++ w') →
      parse text = .error .inside) ∧
    ∀ before after other : List Char, '=' ∉ before → '=' ∉ other →
      text.toList = before ++ '=' :: after →
      parse (String.ofList (other ++ '=' :: after)) = parse text := by
  refine ⟨fun _ => parse_eq_ok_iff_spelled, ?refused, ?inside, ?before⟩
  case refused =>
    rw [← exists_spelled_iff]
    simp only [← parse_eq_ok_iff_spelled]
    cases parse text <;> simp
  case inside =>
    intro before w middle w' d d' hb hw hw' hd hd' hm ht
    exact parse_of_blank_inside hb hw hw' hd hd' hm ht
  case before =>
    intro before after other hb ho ht
    rw [parse_of_split ht hb, parse_of_split (String.toList_ofList) ho]

/-- Digits of both cases with white space of other scripts around them, and with a tab inside. -/
theorem parse_accepts_spelled_wide :
    Spelled "x y=\u3000\u00a00aFf\u2028".toList [0x0A, 0xFF] ∧
    parse "x y=\u3000\u00a00aFf\u2028" = .ok [0x0A, 0xFF] ∧
    parse "0b=\u3000\u00a00aFf\u2028" = .ok [0x0A, 0xFF] ∧
    parse "x y= 0a\tFf" = .error .inside := by
  have ht : "x y=\u3000\u00a00aFf\u2028".toList =
      ['x', ' ', 'y'] ++ '=' :: (['\u3000', '\u00a0'] ++ ['0', 'a', 'F', 'f'] ++ ['\u2028']) := by
    decide +kernel
  have hs : Spelled "x y=\u3000\u00a00aFf\u2028".toList [0x0A, 0xFF] :=
    ht ▸ .octets (by decide) (by decide) (by decide) (by decide)
  obtain ⟨hread, -, -, hbefore⟩ := parse_accepts_spelled "x y=\u3000\u00a00aFf\u2028"
  have hp := (hread _).mpr hs
  refine ⟨hs, hp, (hbefore _ _ ['0', 'b'] (by decide) (by decide) ht).trans hp, ?_⟩
  exact (parse_accepts_spelled "x y= 0a\tFf").2.2.1
    ['x', ' ', 'y'] [' '] ['a', '\t', 'F'] [] '0' 'f' (by decide) (by decide) (by decide)
    (by decide) (by decide) ⟨'\t', by decide, by decide⟩ (by decide +kernel)

end Passpoint.Element.ScanText
