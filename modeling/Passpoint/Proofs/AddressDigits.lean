import Mathlib.Data.Nat.Digits.Defs
import Passpoint.Proofs.Coherence
import Passpoint.Proofs.HexText

/-! The text of an address is read for its hexadecimal digits and for nothing else. Twelve of them,
in either case and with anything between them, are one number, other digits are another number, and
the written form of that number is those digits again, in pairs with colons between. Texts in that
form and numbers of 48 bits stand for one another. -/

namespace Passpoint.Address

/-! ## The digits of a text -/

/-- The hexadecimal digits of a text, in lower case and with nothing between them. -/
def spelling (text : String) : List Char := (text.toList.filter (· ∈ hexDigits)).map Char.toLower

/-- Digits two by two. -/
def pairs : List Char → List (List Char)
  | a :: b :: ds => [a, b] :: pairs ds
  | [a] => [[a]]
  | [] => []

/-- Digits in pairs, with colons between the pairs. -/
def grouped (ds : List Char) : String := ":".intercalate ((pairs ds).map String.ofList)

/-- Twelve hexadecimal digits in lower case, in pairs with colons between. -/
def IsCanonical (text : String) : Prop :=
  ∃ ds, ds.length = 12 ∧ (∀ d ∈ ds, d ∈ hexDigits ∧ d.toLower = d) ∧ text = grouped ds

variable {text other : String} {ds es : List Nat}

theorem map_hexDigit_digitsOf (cs : List Char) :
    (digitsOf cs).map Text.hexDigit = (cs.filter (· ∈ hexDigits)).map Char.toLower := by
  induction cs with
  | nil => rfl
  | cons c cs ih =>
    cases hc : Text.hexValue? c with
    | none =>
      have hm : c ∉ hexDigits := by
        rw [← Text.isSome_hexValue?_iff, hc]
        exact Bool.false_ne_true
      rw [digitsOf, List.filterMap_cons_none hc, List.filter_cons_of_neg (by simpa using hm)]
      exact ih
    | some n =>
      have hm : c ∈ hexDigits := Text.isSome_hexValue?_iff.mp (Option.isSome_of_eq_some hc)
      rw [digitsOf, List.filterMap_cons_some hc, List.filter_cons_of_pos (by simpa using hm),
        List.map_cons, List.map_cons, (Text.hexValue?_eq_some_iff.mp hc).2]
      exact congrArg _ ih

theorem spelling_eq (text : String) : spelling text = (digitsOf text.toList).map Text.hexDigit :=
  (map_hexDigit_digitsOf text.toList).symm

theorem lt_of_mem_digitsOf {cs : List Char} {d : Nat} (h : d ∈ digitsOf cs) : d < 16 := by
  obtain ⟨c, -, hc⟩ := List.mem_filterMap.mp h
  exact Text.hexValue?_lt hc

theorem digitsOf_map_hexDigit (h : ∀ d ∈ ds, d < 16) : digitsOf (ds.map Text.hexDigit) = ds := by
  induction ds with
  | nil => rfl
  | cons d ds ih =>
    obtain ⟨hd, h⟩ := List.forall_mem_cons.mp h
    rw [List.map_cons, digitsOf, List.filterMap_cons_some (Text.hexValue?_hexDigit hd)]
    exact congrArg _ (ih h)

theorem spelling_eq_iff :
    spelling text = spelling other ↔ digitsOf text.toList = digitsOf other.toList := by
  rw [spelling_eq, spelling_eq]
  refine ⟨fun h => ?_, fun h => by rw [h]⟩
  have hd := congrArg digitsOf h
  rwa [digitsOf_map_hexDigit fun _ => lt_of_mem_digitsOf,
    digitsOf_map_hexDigit fun _ => lt_of_mem_digitsOf] at hd

theorem hasTwelveDigits_iff : HasTwelveDigits text ↔ (spelling text).length = 12 := by
  rw [← length_digitsOf_iff, spelling_eq, List.length_map, digitCount]

theorem hasTwelveDigits_congr (h : spelling other = spelling text) :
    HasTwelveDigits other ↔ HasTwelveDigits text := by
  rw [hasTwelveDigits_iff, hasTwelveDigits_iff, h]

/-! ## The number of digits -/

theorem ofDigits_eq (ds : List Nat) : ofDigits ds = Nat.ofDigits 16 ds.reverse := by
  induction ds using List.reverseRecOn with
  | nil => rfl
  | append_singleton ds d ih =>
    rw [ofDigits_concat, List.reverse_append, List.reverse_singleton, List.singleton_append,
      Nat.ofDigits_cons, ih]
    exact Nat.add_comm _ _

/-- As many digits with the same number are the same. -/
theorem ofDigits_inj (hl : ds.length = es.length) (hd : ∀ d ∈ ds, d < 16) (he : ∀ d ∈ es, d < 16)
    (h : ofDigits ds = ofDigits es) : ds = es := by
  rw [ofDigits_eq, ofDigits_eq] at h
  refine List.reverse_inj.mp (Nat.ofDigits_inj_of_len_eq (by decide) ?_ ?_ ?_ h)
  · simpa using hl
  · simpa using hd
  · simpa using he

theorem ofDigits_digitsOf_lt (h : HasTwelveDigits text) :
    ofDigits (digitsOf text.toList) < 2 ^ 48 := by
  have hl := length_digitsOf_iff.mpr h
  have hlt := ofDigits_lt fun d (hd : d ∈ digitsOf text.toList) => lt_of_mem_digitsOf hd
  simpa [hl, digitCount] using hlt

theorem parse_eq_ok_iff {n : Nat} :
    parse text = .ok n ↔ HasTwelveDigits text ∧ ofDigits (digitsOf text.toList) = n := by
  by_cases h : HasTwelveDigits text
  · simp [parse_of_hasTwelveDigits h, h]
  · simp [parse_of_not_hasTwelveDigits h, h]

/-- Two texts with twelve digits have one number exactly if they have the same digits. -/
theorem ofDigits_digitsOf_eq_iff (h : HasTwelveDigits text) (h' : HasTwelveDigits other) :
    ofDigits (digitsOf other.toList) = ofDigits (digitsOf text.toList) ↔
      spelling other = spelling text := by
  rw [spelling_eq_iff]
  refine ⟨fun hd => ?_, congrArg ofDigits⟩
  exact ofDigits_inj ((length_digitsOf_iff.mpr h').trans (length_digitsOf_iff.mpr h).symm)
    (fun _ => lt_of_mem_digitsOf) (fun _ => lt_of_mem_digitsOf) hd

/-! ## The written form -/

theorem pairs_octetsDigits (bs : Octets) :
    pairs (Text.octetsDigits bs) = bs.map Text.octetDigits := by
  induction bs with
  | nil => rfl
  | cons b bs ih => exact congrArg (Text.octetDigits b :: ·) ih

theorem spelling_format (n : Int) : spelling (format n) = Text.octetsDigits (octets n) := by
  rw [spelling_eq, digitsOf_format, List.map_flatMap]
  rfl

/-- The written form of a number has nothing but its digits, in pairs. -/
theorem format_eq_grouped (n : Int) : format n = grouped (spelling (format n)) := by
  rw [spelling_format, grouped, pairs_octetsDigits, octets, List.map_map, List.map_map]
  rfl

theorem hasTwelveDigits_format (n : Int) : HasTwelveDigits (format n) := by
  rw [hasTwelveDigits_iff, spelling_format, Text.length_octetsDigits]
  rfl

theorem spelling_format_ofDigits (h : HasTwelveDigits text) :
    spelling (format (ofDigits (digitsOf text.toList))) = spelling text := by
  have hp := parse_format (ofDigits (digitsOf text.toList))
  have hlt := ofDigits_digitsOf_lt h
  have hn : ((ofDigits (digitsOf text.toList) : Int) % 2 ^ 48).toNat =
      ofDigits (digitsOf text.toList) := by
    omega
  rw [hn, parse_eq_ok_iff] at hp
  exact (ofDigits_digitsOf_eq_iff h hp.1).mp hp.2

theorem normalize_of_hasTwelveDigits (h : HasTwelveDigits text) :
    normalize (some text) = .ok (grouped (spelling text)) := by
  have hn : normalize (some text) = .ok (format (ofDigits (digitsOf text.toList))) := by
    rw [normalize, parse?, parse_of_hasTwelveDigits h]
    rfl
  rw [hn, format_eq_grouped, spelling_format_ofDigits h]

theorem normalize_of_not_hasTwelveDigits (h : ¬ HasTwelveDigits text) :
    normalize (some text) = .error (.digits text) := by
  rw [normalize, parse?, parse_of_not_hasTwelveDigits h]
  rfl

theorem flatten_pairs : ∀ ds : List Char, (pairs ds).flatten = ds
  | [] => rfl
  | [_] => rfl
  | a :: b :: ds => congrArg (fun es => a :: b :: es) (flatten_pairs ds)

/-- A colon is no digit. -/
theorem filter_intercalate_colon (l : List (List Char)) :
    ([':'].intercalate l).filter (· ∈ hexDigits) = l.flatten.filter (· ∈ hexDigits) := by
  have hcolon : ([':'] : List Char).filter (· ∈ hexDigits) = [] := by decide
  induction l with
  | nil => rfl
  | cons cs l ih =>
    cases l with
    | nil => simp
    | cons ds l =>
      rw [List.intercalate_cons_cons, List.filter_append, List.filter_append, hcolon, ih,
        List.append_nil, List.flatten_cons (l := cs), List.filter_append]

theorem spelling_grouped {ds : List Char} (h : ∀ d ∈ ds, d ∈ hexDigits ∧ d.toLower = d) :
    spelling (grouped ds) = ds := by
  have hl : (grouped ds).toList = [':'].intercalate (pairs ds) := by
    rw [grouped, String.toList_intercalate, List.map_map]
    simp [Function.comp_def]
  have hf : ds.filter (· ∈ hexDigits) = ds := List.filter_eq_self.mpr fun d hd => by
    simpa using (h d hd).1
  rw [spelling, hl, filter_intercalate_colon, flatten_pairs, hf]
  exact (List.map_congr_left fun d hd => (h d hd).2).trans (List.map_id ds)

theorem mem_spelling {d : Char} (h : d ∈ spelling text) : d ∈ hexDigits ∧ d.toLower = d := by
  rw [spelling_eq] at h
  obtain ⟨k, hk, rfl⟩ := List.mem_map.mp h
  exact Text.mem_hexDigits_hexDigit ⟨k, lt_of_mem_digitsOf hk⟩

theorem spelling_grouped_spelling (text : String) :
    spelling (grouped (spelling text)) = spelling text :=
  spelling_grouped fun _ => mem_spelling

theorem isCanonical_format (n : Int) : IsCanonical (format n) :=
  ⟨spelling (format n), hasTwelveDigits_iff.mp (hasTwelveDigits_format n), fun _ => mem_spelling,
    format_eq_grouped n⟩

/-- **An address is the number of twelve digits, and is written as those digits.** A text is read
exactly if it has twelve hexadecimal digits, and is refused by name otherwise. The number has 48
bits, the texts that have it are those with the same digits, in whatever case and between whatever
separators, and its written form is the digits in lower case, in pairs with colons between; writing
that form once more changes nothing. A number of any size is read back as its last 48 bits, so
numbers of 48 bits and texts in the written form stand for one another. -/
theorem parse_reads_spelling (text : String) :
    ((∃ n, parse text = .ok n) ↔ HasTwelveDigits text) ∧
    (¬ HasTwelveDigits text →
      parse text = .error (.digits text) ∧ normalize (some text) = .error (.digits text)) ∧
    (∀ n, parse text = .ok n →
      n < 2 ^ 48 ∧
      (∀ other, parse other = .ok n ↔ spelling other = spelling text) ∧
      normalize (some text) = .ok (grouped (spelling text)) ∧
      normalize (some (grouped (spelling text))) = .ok (grouped (spelling text))) ∧
    (∀ x : Int, IsCanonical (format x) ∧
      ∃ n : Nat, parse (format x) = .ok n ∧ (n : Int) = x % 2 ^ 48) ∧
    (∀ n : Nat, n < 2 ^ 48 → parse (format n) = .ok n) ∧
    (IsCanonical text → ∃ n < 2 ^ 48, parse text = .ok n ∧ format n = text) := by
  refine ⟨?read, ?refused, ?number, fun x => ⟨isCanonical_format x, _, parse_format x, ?bits⟩,
    fun n hn => ?back, ?canonical⟩
  case read => simp [parse_eq_ok_iff]
  case refused =>
    exact fun h => ⟨parse_of_not_hasTwelveDigits h, normalize_of_not_hasTwelveDigits h⟩
  case number =>
    intro n hp
    obtain ⟨h, rfl⟩ := parse_eq_ok_iff.mp hp
    have hg : HasTwelveDigits (grouped (spelling text)) :=
      (hasTwelveDigits_congr (spelling_grouped_spelling text)).mpr h
    refine ⟨ofDigits_digitsOf_lt h, fun other => ?_, normalize_of_hasTwelveDigits h, ?_⟩
    · rw [parse_eq_ok_iff]
      constructor
      · rintro ⟨h', hn⟩
        exact (ofDigits_digitsOf_eq_iff h h').mp hn
      · intro hs
        have h' : HasTwelveDigits other := (hasTwelveDigits_congr hs).mpr h
        exact ⟨h', (ofDigits_digitsOf_eq_iff h h').mpr hs⟩
    · rw [normalize_of_hasTwelveDigits hg, spelling_grouped_spelling]
  case bits => omega
  case back =>
    have hm : ((n : Int) % 2 ^ 48).toNat = n := by omega
    rw [parse_format, hm]
  case canonical =>
    rintro ⟨ds, hl, hd, rfl⟩
    have hs := spelling_grouped hd
    have h : HasTwelveDigits (grouped ds) := by rw [hasTwelveDigits_iff, hs, hl]
    refine ⟨_, ofDigits_digitsOf_lt h, parse_of_hasTwelveDigits h, ?_⟩
    rw [format_eq_grouped, spelling_format_ofDigits h, hs]

/-- Digits of both cases between separators of all kinds, and eleven of them. -/
theorem parse_reads_spelling_separated :
    HasTwelveDigits "AA-bb.CC dd:eEx0F" ∧ ¬ HasTwelveDigits "AA-bb.CC dd:eEx0" ∧
    IsCanonical "aa:bb:cc:dd:ee:0f" ∧
    parse "aabbccddee0f" = parse "AA-bb.CC dd:eEx0F" ∧
    normalize (some "AA-bb.CC dd:eEx0F") = .ok "aa:bb:cc:dd:ee:0f" ∧
    normalize (some "AA-bb.CC dd:eEx0") = .error (.digits "AA-bb.CC dd:eEx0") ∧
    parse (format (-1)) = .ok 0xFFFFFFFFFFFF ∧ format 0xAABBCCDDEE0F = "aa:bb:cc:dd:ee:0f" := by
  have hd : HasTwelveDigits "AA-bb.CC dd:eEx0F" := by decide +kernel
  have hn : ¬ HasTwelveDigits "AA-bb.CC dd:eEx0" := by decide +kernel
  have hp : parse "AA-bb.CC dd:eEx0F" = .ok 0xAABBCCDDEE0F := by decide +kernel
  have hg : grouped (spelling "AA-bb.CC dd:eEx0F") = "aa:bb:cc:dd:ee:0f" := by decide +kernel
  have hc : IsCanonical "aa:bb:cc:dd:ee:0f" :=
    ⟨['a', 'a', 'b', 'b', 'c', 'c', 'd', 'd', 'e', 'e', '0', 'f'], by decide, by simp [hexDigits],
      by decide +kernel⟩
  obtain ⟨-, -, hnumber, hbits, -, -⟩ := parse_reads_spelling "AA-bb.CC dd:eEx0F"
  obtain ⟨-, hother, hnormal, -⟩ := hnumber _ hp
  obtain ⟨-, n, hm, hminus⟩ := hbits (-1)
  obtain ⟨k, -, hk, hformat⟩ := (parse_reads_spelling "aa:bb:cc:dd:ee:0f").2.2.2.2.2 hc
  have hv : parse "aa:bb:cc:dd:ee:0f" = .ok 0xAABBCCDDEE0F := by decide +kernel
  cases hv.symm.trans hk
  have hn1 : n = 0xFFFFFFFFFFFF := by omega
  refine ⟨hd, hn, hc, ?_, hg ▸ hnormal, ((parse_reads_spelling _).2.1 hn).2, hn1 ▸ hm, hformat⟩
  rw [hp]
  exact (hother "aabbccddee0f").mpr (by decide +kernel)

end Passpoint.Address
