import Passpoint.Proofs.AddressText
import Passpoint.Proofs.WhiteSpace

/-! Octets in hexadecimal, digits of either case. What is read as octets, white space at the ends
apart, is exactly what spells them: two digits for each octet, the high half first, and nothing but
ASCII blanks between one pair of digits and the next. -/

namespace Passpoint.Text

/-! ## Digits -/

/-- What is written for a value is a digit, in lower case. -/
theorem mem_hexDigits_hexDigit (k : Fin 16) :
    hexDigit k ∈ hexDigits ∧ (hexDigit k).toLower = hexDigit k := by
  revert k
  decide

theorem isSome_hexValue?_of_toLower {c : Char} {n : Nat} (hn : n < 16)
    (h : c.toLower = hexDigit n) : (hexValue? c).isSome := by
  rw [isSome_hexValue?_iff]
  by_cases hc : c.val ≥ 'A'.val ∧ c.val ≤ 'Z'.val
  · have all : ∀ k : Fin 91, ∀ n : Fin 16,
        (Char.ofNat k).toLower = hexDigit n → Char.ofNat k ∈ hexDigits := by
      decide +kernel
    have hk : c.toNat < 91 := Nat.lt_succ_of_le (UInt32.le_iff_toNat_le.mp hc.2)
    rw [← Char.ofNat_toNat c] at h ⊢
    exact all ⟨c.toNat, hk⟩ ⟨n, hn⟩ h
  · have hl : c.toLower = c := dif_neg hc
    rw [← hl, h]
    exact (mem_hexDigits_hexDigit ⟨n, hn⟩).1

/-- The value of a digit is that of its lower-case form. -/
theorem hexValue?_eq_some_iff {c : Char} {n : Nat} :
    hexValue? c = some n ↔ n < 16 ∧ c.toLower = hexDigit n := by
  have all : hexDigits.all fun d => ∀ k : Fin 16, hexValue? d = some k.val →
      d.toLower = hexDigit k := by
    decide
  have digit : ∀ {k : Nat}, hexValue? c = some k → k < 16 ∧ c.toLower = hexDigit k := by
    intro k hk
    have hc := isSome_hexValue?_iff.mp (Option.isSome_of_eq_some hk)
    have hd := of_decide_eq_true (List.all_eq_true.mp all c hc)
    exact ⟨hexValue?_lt hk, hd ⟨k, hexValue?_lt hk⟩ hk⟩
  refine ⟨digit, fun ⟨hn, h⟩ => ?_⟩
  obtain ⟨k, hk⟩ := Option.isSome_iff_exists.mp (isSome_hexValue?_of_toLower hn h)
  obtain ⟨hk16, hkd⟩ := digit hk
  have hv := hexValue?_hexDigit hn
  rw [← h, hkd, hexValue?_hexDigit hk16] at hv
  rw [hk, Option.some.inj hv]

/-- A digit is ASCII and no white space. -/
theorem isBlank_of_mem_hexDigits {c : Char} (h : c ∈ hexDigits) :
    isBlank c = false ∧ c.toNat ≤ 0x7F := by
  have all : hexDigits.all fun d => isBlank d = false ∧ d.toNat ≤ 0x7F := by decide
  exact of_decide_eq_true (List.all_eq_true.mp all c h)

theorem isAsciiBlank_eq_false {c : Char} (h : isBlank c = false) : isAsciiBlank c = false := by
  cases hc : isAsciiBlank c with
  | false => rfl
  | true => rw [← h, isBlank_of_isAsciiBlank hc]

theorem isAsciiBlank_of_mem_hexDigits {c : Char} (h : c ∈ hexDigits) : isAsciiBlank c = false :=
  isAsciiBlank_eq_false (isBlank_of_mem_hexDigits h).1

/-! ## Octets -/

/-- Two digits, of either case, for an octet. -/
def IsPair (a b : Char) (o : UInt8) : Prop := [a.toLower, b.toLower] = octetDigits o

instance (a b : Char) (o : UInt8) : Decidable (IsPair a b o) := inferInstanceAs (Decidable (_ = _))

theorem isPair_iff {a b : Char} {o : UInt8} :
    IsPair a b o ↔ hexValue? a = some (o.toNat / 16) ∧ hexValue? b = some (o.toNat % 16) := by
  have ho := o.toNat_lt
  have hh : o.toNat / 16 < 16 := by omega
  have hl : o.toNat % 16 < 16 := by omega
  rw [IsPair, octetDigits, hexValue?_eq_some_iff, hexValue?_eq_some_iff, List.cons.injEq,
    List.cons.injEq]
  simp [hh, hl]

theorem IsPair.mem_hexDigits {a b : Char} {o : UInt8} (h : IsPair a b o) :
    a ∈ hexDigits ∧ b ∈ hexDigits := by
  obtain ⟨ha, hb⟩ := isPair_iff.mp h
  exact ⟨isSome_hexValue?_iff.mp (Option.isSome_of_eq_some ha),
    isSome_hexValue?_iff.mp (Option.isSome_of_eq_some hb)⟩

theorem exists_isPair {a b : Char} {m n : Nat} (ha : hexValue? a = some m)
    (hb : hexValue? b = some n) : IsPair a b (UInt8.ofNat (16 * m + n)) := by
  have hm := hexValue?_lt ha
  have hn := hexValue?_lt hb
  have ho : (UInt8.ofNat (16 * m + n)).toNat = 16 * m + n := by
    rw [UInt8.toNat_ofNat']
    omega
  rw [isPair_iff, ho, ha, hb]
  exact ⟨congrArg some (by omega), congrArg some (by omega)⟩

/-- `Spells cs bs`: each octet is a pair of digits, and ASCII blanks or nothing stand between one
pair and the next. -/
inductive Spells : List Char → Octets → Prop
  | nil : Spells [] []
  | cons {a b : Char} {o : UInt8} {gap cs : List Char} {bs : Octets} (hp : IsPair a b o)
      (hg : ∀ c ∈ gap, isAsciiBlank c = true) (hn : cs = [] → gap = []) (hs : Spells cs bs) :
      Spells (a :: b :: (gap ++ cs)) (o :: bs)

variable {cs gap : List Char} {bs : Octets}

/-- What spells octets is empty, or begins and ends with a digit. -/
theorem Spells.ends (h : Spells cs bs) :
    cs = [] ∨ ∃ d middle d', d ∈ hexDigits ∧ d' ∈ hexDigits ∧ cs = d :: (middle ++ [d']) := by
  induction h with
  | nil => exact .inl rfl
  | @cons a b o gap cs bs hp hg hn hs ih =>
    obtain ⟨ha, hb⟩ := hp.mem_hexDigits
    rcases ih with rfl | ⟨d, middle, d', -, hd', rfl⟩
    · rw [hn rfl]
      exact .inr ⟨a, [], b, ha, hb, rfl⟩
    · exact .inr ⟨a, b :: (gap ++ d :: middle), d', ha, hd', by simp⟩

theorem Spells.strip_eq (h : Spells cs bs) : strip cs = cs := by
  rcases h.ends with rfl | ⟨d, middle, d', hd, hd', rfl⟩
  · rfl
  · exact stripBy_of_ends (isBlank_of_mem_hexDigits hd).1 (isBlank_of_mem_hexDigits hd').1 middle

/-- What spells octets is ASCII. -/
theorem Spells.toNat_le (h : Spells cs bs) : ∀ c ∈ cs, c.toNat ≤ 0x7F := by
  induction h with
  | nil => nofun
  | cons hp hg hn hs ih =>
    obtain ⟨ha, hb⟩ := hp.mem_hexDigits
    refine List.forall_mem_cons.mpr ⟨(isBlank_of_mem_hexDigits ha).2,
      List.forall_mem_cons.mpr ⟨(isBlank_of_mem_hexDigits hb).2,
        List.forall_mem_append.mpr ⟨fun c hc => ?_, ih⟩⟩⟩
    have hb := hg c hc
    simp only [isAsciiBlank, Bool.or_eq_true, Bool.and_eq_true, decide_eq_true_eq] at hb
    omega

/-! ## Reading -/

theorem readPairs_append_of_blank (hg : ∀ c ∈ gap, isAsciiBlank c = true) (pos : Nat)
    (cs : List Char) : readPairs pos (gap ++ cs) = readPairs (pos + gap.length) cs := by
  induction gap generalizing pos with
  | nil => rfl
  | cons c gap ih =>
    obtain ⟨hc, hg⟩ := List.forall_mem_cons.mp hg
    rw [List.cons_append, readPairs, if_pos hc, ih hg, List.length_cons]
    congr 1
    omega

theorem readPairs_pair {a b : Char} {o : UInt8} (h : IsPair a b o) (pos : Nat) (cs : List Char) :
    readPairs pos (a :: b :: cs) = (readPairs (pos + 2) cs).map (o :: ·) := by
  obtain ⟨ha, hb⟩ := isPair_iff.mp h
  have ho : 16 * (o.toNat / 16) + o.toNat % 16 = o.toNat := by omega
  rw [readPairs, if_neg (by simp [isAsciiBlank_of_mem_hexDigits h.mem_hexDigits.1])]
  simp only [ha, hb, ho, UInt8.ofNat_toNat]

theorem Spells.readPairs_eq (h : Spells cs bs) (pos : Nat) : readPairs pos cs = .ok bs := by
  induction h generalizing pos with
  | nil => rfl
  | cons hp hg hn hs ih =>
    rw [readPairs_pair hp, readPairs_append_of_blank hg, ih]
    rfl

/-- What is read spells the octets, with blanks around it. -/
theorem exists_spells_of_readPairs {pos : Nat} (h : readPairs pos cs = .ok bs) :
    ∃ gap digits gap', (∀ c ∈ gap, isAsciiBlank c = true) ∧ (∀ c ∈ gap', isAsciiBlank c = true) ∧
      Spells digits bs ∧ cs = gap ++ digits ++ gap' := by
  fun_induction readPairs pos cs generalizing bs with
  | case1 pos =>
    cases h
    exact ⟨[], [], [], nofun, nofun, .nil, rfl⟩
  | case2 pos a rest ha ih =>
    obtain ⟨gap, digits, gap', hg, hg', hs, rfl⟩ := ih h
    exact ⟨a :: gap, digits, gap', List.forall_mem_cons.mpr ⟨ha, hg⟩, hg', hs, rfl⟩
  | case3 => cases h
  | case4 => cases h
  | case5 => cases h
  | case6 pos a ha high hh b rest low hl ih =>
    cases hr : readPairs (pos + 2) rest with
    | error p => rw [hr] at h; cases h
    | ok bs =>
      rw [hr] at h
      cases h
      obtain ⟨gap, digits, gap', hg, hg', hs, rfl⟩ := ih hr
      have hp := exists_isPair hh hl
      -- Behind the last pair the blanks are not between two pairs.
      cases digits with
      | nil =>
        have hpair : Spells (a :: b :: ([] ++ [])) (UInt8.ofNat (16 * high + low) :: bs) :=
          .cons hp nofun (fun _ => rfl) hs
        exact ⟨[], _, gap ++ gap', nofun, List.forall_mem_append.mpr ⟨hg, hg'⟩, hpair, by simp⟩
      | cons d digits =>
        have hpair : Spells (a :: b :: (gap ++ d :: digits))
            (UInt8.ofNat (16 * high + low) :: bs) :=
          .cons hp hg nofun hs
        exact ⟨[], _, gap', nofun, hg', hpair, by simp⟩

/-- Without white space at its ends a text is read as the octets that it spells. -/
theorem readOctets_strip_eq_ok_iff : readOctets (strip cs) = .ok bs ↔ Spells (strip cs) bs := by
  constructor
  · intro h
    rw [readOctets] at h
    split at h
    · cases h
    · obtain ⟨gap, digits, gap', hg, hg', hs, hcs⟩ := exists_spells_of_readPairs h
      have hw : AllBlank gap := fun c hc => isBlank_of_isAsciiBlank (hg c hc)
      have hw' : AllBlank gap' := fun c hc => isBlank_of_isAsciiBlank (hg' c hc)
      have hstrip := congrArg strip hcs
      rw [strip_append_append hw hw', hs.strip_eq, strip_strip] at hstrip
      rwa [hstrip]
  · intro h
    have ha : (strip cs).findIdx? (fun c => 0x7F < c.toNat) = none := by
      rw [List.findIdx?_eq_none_iff]
      intro c hc
      simpa using h.toNat_le c hc
    rw [readOctets, ha]
    exact h.readPairs_eq 0

/-! ## Without blanks -/

theorem spells_of_map_toLower (h : cs.map Char.toLower = octetsDigits bs) : Spells cs bs := by
  induction bs generalizing cs with
  | nil =>
    rw [List.map_eq_nil_iff.mp h]
    exact .nil
  | cons o bs ih =>
    match cs with
    | [] => cases h
    | [a] => cases (List.cons.inj h).2
    | a :: b :: cs =>
      obtain ⟨ha, h⟩ := List.cons.inj h
      obtain ⟨hb, h⟩ := List.cons.inj h
      have hp : IsPair a b o := congrArg₂ (fun x y => [x, y]) ha hb
      have hc : Spells (a :: b :: ([] ++ cs)) (o :: bs) := .cons hp nofun (fun _ => rfl) (ih h)
      exact hc

theorem Spells.map_toLower (h : Spells cs bs) (hc : ∀ c ∈ cs, isAsciiBlank c = false) :
    cs.map Char.toLower = octetsDigits bs := by
  induction h with
  | nil => rfl
  | @cons a b o gap cs bs hp hg hn hs ih =>
    obtain ⟨-, hc⟩ := List.forall_mem_cons.mp hc
    obtain ⟨-, hc⟩ := List.forall_mem_cons.mp hc
    obtain ⟨hgap, hcs⟩ := List.forall_mem_append.mp hc
    cases gap with
    | nil =>
      have hd : octetsDigits (o :: bs) = octetDigits o ++ octetsDigits bs := rfl
      rw [hd, ← hp, ← ih hcs]
      rfl
    | cons c gap =>
      have hb := hg c List.mem_cons_self
      rw [hgap c List.mem_cons_self] at hb
      cases hb

theorem length_octetsDigits (bs : Octets) : (octetsDigits bs).length = 2 * bs.length := by
  induction bs with
  | nil => rfl
  | cons o bs ih =>
    have hd : octetsDigits (o :: bs) = octetDigits o ++ octetsDigits bs := rfl
    rw [hd, List.length_append, ih, List.length_cons]
    exact (Nat.add_comm _ _).trans (Nat.mul_succ 2 _).symm

/-- Octets are written in lower case. -/
theorem map_toLower_octetsDigits (bs : Octets) :
    (octetsDigits bs).map Char.toLower = octetsDigits bs := by
  refine (List.map_congr_left fun c hc => ?_).trans (List.map_id _)
  obtain ⟨o, -, ho⟩ := List.mem_flatMap.mp hc
  obtain ⟨k, rfl⟩ := exists_hexDigit_of_mem_octetDigits ho
  exact (mem_hexDigits_hexDigit k).2

theorem exists_map_toLower_eq : ∀ cs : List Char, cs.length % 2 = 0 → (∀ c ∈ cs, c ∈ hexDigits) →
    ∃ bs, cs.map Char.toLower = octetsDigits bs
  | [], _, _ => ⟨[], rfl⟩
  | [_], h, _ => by cases h
  | a :: b :: cs, h, hd => by
    obtain ⟨ha, hd⟩ := List.forall_mem_cons.mp hd
    obtain ⟨hb, hd⟩ := List.forall_mem_cons.mp hd
    obtain ⟨m, hm⟩ := Option.isSome_iff_exists.mp (isSome_hexValue?_iff.mpr ha)
    obtain ⟨n, hn⟩ := Option.isSome_iff_exists.mp (isSome_hexValue?_iff.mpr hb)
    obtain ⟨bs, hbs⟩ := exists_map_toLower_eq cs (by simp only [List.length_cons] at h; omega) hd
    have hp : [a.toLower, b.toLower] = octetDigits (UInt8.ofNat (16 * m + n)) :=
      exists_isPair hm hn
    refine ⟨UInt8.ofNat (16 * m + n) :: bs, ?_⟩
    calc (a :: b :: cs).map Char.toLower
        = [a.toLower, b.toLower] ++ cs.map Char.toLower := rfl
      _ = octetDigits _ ++ octetsDigits bs := by rw [hp, hbs]

/-- Octets can be spelled with digits exactly if there is an even number of them. -/
theorem exists_map_toLower_iff :
    (∃ bs, cs.map Char.toLower = octetsDigits bs) ↔
      cs.length % 2 = 0 ∧ ∀ c ∈ cs, c ∈ hexDigits := by
  refine ⟨fun ⟨bs, h⟩ => ⟨?_, fun c hc => ?_⟩, fun ⟨hl, hd⟩ => exists_map_toLower_eq cs hl hd⟩
  · rw [← List.length_map Char.toLower, h, length_octetsDigits]
    exact Nat.mul_mod_right 2 _
  · have hm : c.toLower ∈ octetsDigits bs := h ▸ List.mem_map_of_mem hc
    obtain ⟨o, -, ho⟩ := List.mem_flatMap.mp hm
    obtain ⟨k, hk⟩ := exists_hexDigit_of_mem_octetDigits ho
    exact isSome_hexValue?_iff.mp (isSome_hexValue?_of_toLower k.isLt hk)

end Passpoint.Text
