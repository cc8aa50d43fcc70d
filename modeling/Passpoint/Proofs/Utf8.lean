import Passpoint.Text.Utf8

/-! Octets that are UTF-8. A well-formed piece is exactly the UTF-8 form of its character, and the
form of a character is read as one piece whatever follows it. So the strict reader gives a text
exactly for the octets of that text. -/

namespace Passpoint.Text.Utf8

/-! ## Octets that continue a character -/

/-- So many octets that continue a character, the first of them between `low` and `high`. -/
inductive Continues : (n : Nat) → (low high : UInt8) → List UInt8 → Prop
  | none (low high : UInt8) : Continues 0 low high []
  | more {n : Nat} {low high b : UInt8} {ts : List UInt8} (hl : low ≤ b) (hh : b ≤ high)
      (h : Continues n 0x80 0xBF ts) : Continues (n + 1) low high (b :: ts)

variable {n : Nat} {low high : UInt8} {ts : List UInt8}

theorem Continues.length_eq (h : Continues n low high ts) : ts.length = n := by
  induction h with
  | none => rfl
  | more _ _ _ ih => rw [List.length_cons, ih]

theorem Continues.tails_append (h : Continues n low high ts) (bs : List UInt8) :
    tails n low high (ts ++ bs) = ts := by
  induction h with
  | none low high => rw [tails]; simp
  | more hl hh _ ih => rw [List.cons_append, tails, if_pos ⟨hl, hh⟩, ih]

theorem exists_eq_tails_append (n : Nat) (low high : UInt8) (bs : List UInt8) :
    ∃ rest, bs = tails n low high bs ++ rest := by
  fun_induction tails n low high bs with
  | case1 n low high b bs hb ih =>
    obtain ⟨rest, hr⟩ := ih
    exact ⟨rest, by rw [List.cons_append, ← hr]⟩
  | case2 n low high b bs hb => exact ⟨b :: bs, rfl⟩
  | case3 n low high bs => exact ⟨bs, rfl⟩

theorem continues_tails {bs : List UInt8} (h : (tails n low high bs).length = n) :
    Continues n low high (tails n low high bs) := by
  fun_induction tails n low high bs with
  | case1 n low high b bs hb ih => exact .more hb.1 hb.2 (ih (Nat.succ.inj h))
  | case2 n low high b bs hb => cases h
  | case3 n low high bs =>
    cases h
    exact .none low high

/-- An octet that continues a character. -/
def IsTail (b : UInt8) : Prop := 0x80 ≤ b.toNat ∧ b.toNat ≤ 0xBF

theorem IsTail.continues {b : UInt8} (hb : IsTail b) (h : Continues n 0x80 0xBF ts) :
    Continues (n + 1) 0x80 0xBF (b :: ts) :=
  .more hb.1 hb.2 h

theorem Continues.exists_one (h : Continues 1 low high ts) :
    ∃ b, ts = [b] ∧ low.toNat ≤ b.toNat ∧ b.toNat ≤ high.toNat := by
  cases h with
  | more hl hh h =>
    cases h
    exact ⟨_, rfl, hl, hh⟩

theorem Continues.exists_two (h : Continues 2 low high ts) :
    ∃ b c, ts = [b, c] ∧ low.toNat ≤ b.toNat ∧ b.toNat ≤ high.toNat ∧ IsTail c := by
  cases h with
  | more hl hh h =>
    obtain ⟨c, rfl, hc⟩ := h.exists_one
    exact ⟨_, c, rfl, hl, hh, hc⟩

theorem Continues.exists_three (h : Continues 3 low high ts) :
    ∃ b c d, ts = [b, c, d] ∧ low.toNat ≤ b.toNat ∧ b.toNat ≤ high.toNat ∧ IsTail c ∧
      IsTail d := by
  cases h with
  | more hl hh h =>
    obtain ⟨c, d, rfl, hc, hc', hd⟩ := h.exists_two
    exact ⟨_, c, d, rfl, hl, hh, ⟨hc, hc'⟩, hd⟩

/-! ## Characters -/

/-- The octets of a character: its first octet and those that continue it. No character is longer
than it need be, none is a surrogate, and none lies above U+10FFFF. -/
inductive Sequence : UInt8 → List UInt8 → Prop
  | one {a : UInt8} (ha : a.toNat ≤ 0x7F) : Sequence a []
  | two {a b : UInt8} (ha : 0xC2 ≤ a.toNat ∧ a.toNat ≤ 0xDF) (hb : IsTail b) : Sequence a [b]
  | three {a b c : UInt8} (ha : 0xE0 ≤ a.toNat ∧ a.toNat ≤ 0xEF) (hb : IsTail b) (hc : IsTail c)
      (short : a.toNat = 0xE0 → 0xA0 ≤ b.toNat) (surrogate : a.toNat = 0xED → b.toNat ≤ 0x9F) :
      Sequence a [b, c]
  | four {a b c d : UInt8} (ha : 0xF0 ≤ a.toNat ∧ a.toNat ≤ 0xF4) (hb : IsTail b) (hc : IsTail c)
      (hd : IsTail d) (short : a.toNat = 0xF0 → 0x90 ≤ b.toNat)
      (above : a.toNat = 0xF4 → b.toNat ≤ 0x8F) : Sequence a [b, c, d]

/-- The lead octets, as numbers. -/
theorem lead?_eq (a : UInt8) :
    lead? a =
      if a.toNat ≤ 0x7F then some { tails := 0 }
      else if a.toNat < 0xC2 then none
      else if a.toNat ≤ 0xDF then some { tails := 1 }
      else if a.toNat = 0xE0 then some { tails := 2, low := 0xA0 }
      else if a.toNat = 0xED then some { tails := 2, high := 0x9F }
      else if a.toNat ≤ 0xEF then some { tails := 2 }
      else if a.toNat = 0xF0 then some { tails := 3, low := 0x90 }
      else if a.toNat ≤ 0xF3 then some { tails := 3 }
      else if a.toNat = 0xF4 then some { tails := 3, high := 0x8F }
      else none := by
  simp only [lead?, UInt8.le_iff_toNat_le, UInt8.lt_iff_toNat_lt, ← UInt8.toNat_inj,
    UInt8.reduceToNat]

/-- Lead octets announce what a character has, and nothing else. -/
theorem sequence_iff {a : UInt8} :
    Sequence a ts ↔ ∃ l, lead? a = some l ∧ Continues l.tails l.low l.high ts := by
  rw [lead?_eq]
  constructor
  · intro h
    cases h with
    | one ha =>
      rw [if_pos ha]
      exact ⟨_, rfl, .none _ _⟩
    | two ha hb =>
      rw [if_neg (by omega), if_neg (by omega), if_pos ha.2]
      exact ⟨_, rfl, hb.continues (.none _ _)⟩
    | three ha hb hc short surrogate =>
      have ht := hc.continues (.none 0x80 0xBF)
      rw [if_neg (by omega), if_neg (by omega), if_neg (by omega)]
      split
      · rename_i h0
        exact ⟨_, rfl, .more (short h0) hb.2 ht⟩
      · split
        · rename_i hs
          exact ⟨_, rfl, .more hb.1 (surrogate hs) ht⟩
        · rw [if_pos ha.2]
          exact ⟨_, rfl, hb.continues ht⟩
    | four ha hb hc hd short above =>
      have ht := hc.continues (hd.continues (.none 0x80 0xBF))
      rw [if_neg (by omega), if_neg (by omega), if_neg (by omega), if_neg (by omega),
        if_neg (by omega), if_neg (by omega)]
      split
      · rename_i h0
        exact ⟨_, rfl, .more (short h0) hb.2 ht⟩
      · split
        · exact ⟨_, rfl, hb.continues ht⟩
        · have h4 : a.toNat = 0xF4 := by omega
          rw [if_pos h4]
          exact ⟨_, rfl, .more hb.1 (above h4) ht⟩
  · rintro ⟨l, hl, ht⟩
    split at hl
    · cases hl
      cases ht
      exact .one (by omega)
    split at hl
    · cases hl
    split at hl
    · cases hl
      obtain ⟨b, rfl, hb, hb'⟩ := ht.exists_one
      exact .two (by omega) ⟨hb, hb'⟩
    split at hl
    · cases hl
      obtain ⟨b, c, rfl, hb, hb', hc⟩ := ht.exists_two
      exact .three (by omega) ⟨Nat.le_trans (by decide) hb, hb'⟩ hc (fun _ => hb) (by omega)
    split at hl
    · cases hl
      obtain ⟨b, c, rfl, hb, hb', hc⟩ := ht.exists_two
      exact .three (by omega) ⟨hb, Nat.le_trans hb' (by decide)⟩ hc (by omega) (fun _ => hb')
    split at hl
    · cases hl
      obtain ⟨b, c, rfl, hb, hb', hc⟩ := ht.exists_two
      exact .three (by omega) ⟨hb, hb'⟩ hc (by omega) (by omega)
    split at hl
    · cases hl
      obtain ⟨b, c, d, rfl, hb, hb', hc, hd⟩ := ht.exists_three
      exact .four (by omega) ⟨Nat.le_trans (by decide) hb, hb'⟩ hc hd (fun _ => hb) (by omega)
    split at hl
    · cases hl
      obtain ⟨b, c, d, rfl, hb, hb', hc, hd⟩ := ht.exists_three
      exact .four (by omega) ⟨hb, hb'⟩ hc hd (by omega) (by omega)
    split at hl
    · cases hl
      obtain ⟨b, c, d, rfl, hb, hb', hc, hd⟩ := ht.exists_three
      exact .four (by omega) ⟨hb, Nat.le_trans hb' (by decide)⟩ hc hd (by omega) (fun _ => hb')
    · cases hl

theorem val_ofNat {n : Nat} (h : n.isValidChar) : (Char.ofNat n).val.toNat = n := by
  rw [Char.ofNat, dif_pos h]
  rfl

theorem ofNat_eq {n : Nat} {b : UInt8} (h : n % 256 = b.toNat) : UInt8.ofNat n = b :=
  UInt8.toNat.inj (by rw [UInt8.toNat_ofNat', h])

theorem encodeChar_ofNat {n : Nat} (h : n.isValidChar) :
    String.utf8EncodeChar (Char.ofNat n) =
      if n ≤ 0x7F then [UInt8.ofNat n]
      else if n ≤ 0x7FF then [UInt8.ofNat (n / 64 % 32 + 0xC0), UInt8.ofNat (n % 64 + 0x80)]
      else if n ≤ 0xFFFF then
        [UInt8.ofNat (n / 4096 % 16 + 0xE0), UInt8.ofNat (n / 64 % 64 + 0x80),
          UInt8.ofNat (n % 64 + 0x80)]
      else
        [UInt8.ofNat (n / 262144 % 8 + 0xF0), UInt8.ofNat (n / 4096 % 64 + 0x80),
          UInt8.ofNat (n / 64 % 64 + 0x80), UInt8.ofNat (n % 64 + 0x80)] := by
  rw [String.utf8EncodeChar, val_ofNat h]

/-- What the octets of a character spell is written with these octets. -/
theorem Sequence.encodeChar_codePoint {a : UInt8} {ts : List UInt8} (h : Sequence a ts) :
    String.utf8EncodeChar (Char.ofNat (codePoint a ts)) = a :: ts := by
  cases h with
  | one ha =>
    have hp : codePoint a [] = a.toNat := rfl
    rw [hp, encodeChar_ofNat (.inl (by omega)), if_pos ha, UInt8.ofNat_toNat]
  | @two b ha hb =>
    obtain ⟨hb, hb'⟩ := hb
    have hp : codePoint a [b] = 64 * (a.toNat % 32) + b.toNat % 64 := rfl
    rw [hp, encodeChar_ofNat (.inl (by omega)), if_neg (by omega), if_pos (by omega)]
    simp only [List.cons.injEq, and_true]
    exact ⟨ofNat_eq (by omega), ofNat_eq (by omega)⟩
  | @three b c ha hb hc short surrogate =>
    obtain ⟨hb, hb'⟩ := hb
    obtain ⟨hc, hc'⟩ := hc
    have hp : codePoint a [b, c] =
        64 * (64 * (a.toNat % 16) + b.toNat % 64) + c.toNat % 64 := rfl
    rw [hp, encodeChar_ofNat (by unfold Nat.isValidChar; omega), if_neg (by omega),
      if_neg (by omega), if_pos (by omega)]
    simp only [List.cons.injEq, and_true]
    exact ⟨ofNat_eq (by omega), ofNat_eq (by omega), ofNat_eq (by omega)⟩
  | @four b c d ha hb hc hd short above =>
    obtain ⟨hb, hb'⟩ := hb
    obtain ⟨hc, hc'⟩ := hc
    obtain ⟨hd, hd'⟩ := hd
    have hp : codePoint a [b, c, d] =
        64 * (64 * (64 * (a.toNat % 8) + b.toNat % 64) + c.toNat % 64) + d.toNat % 64 := rfl
    rw [hp, encodeChar_ofNat (.inr (by omega)), if_neg (by omega), if_neg (by omega),
      if_neg (by omega)]
    simp only [List.cons.injEq, and_true]
    exact ⟨ofNat_eq (by omega), ofNat_eq (by omega), ofNat_eq (by omega), ofNat_eq (by omega)⟩

theorem toNat_ofNat {n : Nat} (h : n < 256) : (UInt8.ofNat n).toNat = n := by
  rw [UInt8.toNat_ofNat', Nat.mod_eq_of_lt h]

theorem toNat_tail (n : Nat) : (UInt8.ofNat (n % 64 + 0x80)).toNat = n % 64 + 0x80 :=
  toNat_ofNat (by omega)

theorem isTail_tail (n : Nat) : IsTail (UInt8.ofNat (n % 64 + 0x80)) := by
  rw [IsTail, toNat_tail]
  omega

/-- The octets that a character is written with are those of a character, and spell it. -/
theorem exists_sequence (c : Char) :
    ∃ a ts, String.utf8EncodeChar c = a :: ts ∧ Sequence a ts ∧
      Char.ofNat (codePoint a ts) = c := by
  obtain ⟨n, hv, rfl⟩ : ∃ n : Nat, n.isValidChar ∧ Char.ofNat n = c :=
    ⟨c.toNat, c.valid, Char.ofNat_toNat c⟩
  have hv' : n < 0xD800 ∨ 0xDFFF < n ∧ n < 0x110000 := hv
  rw [encodeChar_ofNat hv]
  split
  · rename_i h
    have ha := toNat_ofNat (n := n) (by omega)
    refine ⟨_, _, rfl, .one (by omega), ?_⟩
    rw [codePoint, ha]
    rfl
  split
  · rename_i h h'
    have ha := toNat_ofNat (n := n / 64 % 32 + 0xC0) (by omega)
    refine ⟨_, _, rfl, .two (by omega) (isTail_tail n), congrArg Char.ofNat ?_⟩
    change 64 * (_ % 32) + _ % 64 = n
    rw [ha, toNat_tail]
    omega
  split
  · rename_i h h' h''
    have ha := toNat_ofNat (n := n / 4096 % 16 + 0xE0) (by omega)
    have hb := toNat_tail (n / 64)
    refine ⟨_, _, rfl, .three (by omega) (isTail_tail _) (isTail_tail _) (by omega) (by omega),
      congrArg Char.ofNat ?_⟩
    change 64 * (64 * (_ % 16) + _ % 64) + _ % 64 = n
    rw [ha, toNat_tail, toNat_tail]
    omega
  · rename_i h h' h''
    have ha := toNat_ofNat (n := n / 262144 % 8 + 0xF0) (by omega)
    have hb := toNat_tail (n / 4096)
    refine ⟨_, _, rfl, .four (by omega) (isTail_tail _) (isTail_tail _) (isTail_tail _) (by omega)
      (by omega), congrArg Char.ofNat ?_⟩
    change 64 * (64 * (64 * (_ % 8) + _ % 64) + _ % 64) + _ % 64 = n
    rw [ha, toNat_tail, toNat_tail, toNat_tail]
    omega

/-! ## Pieces -/

/-- The octets of a character are read as one piece, whatever follows them. -/
theorem firstPiece_of_sequence {a : UInt8} (h : Sequence a ts) (bs : List UInt8) :
    firstPiece a (ts ++ bs) = .scalar (Char.ofNat (codePoint a ts)) (a :: ts) := by
  obtain ⟨l, hl, ht⟩ := sequence_iff.mp h
  simp only [firstPiece, hl, ht.tails_append, ht.length_eq, if_pos]

/-- A piece that is a character has the octets of one. -/
theorem sequence_of_firstPiece {a : UInt8} {rest : List UInt8} {c : Char} {bs : List UInt8}
    (h : firstPiece a rest = .scalar c bs) :
    ∃ ts more, rest = ts ++ more ∧ Sequence a ts ∧ c = Char.ofNat (codePoint a ts) ∧
      bs = a :: ts := by
  simp only [firstPiece] at h
  split at h
  · cases h
  · rename_i l hl
    split at h
    · rename_i ht
      cases h
      obtain ⟨more, hm⟩ := exists_eq_tails_append l.tails l.low l.high rest
      exact ⟨_, more, hm, sequence_iff.mpr ⟨l, hl, continues_tails ht⟩, rfl, rfl⟩
    · split at h <;> cases h

theorem pieces_encodeChar_append (c : Char) (bs : List UInt8) :
    pieces (String.utf8EncodeChar c ++ bs) = .scalar c (String.utf8EncodeChar c) :: pieces bs := by
  obtain ⟨a, ts, he, hs, hc⟩ := exists_sequence c
  rw [he, List.cons_append, pieces, firstPiece_of_sequence hs, hc]
  simp [Piece.octets]

theorem pieces_encode (cs : List Char) :
    pieces (encode cs) = cs.map fun c => .scalar c (String.utf8EncodeChar c) := by
  induction cs with
  | nil => rw [encode, List.flatMap_nil, pieces]; rfl
  | cons c cs ih =>
    rw [encode, List.flatMap_cons, pieces_encodeChar_append, ← encode, ih, List.map_cons]

/-- The octets of a text that starts with a character start with those of the character. -/
theorem exists_of_pieces_eq_scalar {bs octets : List UInt8} {c : Char} {ps : List Piece}
    (h : pieces bs = .scalar c octets :: ps) :
    ∃ more, bs = String.utf8EncodeChar c ++ more ∧ pieces more = ps := by
  match bs with
  | [] => rw [pieces] at h; cases h
  | a :: rest =>
    rw [pieces] at h
    obtain ⟨hp, hps⟩ := List.cons.inj h
    obtain ⟨ts, more, rfl, hs, rfl, rfl⟩ := sequence_of_firstPiece hp
    rw [hp] at hps
    simp only [Piece.octets, List.length_cons, Nat.add_one_sub_one, List.drop_left] at hps
    exact ⟨more, by rw [hs.encodeChar_codePoint, List.cons_append], hps⟩

/-! ## Texts -/

theorem charsOfPieces_scalars (position : Nat) (cs : List Char) :
    charsOfPieces position (cs.map fun c => .scalar c (String.utf8EncodeChar c)) = .ok cs := by
  induction cs generalizing position with
  | nil => rfl
  | cons c cs ih => rw [List.map_cons, charsOfPieces, ih]; rfl

theorem eq_encode_of_charsOfPieces {position : Nat} {bs : List UInt8} {ps : List Piece}
    {cs : List Char} (hp : pieces bs = ps) (h : charsOfPieces position ps = .ok cs) :
    bs = encode cs := by
  induction ps generalizing bs position cs with
  | nil =>
    cases h
    match bs with
    | [] => rfl
    | a :: rest => rw [pieces] at hp; cases hp
  | cons p ps ih =>
    cases p with
    | broken flaw octets => cases h
    | scalar c octets =>
      obtain ⟨more, rfl, hm⟩ := exists_of_pieces_eq_scalar hp
      rw [charsOfPieces] at h
      cases hs : charsOfPieces (position + octets.length) ps with
      | error fault => rw [hs] at h; cases h
      | ok cs' =>
        rw [hs] at h
        cases h
        rw [ih hm hs, encode, encode, List.flatMap_cons]

/-- **The strict reader gives a text exactly for the octets of the text.** -/
theorem decode_eq_ok_iff {bs : List UInt8} {cs : List Char} :
    decode bs = .ok cs ↔ bs = encode cs := by
  constructor
  · exact eq_encode_of_charsOfPieces rfl
  · rintro rfl
    rw [decode, pieces_encode, charsOfPieces_scalars]

/-- What the strict reader refuses is no text. -/
theorem ne_encode_of_decode {bs : List UInt8} {f : Fault} (h : decode bs = .error f)
    (cs : List Char) : bs ≠ encode cs :=
  fun he => nomatch h.symm.trans (decode_eq_ok_iff.mpr he)

theorem encode_injective : Function.Injective encode := fun _ _ h =>
  Except.ok.inj ((decode_eq_ok_iff.mpr rfl).symm.trans (decode_eq_ok_iff.mpr h))

end Passpoint.Text.Utf8
