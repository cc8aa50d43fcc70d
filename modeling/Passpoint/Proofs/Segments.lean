import Passpoint.Proofs.Utf8

/-! What the lenient reader makes of octets that are not UTF-8. It cuts any octets into segments, one
for each character that it gives. A segment is the UTF-8 form of its character, or it is ill-formed:
no character stands there, and the longest run that could still have become one is shown as U+FFFD.
So a text without U+FFFD is written with the octets that it was read from. -/

namespace Passpoint.Text.Utf8

/-! ## Ill-formed segments -/

/-- The first octets of a character, or all of them. -/
def StartsChar (bs : List UInt8) : Prop := ∃ c : Char, bs <+: String.utf8EncodeChar c

/-- No character stands at the front of `bs`, and `seg` is the longest run there that starts one, or
a single octet if it takes that to have one. -/
structure MaximalSubpart (bs seg : List UInt8) : Prop where
  unconvertible : ∀ c : Char, ¬ String.utf8EncodeChar c <+: bs
  ne_nil : seg ≠ []
  front : seg <+: bs
  starts : StartsChar seg ∨ seg.length = 1
  longest : ∀ run, run <+: bs → StartsChar run ∨ run.length = 1 → run.length ≤ seg.length

/-- Segments, and the characters that they are shown as. -/
inductive Shows : List (List UInt8) → List Char → Prop
  | nil : Shows [] []
  | character {segs : List (List UInt8)} {cs : List Char} (c : Char) (h : Shows segs cs) :
      Shows (String.utf8EncodeChar c :: segs) (c :: cs)
  | replaced {seg : List UInt8} {segs : List (List UInt8)} {cs : List Char}
      (hm : MaximalSubpart (seg ++ segs.flatten) seg) (h : Shows segs cs) :
      Shows (seg :: segs) ('\ufffd' :: cs)

variable {n : Nat} {low high a : UInt8} {ts rest : List UInt8}

/-! ## What may still become a character -/

theorem exists_continues (n : Nat) (h : low ≤ high) : ∃ ts, Continues n low high ts := by
  induction n generalizing low high with
  | zero => exact ⟨[], .none low high⟩
  | succ n ih =>
    obtain ⟨ts, ht⟩ := @ih 0x80 0xBF (by decide)
    exact ⟨low :: ts, .more (UInt8.le_refl low) h ht⟩

/-- A run that was cut short can be completed. -/
theorem exists_continues_append (h : low ≤ high) (bs : List UInt8) :
    ∃ more, Continues n low high (tails n low high bs ++ more) := by
  fun_induction tails n low high bs with
  | case1 n low high b bs hb ih =>
    obtain ⟨more, hm⟩ := ih (by decide)
    exact ⟨more, .more hb.1 hb.2 hm⟩
  | case2 n low high b bs hb => exact exists_continues (n + 1) h
  | case3 n low high bs => exact exists_continues n h

/-- The run that is read is the longest there is. -/
theorem Continues.prefix_tails {part bs : List UInt8} (h : Continues n low high ts)
    (hp : part <+: ts) (hb : part <+: bs) : part <+: tails n low high bs := by
  induction h generalizing part bs with
  | none low high =>
    rw [List.prefix_nil.mp hp]
    exact List.nil_prefix
  | @more n low high b ts hl hh _ ih =>
    cases part with
    | nil => exact List.nil_prefix
    | cons c part =>
      obtain ⟨rfl, ht⟩ := List.cons_prefix_cons.mp hp
      obtain ⟨more, rfl⟩ := hb
      rw [List.cons_append, tails, if_pos ⟨hl, hh⟩]
      exact List.cons_prefix_cons.mpr ⟨rfl, ih ht (List.prefix_append part more)⟩

theorem low_le_high {l : Lead} (h : lead? a = some l) : l.low ≤ l.high := by
  unfold lead? at h
  repeat' split at h
  all_goals cases h <;> decide

theorem exists_sequence_of_prefix {c : Char} (h : String.utf8EncodeChar c <+: a :: rest) :
    ∃ ts, Sequence a ts ∧ ts <+: rest := by
  obtain ⟨b, ts, he, hs, -⟩ := exists_sequence c
  rw [he] at h
  obtain ⟨rfl, ht⟩ := List.cons_prefix_cons.mp h
  exact ⟨ts, hs, ht⟩

theorem startsChar_cons_iff : StartsChar (a :: rest) ↔ ∃ ts, Sequence a ts ∧ rest <+: ts := by
  constructor
  · rintro ⟨c, h⟩
    obtain ⟨b, ts, he, hs, -⟩ := exists_sequence c
    rw [he] at h
    obtain ⟨rfl, ht⟩ := List.cons_prefix_cons.mp h
    exact ⟨ts, hs, ht⟩
  · rintro ⟨ts, hs, ht⟩
    refine ⟨Char.ofNat (codePoint a ts), ?_⟩
    rw [hs.encodeChar_codePoint]
    exact List.cons_prefix_cons.mpr ⟨rfl, ht⟩

/-! ## Broken pieces -/

/-- The first octet is in every run, so only the octets behind it are to be looked at. -/
theorem maximalSubpart_cons (hu : ∀ us, Sequence a us → ¬ us <+: rest) (hf : ts <+: rest)
    (hs : (∃ us, Sequence a us ∧ ts <+: us) ∨ ts = [])
    (hl : ∀ us run, Sequence a us → run <+: us → run <+: rest → run.length ≤ ts.length) :
    MaximalSubpart (a :: rest) (a :: ts) := by
  refine ⟨fun c hc => ?_, List.cons_ne_nil a ts, List.cons_prefix_cons.mpr ⟨rfl, hf⟩, ?_,
    fun run hr hk => ?_⟩
  · obtain ⟨us, hs, hp⟩ := exists_sequence_of_prefix hc
    exact hu us hs hp
  · exact hs.imp startsChar_cons_iff.mpr fun hn => by rw [hn]; rfl
  · cases run with
    | nil => exact Nat.zero_le _
    | cons b run =>
      obtain ⟨rfl, hb⟩ := List.cons_prefix_cons.mp hr
      rcases hk with hk | hk
      · obtain ⟨us, hs, hp⟩ := startsChar_cons_iff.mp hk
        exact Nat.succ_le_succ (hl us run hs hp hb)
      · rw [hk]
        exact Nat.succ_le_succ (Nat.zero_le _)

theorem maximalSubpart_of_badStart (h : lead? a = none) : MaximalSubpart (a :: rest) [a] := by
  have hn : ∀ us, ¬ Sequence a us := by
    intro us hs
    obtain ⟨l, hl, -⟩ := sequence_iff.mp hs
    rw [h] at hl
    cases hl
  exact maximalSubpart_cons (fun us hs => absurd hs (hn us)) List.nil_prefix (.inr rfl)
    fun us _ hs => absurd hs (hn us)

theorem maximalSubpart_of_tails {l : Lead} (hl : lead? a = some l)
    (ht : (tails l.tails l.low l.high rest).length ≠ l.tails) :
    MaximalSubpart (a :: rest) (a :: tails l.tails l.low l.high rest) := by
  have hc : ∀ {us}, Sequence a us → Continues l.tails l.low l.high us := by
    intro us hs
    obtain ⟨l', hl', hc⟩ := sequence_iff.mp hs
    cases hl.symm.trans hl'
    exact hc
  refine maximalSubpart_cons (fun us hs hp => ?_) ?_ (.inl ?_)
    fun us run hs hp hb => ((hc hs).prefix_tails hp hb).length_le
  · obtain ⟨more, rfl⟩ := hp
    rw [(hc hs).tails_append, (hc hs).length_eq] at ht
    exact ht rfl
  · obtain ⟨more, hm⟩ := exists_eq_tails_append l.tails l.low l.high rest
    exact ⟨more, hm.symm⟩
  · obtain ⟨more, hm⟩ := exists_continues_append (low_le_high hl) rest
    exact ⟨_, sequence_iff.mpr ⟨l, hl, hm⟩, List.prefix_append _ _⟩

/-- What is replaced is a maximal ill-formed subpart. -/
theorem maximalSubpart_of_firstPiece {flaw : Flaw} {seg : List UInt8}
    (h : firstPiece a rest = .broken flaw seg) : MaximalSubpart (a :: rest) seg := by
  simp only [firstPiece] at h
  split at h
  · rename_i hl
    cases h
    exact maximalSubpart_of_badStart hl
  · rename_i l hl
    split at h
    · cases h
    · rename_i ht
      split at h <;> cases h <;> exact maximalSubpart_of_tails hl ht

/-! ## Segments of any octets -/

/-- A first piece takes octets from the front. -/
theorem exists_octets_firstPiece (a : UInt8) (rest : List UInt8) :
    ∃ ts more, rest = ts ++ more ∧ (firstPiece a rest).octets = a :: ts := by
  simp only [firstPiece]
  split
  · exact ⟨[], rest, rfl, rfl⟩
  · rename_i l hl
    obtain ⟨more, hm⟩ := exists_eq_tails_append l.tails l.low l.high rest
    refine ⟨_, more, hm, ?_⟩
    split
    · rfl
    · split <;> rfl

/-- Nothing is lost between the pieces. -/
theorem flatten_pieces (bs : List UInt8) : ((pieces bs).map Piece.octets).flatten = bs := by
  fun_induction pieces bs with
  | case1 => rfl
  | case2 a rest p ih =>
    obtain ⟨ts, more, hr, ho⟩ := exists_octets_firstPiece a rest
    rw [List.map_cons, List.flatten_cons, ih, ho, List.length_cons, Nat.add_one_sub_one, hr,
      List.drop_left, List.cons_append]

theorem Shows.firstPiece {segs : List (List UInt8)} {cs : List Char} (h : Shows segs cs)
    (hf : (firstPiece a rest).octets ++ segs.flatten = a :: rest) :
    Shows ((firstPiece a rest).octets :: segs) ((firstPiece a rest).shown :: cs) := by
  cases hp : Utf8.firstPiece a rest with
  | scalar c octets =>
    obtain ⟨ts, -, -, hs, rfl, rfl⟩ := sequence_of_firstPiece hp
    rw [Piece.octets, Piece.shown, ← hs.encodeChar_codePoint]
    exact .character _ h
  | broken flaw seg =>
    rw [hp] at hf
    refine .replaced ?_ h
    rw [hf]
    exact maximalSubpart_of_firstPiece hp

/-- The lenient reader shows the pieces of the octets. -/
theorem shows_pieces (bs : List UInt8) :
    Shows ((pieces bs).map Piece.octets) (decodeLossy bs) := by
  rw [decodeLossy]
  fun_induction pieces bs with
  | case1 => exact .nil
  | case2 a rest p ih =>
    have hf := flatten_pieces (a :: rest)
    rw [pieces, List.map_cons, List.flatten_cons] at hf
    exact ih.firstPiece hf

theorem Shows.ne_nil {segs : List (List UInt8)} {cs : List Char} (h : Shows segs cs) :
    ∀ seg ∈ segs, seg ≠ [] := by
  induction h with
  | nil => simp
  | character c _ ih =>
    obtain ⟨a, ts, he, -⟩ := exists_sequence c
    exact List.forall_mem_cons.mpr ⟨he ▸ List.cons_ne_nil a ts, ih⟩
  | replaced hm _ ih => exact List.forall_mem_cons.mpr ⟨hm.ne_nil, ih⟩

theorem MaximalSubpart.unique {bs seg seg' : List UInt8} (h : MaximalSubpart bs seg)
    (h' : MaximalSubpart bs seg') : seg = seg' := by
  have hle := h.longest seg' h'.front h'.starts
  have hge := h'.longest seg h.front h.starts
  exact (List.prefix_of_prefix_length_le h.front h'.front hge).eq_of_length (by omega)

theorem decodeLossy_encodeChar_append (c : Char) (bs : List UInt8) :
    decodeLossy (String.utf8EncodeChar c ++ bs) = c :: decodeLossy bs := by
  rw [decodeLossy, pieces_encodeChar_append, List.map_cons]
  rfl

/-- In front of anything, a maximal ill-formed subpart is replaced by one character. -/
theorem MaximalSubpart.decodeLossy_append {seg bs : List UInt8}
    (h : MaximalSubpart (seg ++ bs) seg) : decodeLossy (seg ++ bs) = '\ufffd' :: decodeLossy bs := by
  obtain ⟨a, ts, rfl⟩ := List.exists_cons_of_ne_nil h.ne_nil
  rw [List.cons_append] at h ⊢
  rw [decodeLossy, pieces, List.map_cons]
  cases hp : firstPiece a (ts ++ bs) with
  | scalar c octets =>
    obtain ⟨us, more, hr, hs, -, -⟩ := sequence_of_firstPiece hp
    refine absurd ?_ (h.unconvertible (Char.ofNat (codePoint a us)))
    rw [hs.encodeChar_codePoint, hr]
    exact List.prefix_append (a :: us) more
  | broken flaw octets =>
    have hu := (maximalSubpart_of_firstPiece hp).unique h
    rw [hu, Piece.octets, List.length_cons, Nat.add_one_sub_one, List.drop_left]
    rfl

/-- Octets are shown in one way only. -/
theorem Shows.decodeLossy_flatten {segs : List (List UInt8)} {cs : List Char}
    (h : Shows segs cs) : decodeLossy segs.flatten = cs := by
  induction h with
  | nil => rw [List.flatten_nil, decodeLossy, pieces]; rfl
  | character c _ ih => rw [List.flatten_cons, decodeLossy_encodeChar_append, ih]
  | replaced hm _ ih => rw [List.flatten_cons, hm.decodeLossy_append, ih]

/-- **The lenient reader gives a character for each segment of the octets.** -/
theorem decodeLossy_eq_iff {bs : List UInt8} {cs : List Char} :
    decodeLossy bs = cs ↔
      ∃ segs : List (List UInt8), segs.flatten = bs ∧ (∀ seg ∈ segs, seg ≠ []) ∧ Shows segs cs := by
  constructor
  · rintro rfl
    have hs := shows_pieces bs
    exact ⟨_, flatten_pieces bs, hs.ne_nil, hs⟩
  · rintro ⟨segs, rfl, -, hs⟩
    exact hs.decodeLossy_flatten

/-! ## Texts without U+FFFD -/

/-- Characters that stand for themselves are written with the octets that they were read from. -/
theorem Shows.encode_eq {segs : List (List UInt8)} {cs : List Char} (h : Shows segs cs)
    (hn : '\ufffd' ∉ cs) : encode cs = segs.flatten := by
  induction h with
  | nil => rfl
  | character c _ ih =>
    rw [encode, List.flatMap_cons, ← encode, ih fun hm => hn (List.mem_cons_of_mem _ hm),
      List.flatten_cons]
  | replaced => exact absurd List.mem_cons_self hn

theorem encode_decodeLossy {bs : List UInt8} (h : '\ufffd' ∉ decodeLossy bs) :
    encode (decodeLossy bs) = bs := by
  rw [(shows_pieces bs).encode_eq h, flatten_pieces]

theorem decodeLossy_encode (cs : List Char) : decodeLossy (encode cs) = cs := by
  rw [decodeLossy, pieces_encode, List.map_map]
  exact List.map_id cs

end Passpoint.Text.Utf8
