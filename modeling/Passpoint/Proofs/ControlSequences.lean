import Passpoint.Text.Terminal

/-! Texts without their control sequences. A text is read from its start: where a sequence starts, it
is left out as a whole, and every other character stays. So all of a text stays if and only if there
is no sequence in it. Sequences do not reach over line feeds, and no line feed is left out. -/

namespace Passpoint.Text.Terminal

/-! ## Sequences -/

/-- A control sequence. -/
inductive IsSequence : List Char → Prop
  | mk {parameters intermediates : List Char} {last : Char}
      (hp : ∀ c ∈ parameters, isParameter c = true)
      (hi : ∀ c ∈ intermediates, isIntermediate c = true) (hl : isFinal last = true) :
      IsSequence ('\x1b' :: '[' :: (parameters ++ intermediates ++ [last]))

theorem isParameter_iff {c : Char} : isParameter c = true ↔ 0x30 ≤ c.toNat ∧ c.toNat ≤ 0x3F := by
  simp [isParameter, Char.le_def, UInt32.le_iff_toNat_le]

theorem isIntermediate_iff {c : Char} :
    isIntermediate c = true ↔ 0x20 ≤ c.toNat ∧ c.toNat ≤ 0x2F := by
  simp [isIntermediate, Char.le_def, UInt32.le_iff_toNat_le]

theorem isFinal_iff {c : Char} : isFinal c = true ↔ 0x40 ≤ c.toNat ∧ c.toNat ≤ 0x7E := by
  simp [isFinal, Char.le_def, UInt32.le_iff_toNat_le]

/-- Parameters end where intermediate characters or a final one begin, and these at the final one. -/
theorem dropWhile_sequence {parameters intermediates : List Char} {last : Char}
    (hp : ∀ c ∈ parameters, isParameter c = true)
    (hi : ∀ c ∈ intermediates, isIntermediate c = true) (hl : isFinal last = true)
    (rest : List Char) :
    ((parameters ++ intermediates ++ last :: rest).dropWhile isParameter).dropWhile isIntermediate =
      last :: rest := by
  have hd : (intermediates ++ last :: rest).dropWhile isParameter =
      intermediates ++ last :: rest := by
    cases intermediates with
    | nil =>
      refine List.dropWhile_cons_of_neg fun hc => ?_
      rw [isParameter_iff] at hc
      rw [isFinal_iff] at hl
      omega
    | cons c cs =>
      have hc := isIntermediate_iff.mp (hi c List.mem_cons_self)
      refine List.dropWhile_cons_of_neg fun hp => ?_
      rw [isParameter_iff] at hp
      omega
  have hn : ¬ isIntermediate last = true := by
    rw [isIntermediate_iff]
    rw [isFinal_iff] at hl
    omega
  rw [List.append_assoc, List.dropWhile_append_of_pos hp, hd, List.dropWhile_append_of_pos hi,
    List.dropWhile_cons_of_neg hn]

/-- What follows a sequence is what it stands in front of. -/
theorem afterSequence?_eq_some_iff {cs rest : List Char} :
    afterSequence? cs = some rest ↔ ∃ s, IsSequence s ∧ '\x1b' :: '[' :: cs = s ++ rest := by
  constructor
  · intro h
    unfold afterSequence? at h
    split at h
    · cases h
    · rename_i c tail he
      split at h
      · rename_i hc
        cases h
        have hp := List.takeWhile_append_dropWhile (p := isParameter) (l := cs)
        have hi := List.takeWhile_append_dropWhile (p := isIntermediate)
          (l := cs.dropWhile isParameter)
        rw [he] at hi
        refine ⟨_, .mk (List.all_eq_true.mp (List.all_takeWhile (l := cs)))
          (List.all_eq_true.mp (List.all_takeWhile (l := cs.dropWhile isParameter))) hc, ?_⟩
        simp [hi, hp]
      · cases h
  · rintro ⟨s, @⟨parameters, intermediates, last, hp, hi, hl⟩, hs⟩
    have hc : cs = parameters ++ intermediates ++ last :: rest := by simpa using hs
    rw [hc, afterSequence?, dropWhile_sequence hp hi hl]
    exact if_pos hl

theorem afterSequence?_eq_none_iff {cs : List Char} :
    afterSequence? cs = none ↔ ∀ s, IsSequence s → ¬ s <+: '\x1b' :: '[' :: cs := by
  rw [Option.eq_none_iff_forall_ne_some]
  constructor
  · rintro h s hs ⟨rest, he⟩
    exact h rest (afterSequence?_eq_some_iff.mpr ⟨s, hs, he.symm⟩)
  · intro h rest hr
    obtain ⟨s, hs, he⟩ := afterSequence?_eq_some_iff.mp hr
    exact h s hs ⟨rest, he.symm⟩

/-! ## What stays -/

/-- `Stripped cs ds`: the second text is the first without its control sequences. -/
inductive Stripped : List Char → List Char → Prop
  | nil : Stripped [] []
  /-- A character stays if no sequence starts with it. -/
  | char {c : Char} {cs ds : List Char} (h : ∀ s, IsSequence s → ¬ s <+: c :: cs)
      (ht : Stripped cs ds) : Stripped (c :: cs) (c :: ds)
  | sequence {s cs ds : List Char} (hs : IsSequence s) (ht : Stripped cs ds) :
      Stripped (s ++ cs) ds

theorem strip_nil : strip [] = [] := by
  rw [strip]

theorem strip_sequence {cs rest : List Char} (h : afterSequence? cs = some rest) :
    strip ('\x1b' :: '[' :: cs) = strip rest := by
  rw [strip]
  split
  · rename_i h'
    rw [Option.some.inj (h'.symm.trans h)]
  · rename_i h'
    cases h'.symm.trans h

theorem strip_of_none {cs : List Char} (h : afterSequence? cs = none) :
    strip ('\x1b' :: '[' :: cs) = '\x1b' :: strip ('[' :: cs) := by
  rw [strip]
  split
  · rename_i h'
    cases h'.symm.trans h
  · rfl

theorem strip_cons {c : Char} {cs : List Char} (h : ∀ ds, c = '\x1b' → cs ≠ '[' :: ds) :
    strip (c :: cs) = c :: strip cs := by
  rw [strip]
  intro ds hc hs
  exact h ds hc hs

theorem stripped_strip (cs : List Char) : Stripped cs (strip cs) := by
  fun_induction strip cs with
  | case1 cs rest h ih =>
    obtain ⟨s, hs, he⟩ := afterSequence?_eq_some_iff.mp h
    rw [he]
    exact .sequence hs ih
  | case2 cs h ih => exact .char (afterSequence?_eq_none_iff.mp h) ih
  | case3 c cs h ih =>
    refine .char ?_ ih
    rintro s ⟨-, -, -⟩ ⟨rest, he⟩
    cases he
    exact h _ rfl rfl
  | case4 => exact .nil

theorem Stripped.strip_eq {cs ds : List Char} (h : Stripped cs ds) : strip cs = ds := by
  induction h with
  | nil => exact strip_nil
  | @char c cs ds h _ ih =>
    by_cases hb : ∃ es, c = '\x1b' ∧ cs = '[' :: es
    · obtain ⟨es, rfl, rfl⟩ := hb
      rw [strip_of_none (afterSequence?_eq_none_iff.mpr h), ih]
    · rw [strip_cons fun es hc hs => hb ⟨es, hc, hs⟩, ih]
  | @sequence s cs ds hs _ ih =>
    obtain ⟨hp, hi, hl⟩ := hs
    exact (strip_sequence (afterSequence?_eq_some_iff.mpr ⟨_, .mk hp hi hl, rfl⟩)).trans ih

/-- **Stripping leaves out the sequences, and nothing else.** -/
theorem strip_eq_iff {cs ds : List Char} : strip cs = ds ↔ Stripped cs ds :=
  ⟨fun h => h ▸ stripped_strip cs, Stripped.strip_eq⟩

theorem Stripped.length_le {cs ds : List Char} (h : Stripped cs ds) : ds.length ≤ cs.length := by
  induction h with
  | nil => exact Nat.le_refl _
  | char _ _ ih => exact Nat.succ_le_succ ih
  | sequence _ _ ih =>
    rw [List.length_append]
    omega

/-- There is a control sequence in the text. -/
def HoldsSequence (cs : List Char) : Prop := ∃ s, IsSequence s ∧ s <:+: cs

/-- **All of a text stays if and only if there is no sequence in it.** -/
theorem Stripped.eq_iff {cs ds : List Char} (h : Stripped cs ds) :
    ds = cs ↔ ¬ HoldsSequence cs := by
  induction h with
  | nil =>
    refine iff_of_true rfl ?_
    rintro ⟨s, ⟨-, -, -⟩, hs⟩
    cases List.eq_nil_of_infix_nil hs
  | @char c cs ds h _ ih =>
    have hc : HoldsSequence (c :: cs) ↔ HoldsSequence cs := by
      constructor
      · rintro ⟨s, hs, hin⟩
        exact ⟨s, hs, (List.infix_cons_iff.mp hin).resolve_left (h s hs)⟩
      · rintro ⟨s, hs, hin⟩
        exact ⟨s, hs, List.infix_cons_iff.mpr (.inr hin)⟩
    rw [hc, ← ih, List.cons.injEq, and_iff_right rfl]
  | @sequence s cs ds hs ht _ =>
    refine iff_of_false ?_ (not_not_intro ⟨s, hs, (List.prefix_append s cs).isInfix⟩)
    intro he
    have hle := ht.length_le
    obtain ⟨-, -, -⟩ := hs
    simp [he] at hle
    omega

/-! ## Texts without sequences -/

/-- No sequence starts in the text. -/
def IsPlain (cs : List Char) : Prop := '\x1b' ∉ cs

instance (cs : List Char) : Decidable (IsPlain cs) := inferInstanceAs (Decidable (_ ∉ _))

theorem IsPlain.not_holdsSequence {cs : List Char} (h : IsPlain cs) : ¬ HoldsSequence cs := by
  rintro ⟨s, ⟨-, -, -⟩, hs⟩
  exact h (hs.subset List.mem_cons_self)

/-- What stands behind a plain text is stripped by itself. -/
theorem strip_append_of_isPlain {cs : List Char} (h : IsPlain cs) (ds : List Char) :
    strip (cs ++ ds) = cs ++ strip ds := by
  induction cs with
  | nil => rfl
  | cons c cs ih =>
    unfold IsPlain at h
    rw [List.mem_cons, not_or] at h
    rw [List.cons_append, strip_cons fun _ hc => absurd hc.symm h.1, ih h.2, List.cons_append]

/-! ## Line feeds -/

theorem IsSequence.not_break {s : List Char} (h : IsSequence s) : '\n' ∉ s := by
  obtain @⟨parameters, intermediates, last, hp, hi, hl⟩ := h
  have hpn : '\n' ∉ parameters := fun h => absurd (hp _ h) (by decide)
  have hin : '\n' ∉ intermediates := fun h => absurd (hi _ h) (by decide)
  have hln : '\n' ≠ last := by
    rintro rfl
    exact absurd hl (by decide)
  simp [hpn, hin, hln]

/-- A sequence in front of a line feed ends in front of it. -/
theorem IsSequence.prefix_of_break {s cs ds : List Char} (hs : IsSequence s)
    (h : s <+: cs ++ '\n' :: ds) : s <+: cs := by
  rcases List.prefix_or_prefix_of_prefix h (List.prefix_append cs _) with hc | ⟨rest, rfl⟩
  · exact hc
  · cases rest with
    | nil => simp
    | cons c rest =>
      have hc := (List.cons_prefix_cons.mp ((List.prefix_append_right_inj cs).mp h)).1
      refine absurd ?_ hs.not_break
      simp [hc]

theorem Stripped.append_break {cs ds es fs : List Char} (h : Stripped cs es)
    (hd : Stripped ds fs) : Stripped (cs ++ '\n' :: ds) (es ++ '\n' :: fs) := by
  induction h with
  | nil =>
    refine .char ?_ hd
    intro s hs hp
    have hn : s <+: [] := hs.prefix_of_break hp
    cases List.prefix_nil.mp hn
    cases hs
  | char hc _ ih => exact .char (fun s hs hp => hc s hs (hs.prefix_of_break hp)) ih
  | sequence hs _ ih =>
    rw [List.append_assoc]
    exact .sequence hs ih

/-- What stands on the two sides of a line feed is stripped by itself. -/
theorem strip_append_break (cs ds : List Char) :
    strip (cs ++ '\n' :: ds) = strip cs ++ '\n' :: strip ds :=
  ((stripped_strip cs).append_break (stripped_strip ds)).strip_eq

theorem Stripped.count_break {cs ds : List Char} (h : Stripped cs ds) :
    ds.count '\n' = cs.count '\n' := by
  induction h with
  | nil => rfl
  | char _ _ ih => rw [List.count_cons, List.count_cons, ih]
  | sequence hs _ ih =>
    rw [List.count_append, List.count_eq_zero_of_not_mem hs.not_break, Nat.zero_add, ih]

end Passpoint.Text.Terminal
