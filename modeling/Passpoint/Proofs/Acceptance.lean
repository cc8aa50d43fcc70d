import Mathlib.Data.List.Induction
import Passpoint.Proofs.Layout
import Passpoint.Proofs.Records

/-! Which buffers are accepted. A scan goes through the states of `Reads`: nothing read, then one
record more each time. An accepted buffer is a run of records that all keep their layout, the
records are unique, and the counters of the scan say how many there are, how many octets they take
and how many of them were skipped. -/

namespace Passpoint.Element

/-! ## The states of a scan -/

/-- `Reads rs s`: reading the records `rs` from the start, each of which tells something, leaves
the findings `s`. -/
inductive Reads : List Record → Findings → Prop
  | start : Reads [] {}
  | record {before : List Record} {s : Findings} {r : Record} {f : Finding}
      (hb : Reads before s) (ht : Tells r f) : Reads (before ++ [r]) (s.add r.size f)

theorem absorb_cons_of_tells {r : Record} {f : Finding} (ht : Tells r f) (o : Nat) (s : Findings)
    (rs : List Record) : absorb o s (r :: rs) = absorb (o + r.size) (s.add r.size f) rs := by
  rw [absorb, ofRecord_eq_ok_iff.mpr ht]

theorem absorb_cons_of_refused {r : Record} {flaw : Flaw} (hr : Refused r flaw) (o : Nat)
    (s : Findings) (rs : List Record) :
    absorb o s (r :: rs) = .error ⟨r.tag, o, .flaw flaw⟩ := by
  rw [absorb, ofRecord_eq_error_iff.mpr hr]

/-- A run that was read is followed by the rest, behind its octets. -/
theorem absorb_append {o : Nat} {s s' : Findings} {rs : List Record}
    (h : absorb o s rs = .ok s') (ss : List Record) :
    absorb o s (rs ++ ss) = absorb (o + (Record.encodeAll rs).length) s' ss := by
  induction rs generalizing o s with
  | nil =>
    cases h
    rfl
  | cons r rs ih =>
    rcases tells_or_refused r with ⟨f, ht⟩ | ⟨flaw, hr⟩
    · rw [absorb_cons_of_tells ht] at h
      rw [List.cons_append, absorb_cons_of_tells ht, ih h, Record.encodeAll_cons,
        List.length_append, Record.length_encode, Nat.add_assoc]
    · rw [absorb_cons_of_refused hr] at h
      cases h

theorem Reads.of_absorb {before rs : List Record} {o : Nat} {s s' : Findings}
    (hb : Reads before s) (h : absorb o s rs = .ok s') : Reads (before ++ rs) s' := by
  -- A record moves from the front of `rs` to the end of `before`.
  induction rs generalizing before o s with
  | nil =>
    cases h
    simpa using hb
  | cons r rs ih =>
    rcases tells_or_refused r with ⟨f, ht⟩ | ⟨flaw, hr⟩
    · rw [absorb_cons_of_tells ht] at h
      simpa using ih (hb.record ht) h
    · rw [absorb_cons_of_refused hr] at h
      cases h

theorem absorb_eq_ok_iff {rs : List Record} {s : Findings} :
    absorb 0 {} rs = .ok s ↔ Reads rs s := by
  refine ⟨Reads.start.of_absorb, fun h => ?_⟩
  induction h with
  | start => rfl
  | record _ ht ih => rw [absorb_append ih, absorb_cons_of_tells ht]; rfl

theorem scan_of_split {data : Octets} {rs : List Record} {rest : Option Record.Rest}
    (h : Record.split data = (rs, rest)) :
    scan data = (absorb 0 {} rs).bind fun s =>
      rest.elim (.ok s) fun rest => .error ⟨rest.tag, s.consumed, .cut rest.cut⟩ := by
  simp only [scan, h]
  cases absorb 0 {} rs <;> cases rest <;> rfl

theorem scan_encodeAll (rs : List Record) : scan (Record.encodeAll rs) = absorb 0 {} rs := by
  rw [scan_of_split (Record.split_encodeAll rs)]
  cases absorb 0 {} rs <;> rfl

/-- A scan goes well exactly if the buffer is a run of records that can be read. -/
theorem scan_eq_ok_iff {data : Octets} {s : Findings} :
    scan data = .ok s ↔ ∃ rs, data = Record.encodeAll rs ∧ Reads rs s := by
  constructor
  · intro h
    obtain ⟨rs, rest, hs⟩ : ∃ rs rest, Record.split data = (rs, rest) := ⟨_, _, rfl⟩
    rw [scan_of_split hs] at h
    cases ha : absorb 0 {} rs with
    | error fault => rw [ha] at h; cases h
    | ok s' =>
      rw [ha] at h
      cases rest with
      | some rest => cases h
      | none =>
        cases h
        exact ⟨rs, Record.eq_encodeAll_of_split hs, absorb_eq_ok_iff.mp ha⟩
  · rintro ⟨rs, rfl, h⟩
    rw [scan_encodeAll, absorb_eq_ok_iff.mpr h]

theorem exists_reads_iff {rs : List Record} :
    (∃ s, Reads rs s) ↔ ∀ r ∈ rs, WellFormed r := by
  constructor
  · rintro ⟨s, h⟩
    induction h with
    | start => simp
    | record _ ht ih =>
      intro x hx
      rcases List.mem_append.mp hx with hx | hx
      · exact ih x hx
      · rw [List.mem_singleton.mp hx]
        exact wellFormed_iff_tells.mpr ⟨_, ht⟩
  · intro h
    -- `Reads` grows at the end, so the last record is taken off first.
    induction rs using List.reverseRecOn with
    | nil => exact ⟨{}, .start⟩
    | append_singleton rs r ih =>
      obtain ⟨s, hs⟩ := ih fun x hx => h x (by simp [hx])
      obtain ⟨f, hf⟩ := wellFormed_iff_tells.mp (h r (by simp))
      exact ⟨_, hs.record hf⟩

/-! ## The counters -/

/-- The counters of a scan that has read `before`. -/
structure Counts (before : List Record) (s : Findings) : Prop where
  seen : s.seen = before.length
  consumed : s.consumed = (Record.encodeAll before).length
  skipped : s.skipped = before.countP (IsSkipped ·)

theorem Tells.eq_unknown_iff {r : Record} {f : Finding} (h : Tells r f) :
    f = .unknown ↔ IsSkipped r := by
  cases h with
  | foreign ht hd => simpa [IsSkipped, ht, readTags] using Indication.decode?_eq_none_iff.mp hd
  | indication ht hd =>
    have hs : IsSigned r.body := Indication.isSigned_of_decode? hd
    simp [IsSkipped, ht, readTags, hs]
  | unknown ht => simp [IsSkipped, ht]
  | _ => simp_all [IsSkipped, readTags]

theorem Findings.skipped_learn (s : Findings) (f : Finding) :
    (s.learn f).skipped = s.skipped + if f = .unknown then 1 else 0 := by
  cases f <;> rfl

theorem Findings.seen_learn (s : Findings) (f : Finding) : (s.learn f).seen = s.seen := by
  cases f <;> rfl

theorem Findings.consumed_learn (s : Findings) (f : Finding) :
    (s.learn f).consumed = s.consumed := by
  cases f <;> rfl

theorem Counts.add {before : List Record} {s : Findings} {r : Record} {f : Finding}
    (h : Counts before s) (ht : Tells r f) : Counts (before ++ [r]) (s.add r.size f) where
  seen := by simp [Findings.add, Findings.seen_learn, h.seen]
  consumed := by simp [Findings.add, Findings.consumed_learn, h.consumed]
  skipped := by simp [Findings.add, Findings.skipped_learn, h.skipped, ht.eq_unknown_iff]

theorem Reads.counts {rs : List Record} {s : Findings} (h : Reads rs s) : Counts rs s := by
  induction h with
  | start => exact ⟨rfl, rfl, rfl⟩
  | record _ ht ih => exact ih.add ht

/-! ## Acceptance -/

/-- **A buffer is accepted exactly if it is a run of records that keep their layout.** The records
of an accepted buffer are unique, and the scan counts them, their octets and the skipped ones. -/
theorem scan_accepts_records (data : Octets) :
    ((∃ s, scan data = .ok s) ↔
      ∃ rs : List Record, data = Record.encodeAll rs ∧ ∀ r ∈ rs, WellFormed r) ∧
    ∀ s, scan data = .ok s → ∃ rs : List Record,
      data = Record.encodeAll rs ∧ (∀ ss, data = Record.encodeAll ss → ss = rs) ∧
      (∀ r ∈ rs, WellFormed r) ∧
      s.seen = rs.length ∧ s.consumed = data.length ∧
      data.length = (rs.map fun r => 2 + r.body.length).sum ∧
      s.skipped = rs.countP (IsSkipped ·) := by
  constructor
  · simp only [scan_eq_ok_iff, ← exists_reads_iff]
    constructor
    · rintro ⟨s, rs, hd, hr⟩
      exact ⟨rs, hd, s, hr⟩
    · rintro ⟨rs, hd, s, hr⟩
      exact ⟨s, rs, hd, hr⟩
  · intro s h
    obtain ⟨rs, rfl, hr⟩ := scan_eq_ok_iff.mp h
    have hc := hr.counts
    have hz : Record.size = fun r => 2 + r.body.length := funext fun r => Nat.add_comm _ _
    refine ⟨rs, rfl, fun ss h => (Record.encodeAll_injective h).symm, ?_, hc.seen, hc.consumed, ?_,
      hc.skipped⟩
    · exact exists_reads_iff.mp ⟨s, hr⟩
    · rw [Record.length_encodeAll, hz]

/-- A name, an empty Interworking element, another vendor's element, and a tag that is not read. -/
theorem scan_accepts_records_mixed :
    scan [0, 1, 0x61, 107, 0, 221, 3, 0, 0x50, 0xF2, 3, 1, 6] =
      .ok { name := some [0x61], seen := 4, skipped := 2, consumed := 13 } ∧
    ∃ rs : List Record,
      [0, 1, 0x61, 107, 0, 221, 3, 0, 0x50, 0xF2, 3, 1, 6] = Record.encodeAll rs ∧
      rs.length = 4 ∧ rs.countP (IsSkipped ·) = 2 := by
  have h : scan [0, 1, 0x61, 107, 0, 221, 3, 0, 0x50, 0xF2, 3, 1, 6] =
      .ok { name := some [0x61], seen := 4, skipped := 2, consumed := 13 } := by
    decide +kernel
  obtain ⟨rs, hd, -, -, hs, -, -, hk⟩ := (scan_accepts_records _).2 _ h
  exact ⟨h, rs, hd, hs.symm, hk.symm⟩

end Passpoint.Element
