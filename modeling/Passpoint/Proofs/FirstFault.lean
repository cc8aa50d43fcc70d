import Passpoint.Proofs.Acceptance

/-! Where a scan stops. A refused buffer is a run of records that can be read, and behind it octets
that start with no record or with one whose decoder refuses it. The fault names the offset where
they start, their first octet, and the decoder's own words. -/

namespace Passpoint.Element

/-! ## Bad octets -/

/-- Octets whose first record is bad: a lone octet, a length that goes beyond the end, or a body
that breaks the layout of its tag. -/
inductive BadStart : Octets → Prop
  | header (tag : UInt8) : BadStart [tag]
  | body {tag n : UInt8} {bs : Octets} (h : bs.length < n.toNat) : BadStart (tag :: n :: bs)
  | bssLoad {r : Record} (rest : Octets) (ht : r.tag = 11) (hl : r.body.length ≠ 5) :
      BadStart (r.encode ++ rest)
  | roamingConsortium {r : Record} (rest : Octets) (ht : r.tag = 111)
      (hl : ¬ LengthsFit r.body) : BadStart (r.encode ++ rest)

/-- The octets in front of `o` are accepted by themselves, and those from `o` on are bad. -/
def FirstBad (data : Octets) (o : Nat) : Prop :=
  (∃ s, scan (data.take o) = .ok s) ∧ o < data.length ∧ BadStart (data.drop o)

/-- What a scan says of octets that it cannot go on with: a tag and a cause. -/
inductive Stops : Octets → UInt8 → Cause → Prop
  | cut {bs : Octets} {rest : Record.Rest} (h : Record.Unfinished bs rest) :
      Stops bs rest.tag (.cut rest.cut)
  | flaw {r : Record} {flaw : Flaw} (rest : Octets) (h : Refused r flaw) :
      Stops (r.encode ++ rest) r.tag (.flaw flaw)

theorem Stops.head {bs : Octets} {tag : UInt8} {cause : Cause} (h : Stops bs tag cause) :
    bs[0]? = some tag := by
  cases h with
  | cut h => cases h <;> rfl
  | flaw rest h => rfl

theorem badStart_iff_stops {bs : Octets} : BadStart bs ↔ ∃ tag cause, Stops bs tag cause := by
  constructor
  · intro h
    cases h with
    | header tag => exact ⟨_, _, .cut (.header tag)⟩
    | body h => exact ⟨_, _, .cut (.body h)⟩
    | bssLoad rest ht hl =>
      obtain ⟨flaw, hr⟩ := not_wellFormed_iff_refused.mp fun hw => hl (hw.1 ht)
      exact ⟨_, _, .flaw rest hr⟩
    | roamingConsortium rest ht hl =>
      obtain ⟨flaw, hr⟩ := not_wellFormed_iff_refused.mp fun hw => hl (hw.2 ht)
      exact ⟨_, _, .flaw rest hr⟩
  · rintro ⟨tag, cause, h⟩
    cases h with
    | cut h =>
      cases h with
      | header tag => exact .header tag
      | body h => exact .body h
    | flaw rest h =>
      cases h with
      | bssLoad ht hd => exact .bssLoad rest ht (BssLoad.length_ne_of_decode hd)
      | roamingConsortium ht hd =>
        exact .roamingConsortium rest ht (RoamingConsortium.not_lengthsFit_of_decode hd)

/-! ## The scan in front of bad octets -/

/-- Behind records that can be read, bad octets give the fault. -/
theorem scan_append_of_stops {rs : List Record} {s : Findings} {tail : Octets} {tag : UInt8}
    {cause : Cause} (hr : Reads rs s) (h : Stops tail tag cause) :
    scan (Record.encodeAll rs ++ tail) =
      .error ⟨tag, (Record.encodeAll rs).length, cause⟩ := by
  rw [scan_of_split (Record.split_encodeAll_append rs tail)]
  have ha := absorb_eq_ok_iff.mpr hr
  cases h with
  | cut h =>
    rw [h.split_eq, List.append_nil, ha, ← hr.counts.consumed]
    rfl
  | flaw rest h =>
    rw [Record.split_encode_append, absorb_append ha, absorb_cons_of_refused h, Nat.zero_add]
    rfl

/-- A run of records is refused at the first record that a decoder refuses. -/
theorem exists_refused_of_absorb {o : Nat} {s : Findings} {rs : List Record} {fault : Fault}
    (h : absorb o s rs = .error fault) :
    ∃ before r after flaw, rs = before ++ r :: after ∧ (∀ x ∈ before, WellFormed x) ∧
      Refused r flaw ∧ fault = ⟨r.tag, o + (Record.encodeAll before).length, .flaw flaw⟩ := by
  induction rs generalizing o s with
  | nil => cases h
  | cons r rs ih =>
    rcases tells_or_refused r with ⟨f, ht⟩ | ⟨flaw, hr⟩
    · rw [absorb_cons_of_tells ht] at h
      obtain ⟨before, x, after, flaw, rfl, hw, hx, rfl⟩ := ih h
      refine ⟨r :: before, x, after, flaw, rfl, ?_, hx, ?_⟩
      · exact List.forall_mem_cons.mpr ⟨ht.wellFormed, hw⟩
      · simp [Nat.add_assoc]
    · rw [absorb_cons_of_refused hr] at h
      cases h
      exact ⟨[], r, rs, flaw, rfl, by simp, hr, rfl⟩

/-- A fault stands behind records that can be read, in front of bad octets. -/
theorem exists_stops_of_scan {data : Octets} {fault : Fault} (h : scan data = .error fault) :
    ∃ rs s tail, data = Record.encodeAll rs ++ tail ∧ Reads rs s ∧
      fault.offset = (Record.encodeAll rs).length ∧ Stops tail fault.tag fault.cause := by
  obtain ⟨rs, rest, hs⟩ : ∃ rs rest, Record.split data = (rs, rest) := ⟨_, _, rfl⟩
  obtain ⟨tail, hd, hu⟩ := Record.eq_append_of_split hs
  rw [scan_of_split hs] at h
  cases ha : absorb 0 {} rs with
  | error fault' =>
    -- A flaw among the records comes before whatever is left over behind them.
    rw [ha] at h
    cases h
    obtain ⟨before, r, after, flaw, rfl, hw, hr, rfl⟩ := exists_refused_of_absorb ha
    obtain ⟨s, hb⟩ := exists_reads_iff.mpr hw
    refine ⟨before, s, r.encode ++ (Record.encodeAll after ++ tail), ?_, hb, Nat.zero_add _,
      .flaw _ hr⟩
    rw [hd, Record.encodeAll_append, Record.encodeAll_cons, List.append_assoc, List.append_assoc]
  | ok s =>
    rw [ha] at h
    have hr := absorb_eq_ok_iff.mp ha
    cases rest with
    | none => cases h
    | some rest =>
      cases h
      exact ⟨rs, s, tail, hd, hr, hr.counts.consumed, .cut hu⟩

/-! ## The first bad record -/

/-- The offset of bad octets behind accepted ones is the length of a run of records. -/
theorem firstBad_iff {data : Octets} {o : Nat} :
    FirstBad data o ↔ ∃ rs s tail tag cause, data = Record.encodeAll rs ++ tail ∧ Reads rs s ∧
      o = (Record.encodeAll rs).length ∧ Stops tail tag cause := by
  constructor
  · rintro ⟨⟨s, hs⟩, ho, hb⟩
    obtain ⟨rs, ht, hr⟩ := scan_eq_ok_iff.mp hs
    obtain ⟨tag, cause, hc⟩ := badStart_iff_stops.mp hb
    refine ⟨rs, s, data.drop o, tag, cause, ?_, hr, ?_, hc⟩
    · rw [← ht, List.take_append_drop]
    · rw [← ht, List.length_take_of_le (Nat.le_of_lt ho)]
  · rintro ⟨rs, s, tail, tag, cause, rfl, hr, rfl, hc⟩
    have hl : 0 < tail.length := (List.getElem?_eq_some_iff.mp hc.head).1
    refine ⟨⟨s, ?_⟩, ?_, ?_⟩
    · rw [List.take_left]
      exact scan_eq_ok_iff.mpr ⟨rs, rfl, hr⟩
    · rw [List.length_append]
      omega
    · rw [List.drop_left]
      exact badStart_iff_stops.mpr ⟨tag, cause, hc⟩

theorem getElem?_append_of_stops {data tail : Octets} {tag : UInt8} {cause : Cause}
    (h : Stops tail tag cause) : (data ++ tail)[data.length]? = some tag := by
  rw [List.getElem?_append_right (Nat.le_refl _), Nat.sub_self, h.head]

/-- A first bad record refuses the buffer, with its offset and its tag. -/
theorem FirstBad.scan_eq {data : Octets} {o : Nat} (h : FirstBad data o) :
    ∃ fault, scan data = .error fault ∧ fault.offset = o ∧ data[o]? = some fault.tag := by
  obtain ⟨rs, s, tail, tag, cause, rfl, hr, rfl, hc⟩ := firstBad_iff.mp h
  exact ⟨_, scan_append_of_stops hr hc, rfl, getElem?_append_of_stops hc⟩

/-- **A refused buffer is refused at its first bad record.** There is at most one offset with
accepted octets in front and a bad record behind. A buffer is refused exactly if there is one, and
the fault has that offset, the octet that stands there and, if a decoder refuses the record, the
decoder's message. -/
theorem scan_fails_at_first_bad (data : Octets) :
    (∀ fault, scan data = .error fault →
      FirstBad data fault.offset ∧ data[fault.offset]? = some fault.tag ∧
      ∀ r rest flaw, data.drop fault.offset = r.encode ++ rest → Refused r flaw →
        fault.message = flaw.message) ∧
    (∀ o, FirstBad data o →
      ∃ fault, scan data = .error fault ∧ fault.offset = o ∧ data[o]? = some fault.tag) ∧
    ∀ o o', FirstBad data o → FirstBad data o' → o = o' := by
  refine ⟨?_, fun o h => h.scan_eq, ?_⟩
  · intro fault h
    obtain ⟨rs, s, tail, rfl, hr, ho, hc⟩ := exists_stops_of_scan h
    refine ⟨firstBad_iff.mpr ⟨rs, s, tail, _, _, rfl, hr, ho, hc⟩, ?_, ?_⟩
    · rw [ho]
      exact getElem?_append_of_stops hc
    · intro r rest flaw hd hf
      rw [ho, List.drop_left] at hd
      rw [hd, scan_append_of_stops hr (.flaw rest hf)] at h
      cases h
      rfl
  · intro o o' h h'
    obtain ⟨fault, hs, ho, -⟩ := h.scan_eq
    obtain ⟨fault', hs', ho', -⟩ := h'.scan_eq
    cases hs.symm.trans hs'
    exact ho.symm.trans ho'

/-- A name, and behind it a load of four octets. -/
theorem scan_fails_at_first_bad_load :
    scan [0, 1, 0x61, 11, 4, 1, 2, 3, 4] = .error ⟨11, 3, .flaw (.loadLength 4)⟩ ∧
    FirstBad [0, 1, 0x61, 11, 4, 1, 2, 3, 4] 3 ∧
    ∀ o, FirstBad [0, 1, 0x61, 11, 4, 1, 2, 3, 4] o → o = 3 := by
  have h : scan [0, 1, 0x61, 11, 4, 1, 2, 3, 4] = .error ⟨11, 3, .flaw (.loadLength 4)⟩ := by
    decide +kernel
  obtain ⟨hf, -, hu⟩ := scan_fails_at_first_bad [0, 1, 0x61, 11, 4, 1, 2, 3, 4]
  have hb := (hf _ h).1
  exact ⟨h, hb, fun o ho => hu o 3 ho hb⟩

end Passpoint.Element
