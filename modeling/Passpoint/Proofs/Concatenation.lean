import Mathlib.Data.List.Forall2
import Passpoint.Proofs.FirstFault

/-! Buffers one behind the other. Behind an accepted buffer another one is read as it is read by
itself: what it tells goes over what was told before, the counters add up, and a fault only moves
by the length of the first buffer. So findings are put together from single records, and no record
can change what another one means. -/

namespace Passpoint.Element

/-! ## Findings put together -/

/-- What two buffers tell, one behind the other. A field that the second tells replaces that of the
first, and the counters add up. -/
def Findings.append (s t : Findings) : Findings where
  name := t.name.or s.name
  bssLoad := t.bssLoad.or s.bssLoad
  interworking := t.interworking.or s.interworking
  roamingConsortium := t.roamingConsortium.or s.roamingConsortium
  indication := t.indication.or s.indication
  capabilities := t.capabilities.or s.capabilities
  seen := s.seen + t.seen
  skipped := s.skipped + t.skipped
  consumed := s.consumed + t.consumed

theorem Findings.append_start (s : Findings) : s.append {} = s := rfl

/-- A record more is a record more of the second buffer. -/
theorem Findings.append_add (s t : Findings) (size : Nat) (f : Finding) :
    s.append (t.add size f) = (s.append t).add size f := by
  cases f <;> simp [append, add, learn, Nat.add_assoc]

theorem Reads.append {rs ss : List Record} {s t : Findings} (hs : Reads rs s) (ht : Reads ss t) :
    Reads (rs ++ ss) (s.append t) := by
  -- A run grows at its end, so the records of the second buffer are taken up one by one.
  induction ht with
  | start =>
    rw [List.append_nil, Findings.append_start]
    exact hs
  | record _ hr ih =>
    rw [← List.append_assoc, Findings.append_add]
    exact ih.record hr

theorem scan_encode_of_tells {r : Record} {f : Finding} (h : Tells r f) :
    scan r.encode = .ok (({} : Findings).add r.size f) := by
  refine scan_eq_ok_iff.mpr ⟨[r], ?_, Reads.start.record h⟩
  rw [Record.encodeAll_cons, Record.encodeAll_nil, List.append_nil]

/-- The findings of a run are those of its records, each scanned by itself. -/
theorem Reads.exists_parts {rs : List Record} {s : Findings} (h : Reads rs s) :
    ∃ parts, List.Forall₂ (fun r part => scan r.encode = .ok part) rs parts ∧
      s = parts.foldl Findings.append {} := by
  induction h with
  | start => exact ⟨[], .nil, rfl⟩
  | @record before s r f _ hr ih =>
    obtain ⟨parts, hp, rfl⟩ := ih
    refine ⟨parts ++ [({} : Findings).add r.size f], ?_, ?_⟩
    · exact List.rel_append hp (.cons (scan_encode_of_tells hr) .nil)
    · rw [List.foldl_append, List.foldl_cons, List.foldl_nil, Findings.append_add,
        Findings.append_start]

/-! ## The scan of both -/

/-- The same fault behind more octets. -/
def Fault.moved (length : Nat) (fault : Fault) : Fault :=
  { fault with offset := fault.offset + length }

/-- Behind records that can be read a buffer is scanned as by itself. -/
theorem Reads.scan_append {rs : List Record} {s : Findings} (h : Reads rs s) (b : Octets) :
    scan (Record.encodeAll rs ++ b) =
      ((scan b).map s.append).mapError (Fault.moved (Record.encodeAll rs).length) := by
  cases hb : scan b with
  | ok t =>
    obtain ⟨ss, rfl, hs⟩ := scan_eq_ok_iff.mp hb
    exact scan_eq_ok_iff.mpr ⟨rs ++ ss, (Record.encodeAll_append rs ss).symm, h.append hs⟩
  | error fault =>
    obtain ⟨ss, t, tail, rfl, hs, ho, hc⟩ := exists_stops_of_scan hb
    rw [← List.append_assoc, ← Record.encodeAll_append, scan_append_of_stops (h.append hs) hc,
      Record.encodeAll_append, List.length_append, ← ho, Nat.add_comm]
    rfl

/-- **Behind an accepted buffer another one is scanned as by itself.** Each field is what the second
buffer tells, or else what the first told, and the counters are the sums. A fault of the second
buffer has the same tag and cause, and stands further on by the length of the first. What is told is
put together from the records, each scanned alone, so none can change what another one means. -/
theorem scan_append_of_accepted {a b : Octets} {s : Findings} (h : scan a = .ok s) :
    (∀ t, scan b = .ok t → scan (a ++ b) = .ok {
      name := t.name.or s.name
      bssLoad := t.bssLoad.or s.bssLoad
      interworking := t.interworking.or s.interworking
      roamingConsortium := t.roamingConsortium.or s.roamingConsortium
      indication := t.indication.or s.indication
      capabilities := t.capabilities.or s.capabilities
      seen := s.seen + t.seen
      skipped := s.skipped + t.skipped
      consumed := s.consumed + t.consumed }) ∧
    (∀ fault, scan b = .error fault →
      scan (a ++ b) = .error ⟨fault.tag, a.length + fault.offset, fault.cause⟩) ∧
    ∃ rs parts, a = Record.encodeAll rs ∧
      List.Forall₂ (fun r part => scan r.encode = .ok part) rs parts ∧
      s = parts.foldl Findings.append {} := by
  obtain ⟨rs, rfl, hr⟩ := scan_eq_ok_iff.mp h
  refine ⟨?_, ?_, ?_⟩
  · intro t ht
    obtain ⟨ss, rfl, hs⟩ := scan_eq_ok_iff.mp ht
    exact scan_eq_ok_iff.mpr ⟨rs ++ ss, (Record.encodeAll_append rs ss).symm, hr.append hs⟩
  · intro fault hf
    obtain ⟨ss, t, tail, rfl, hs, ho, hc⟩ := exists_stops_of_scan hf
    rw [← List.append_assoc, ← Record.encodeAll_append, scan_append_of_stops (hr.append hs) hc,
      Record.encodeAll_append, List.length_append, ho]
  · obtain ⟨parts, hp, hs⟩ := hr.exists_parts
    exact ⟨rs, parts, rfl, hp, hs⟩

/-- An indication and a kind of access; behind them a name, an empty Interworking element and
another vendor's element, or a load of one octet. -/
theorem scan_append_of_accepted_access :
    scan [221, 5, 0x50, 0x6F, 0x9A, 0x10, 0, 107, 1, 3] =
      .ok { interworking := some ⟨.freePublic, false, none, 0⟩, indication := some ⟨.r1, none⟩,
            seen := 2, consumed := 10 } ∧
    scan ([221, 5, 0x50, 0x6F, 0x9A, 0x10, 0, 107, 1, 3] ++ [0, 1, 0x61, 107, 0, 221, 1, 7]) =
      .ok { name := some [0x61], interworking := some ⟨.freePublic, false, none, 0⟩,
            indication := some ⟨.r1, none⟩, seen := 5, skipped := 1, consumed := 18 } ∧
    scan ([221, 5, 0x50, 0x6F, 0x9A, 0x10, 0, 107, 1, 3] ++ [0, 1, 0x61, 11, 1, 7]) =
      .error ⟨11, 13, .flaw (.loadLength 1)⟩ := by
  have ha : scan [221, 5, 0x50, 0x6F, 0x9A, 0x10, 0, 107, 1, 3] =
      .ok { interworking := some ⟨.freePublic, false, none, 0⟩, indication := some ⟨.r1, none⟩,
            seen := 2, consumed := 10 } := by
    decide +kernel
  have hb : scan [0, 1, 0x61, 107, 0, 221, 1, 7] =
      .ok { name := some [0x61], seen := 3, skipped := 1, consumed := 8 } := by
    decide +kernel
  have hf : scan [0, 1, 0x61, 11, 1, 7] = .error ⟨11, 3, .flaw (.loadLength 1)⟩ := by
    decide +kernel
  exact ⟨ha, (scan_append_of_accepted ha).1 _ hb, (scan_append_of_accepted ha).2.1 _ hf⟩

end Passpoint.Element
