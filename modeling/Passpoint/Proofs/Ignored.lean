import Passpoint.Proofs.Concatenation
import Passpoint.Proofs.Description

/-! Records that are passed over. An element of no known kind, another vendor's element and an empty
Interworking element tell nothing, whatever stands in their bodies. Put between two records of a
buffer they change nothing that is told, and a fault behind them only moves by their length. -/

namespace Passpoint.Element

/-- A record is passed over: it is skipped, or it is an Interworking element without octets. -/
def IsIgnored (r : Record) : Prop := IsSkipped r ∨ r.tag = 107 ∧ r.body = []

instance (r : Record) : Decidable (IsIgnored r) := inferInstanceAs (Decidable (_ ∨ _))

/-! ## One record, and a run of them -/

theorem Tells.of_ignored {r : Record} (h : IsIgnored r) :
    Tells r (if IsSkipped r then .unknown else .nothing) := by
  by_cases hs : IsSkipped r
  · rw [if_pos hs]
    rcases hs with ht | ⟨ht, hb⟩
    · exact .unknown ht
    · exact .foreign ht (Indication.decode?_eq_none_iff.mpr hb)
  · rw [if_neg hs]
    obtain ⟨ht, hb⟩ := h.resolve_left hs
    exact .nothing ht (Interworking.decode?_eq_none_iff.mpr hb)

/-- Only the counters know of records that are passed over. -/
theorem Reads.of_ignored {us : List Record} (h : ∀ r ∈ us, IsIgnored r) :
    Reads us { seen := us.length, skipped := us.countP (IsSkipped ·),
               consumed := (Record.encodeAll us).length } := by
  induction us using List.reverseRecOn with
  | nil => exact .start
  | append_singleton us r ih =>
    have hr := (ih fun x hx => h x (by simp [hx])).record (Tells.of_ignored (h r (by simp)))
    convert hr using 1
    by_cases hs : IsSkipped r <;> simp [Findings.add, Findings.learn, hs]

/-! ## Between other records -/

/-- What is told is the same with and without records that are passed over. -/
theorem Findings.append_ignored (s t : Findings) (seen skipped consumed : Nat) :
    (s.append { seen, skipped, consumed }).append t =
      { s.append t with
        seen := (s.append t).seen + seen
        skipped := (s.append t).skipped + skipped
        consumed := (s.append t).consumed + consumed } := by
  simp only [append, Option.none_or, Nat.add_right_comm]

/-- **Records that are passed over change nothing.** Put behind an accepted buffer and in front of
any other octets, whatever their bodies hold, they leave every field that is told as it is, and only
the counters grow; so the same network is described. If the octets are refused without them, they
are refused with them, for the same tag and cause, further on by their length. -/
theorem scan_insert_ignored {a b : Octets} {us : List Record} {s : Findings} (ha : scan a = .ok s)
    (hu : ∀ r ∈ us, IsIgnored r) :
    (∀ t, scan (a ++ b) = .ok t →
      scan (a ++ Record.encodeAll us ++ b) = .ok { t with
        seen := t.seen + us.length
        skipped := t.skipped + us.countP (IsSkipped ·)
        consumed := t.consumed + (Record.encodeAll us).length } ∧
      (∀ bssid answers, Network.ofOctets bssid (a ++ Record.encodeAll us ++ b) answers =
        Network.ofOctets bssid (a ++ b) answers) ∧
      ∀ bssid answers, HasTwelveDigits bssid →
        ∃ n, Network.ofOctets (some bssid) (a ++ Record.encodeAll us ++ b) answers = .ok n) ∧
    ∀ fault, scan (a ++ b) = .error fault →
      scan (a ++ Record.encodeAll us ++ b) =
        .error ⟨fault.tag, fault.offset + (Record.encodeAll us).length, fault.cause⟩ := by
  obtain ⟨rs, rfl, hr⟩ := scan_eq_ok_iff.mp ha
  have hb := hr.scan_append b
  have hm := (hr.append (Reads.of_ignored hu)).scan_append b
  rw [Record.encodeAll_append] at hm
  constructor
  · intro t ht
    cases hs : scan b with
    | error fault => rw [hb, hs] at ht; cases ht
    | ok t' =>
      rw [hb, hs] at ht
      cases ht
      rw [hs] at hm hb
      have hi := hm.trans (congrArg Except.ok (Findings.append_ignored s t' ..))
      refine ⟨hi, fun bssid answers => ?_, fun bssid answers hd => ?_⟩
      · rw [Network.ofOctets, Network.ofOctets, hi, hb]
        rfl
      · exact ⟨_, Network.ofOctets_of_hasTwelveDigits hd hi⟩
  · intro fault hf
    cases hs : scan b with
    | ok t => rw [hb, hs] at hf; cases hf
    | error fault' =>
      rw [hb, hs] at hf
      cases hf
      rw [hm, hs, List.length_append]
      simp only [Except.mapError, Except.map, Fault.moved, Nat.add_assoc]

/-- A kind of access, and between it and what follows an unknown element that holds a name, an empty
Interworking element, and another vendor's element; behind them a name, or a load of one octet. -/
theorem scan_insert_ignored_name :
    scan ([107, 1, 3] ++ [50, 3, 0, 1, 0x62, 107, 0, 221, 2, 11, 0] ++ [0, 1, 0x61]) =
      .ok { name := some [0x61], interworking := some ⟨.freePublic, false, none, 0⟩,
            seen := 5, skipped := 2, consumed := 17 } ∧
    (∃ n, Network.ofOctets (some "00-11-22 33:44:5f")
      ([107, 1, 3] ++ [50, 3, 0, 1, 0x62, 107, 0, 221, 2, 11, 0] ++ [0, 1, 0x61]) .empty = .ok n) ∧
    scan ([107, 1, 3] ++ [50, 3, 0, 1, 0x62, 107, 0, 221, 2, 11, 0] ++ [11, 1, 7]) =
      .error ⟨11, 14, .flaw (.loadLength 1)⟩ := by
  let us : List Record :=
    [⟨50, [0, 1, 0x62], by decide⟩, ⟨107, [], by decide⟩, ⟨221, [11, 0], by decide⟩]
  have ha : scan [107, 1, 3] =
      .ok { interworking := some ⟨.freePublic, false, none, 0⟩, seen := 1, consumed := 3 } := by
    decide +kernel
  have hu : ∀ r ∈ us, IsIgnored r := by decide
  have ht : scan ([107, 1, 3] ++ [0, 1, 0x61]) =
      .ok { name := some [0x61], interworking := some ⟨.freePublic, false, none, 0⟩,
            seen := 2, consumed := 6 } := by
    decide +kernel
  have hf : scan ([107, 1, 3] ++ [11, 1, 7]) = .error ⟨11, 3, .flaw (.loadLength 1)⟩ := by
    decide +kernel
  have hb : HasTwelveDigits "00-11-22 33:44:5f" := by decide +kernel
  obtain ⟨hs, -, hn⟩ := (scan_insert_ignored ha hu).1 _ ht
  exact ⟨hs, hn _ _ hb, (scan_insert_ignored ha hu).2 _ hf⟩

end Passpoint.Element
