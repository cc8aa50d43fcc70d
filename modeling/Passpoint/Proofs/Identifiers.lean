import Mathlib.Data.List.Forall2
import Passpoint.Proofs.Coherence

/-! How the body of a Roaming Consortium element is cut into identifiers. Of its three lengths two
are packed into one octet and the third is what remains, so a body is refused exactly if nothing
could remain; otherwise the three runs follow one another without a gap, and each that is not empty
is one number. -/

namespace Passpoint.Element.RoamingConsortium

/-- A body has no room for the first two identifiers, or not even for their lengths. -/
def IsShort (body : Octets) : Prop :=
  body.length < 2 ∨ body.length - 2 < lowNibble (body.getD 1 0) + highNibble (body.getD 1 0)

instance (body : Octets) : Decidable (IsShort body) := inferInstanceAs (Decidable (_ ∨ _))

/-- `Cut body first second third`: behind a count and the packed lengths, a body is made of three
runs of octets, the first two as long as the lengths say. -/
inductive Cut : (body first second third : Octets) → Prop
  | octets {count lengths : UInt8} {first second third : Octets}
      (hf : first.length = lowNibble lengths) (hs : second.length = highNibble lengths) :
      Cut (count :: lengths :: (first ++ second ++ third)) first second third

variable {body first second third : Octets}

theorem isShort_iff : IsShort body ↔ ¬ LengthsFit body := by
  rw [IsShort, LengthsFit]
  omega

theorem exists_flaw_iff : (∃ flaw, decode body = .error flaw) ↔ IsShort body := by
  rw [isShort_iff]
  constructor
  · rintro ⟨flaw, h⟩
    exact not_lengthsFit_of_decode h
  · intro h
    cases hd : decode body with
    | error flaw => exact ⟨flaw, rfl⟩
    | ok rc => exact absurd (exists_decode_iff.mp ⟨rc, hd⟩) h

/-- A body that is not short can be cut. -/
theorem exists_cut (h : ¬ IsShort body) : ∃ first second third, Cut body first second third := by
  match body with
  | [] => exact absurd (.inl Nat.two_pos) h
  | [_] => exact absurd (.inl Nat.one_lt_two) h
  | count :: lengths :: bs =>
    have hl : lowNibble lengths + highNibble lengths ≤ bs.length := by
      simp only [IsShort, List.length_cons, List.getD_cons_succ, List.getD_cons_zero] at h
      omega
    obtain ⟨first, rest, rfl, hf⟩ : ∃ first rest, bs = first ++ rest ∧
        first.length = lowNibble lengths :=
      ⟨bs.take (lowNibble lengths), bs.drop (lowNibble lengths), by simp, by simp; omega⟩
    obtain ⟨second, third, rfl, hs⟩ : ∃ second third, rest = second ++ third ∧
        second.length = highNibble lengths := by
      rw [List.length_append] at hl
      exact ⟨rest.take (highNibble lengths), rest.drop (highNibble lengths), by simp, by
        simp; omega⟩
    rw [← List.append_assoc]
    exact ⟨first, second, third, .octets hf hs⟩

namespace Cut

/-- What is decoded from a body that has been cut. -/
theorem decode_eq (h : Cut body first second third) :
    decode body =
      .ok ⟨body.headD 0, ([first, second, third].filter (· ≠ [])).map bigEndian⟩ := by
  obtain ⟨hf, hs⟩ := h
  rename_i count lengths
  have hl : ¬ (first ++ second ++ third).length < first.length + second.length := by
    simp only [List.length_append]
    omega
  simp only [decode, ← hf, ← hs, if_neg hl, Sent.parts_octets]
  rfl

/-- The third run takes what the lengths leave. -/
theorem length_third (h : Cut body first second third) :
    third.length = body.length - 2 - first.length - second.length := by
  cases h
  simp only [List.length_cons, List.length_append]
  omega

/-- Another count in front leaves the cut as it is. -/
theorem withCount (h : Cut body first second third) (count : UInt8) :
    Cut (count :: body.tail) first second third := by
  obtain ⟨hf, hs⟩ := h
  exact .octets hf hs

end Cut

/-- There is one run for each length that is not zero. -/
theorem length_present (runs : List Octets) :
    (runs.filter (· ≠ [])).length = (runs.map List.length).countP (0 < ·) := by
  rw [← List.countP_eq_length_filter, List.countP_map]
  refine List.countP_congr fun run _ => ?_
  simp [List.length_pos_iff]

theorem forall₂_bigEndian_lt (runs : List Octets) :
    List.Forall₂ (fun run n => n < 256 ^ run.length) runs (runs.map bigEndian) := by
  rw [List.forall₂_map_right_iff, List.forall₂_same]
  exact fun run _ => bigEndian_lt run

/-- **The identifiers are the runs of a cut, each a number whose most significant octet comes
first.** A body is refused exactly if it has fewer than two octets or the two lengths in the second
go beyond its end. Any other is cut into three runs, without a gap and with nothing left over. There
are as many identifiers as runs that are not empty, none exactly if the body ends behind the lengths,
each below the power of 256 that its run allows; and the count in front has no part in them. -/
theorem decode_cuts_body (body : Octets) :
    ((∃ flaw, decode body = .error flaw) ↔ IsShort body) ∧
    (¬ IsShort body → ∃ first second third rc,
      Cut body first second third ∧
      third.length = body.length - 2 - first.length - second.length ∧
      decode body = .ok rc ∧
      rc.identifiers = ([first, second, third].filter (· ≠ [])).map
        (fun run => Nat.ofDigits 256 (run.reverse.map UInt8.toNat)) ∧
      rc.identifiers.length =
        [first.length, second.length, third.length].countP (0 < ·) ∧
      rc.identifiers.length ≤ 3 ∧
      (rc.identifiers = [] ↔ body.length = 2) ∧
      List.Forall₂ (fun run n => n < 256 ^ run.length) ([first, second, third].filter (· ≠ []))
        rc.identifiers ∧
      ∀ count, decode (count :: body.tail) = .ok ⟨count, rc.identifiers⟩) := by
  refine ⟨exists_flaw_iff, fun h => ?_⟩
  obtain ⟨first, second, third, hc⟩ := exists_cut h
  have hlength := length_present [first, second, third]
  refine ⟨first, second, third, _, hc, hc.length_third, hc.decode_eq, ?values, ?length, ?most, ?none,
    forall₂_bigEndian_lt _, fun count => (hc.withCount count).decode_eq⟩
  case values => rw [funext bigEndian_eq_ofDigits]
  case length => rw [List.length_map, hlength]; rfl
  case most => rw [List.length_map]; exact List.length_filter_le ..
  case none =>
    cases hc
    simp

/-- Lengths of zero and three octets: the second run and the third, of two octets, are left. -/
theorem decode_cuts_body_gap :
    ¬ IsShort [2, 0x30, 0x00, 0x1B, 0xC5, 0x01, 0x02] ∧
    ∃ rc, decode [2, 0x30, 0x00, 0x1B, 0xC5, 0x01, 0x02] = .ok rc ∧
      rc.identifiers = [0x001BC5, 0x0102] ∧
      ∀ count, decode [count, 0x30, 0x00, 0x1B, 0xC5, 0x01, 0x02] = .ok ⟨count, rc.identifiers⟩ := by
  have h : ¬ IsShort [2, 0x30, 0x00, 0x1B, 0xC5, 0x01, 0x02] := by decide
  obtain ⟨_, _, _, rc, -, -, hd, -, -, -, -, -, hcount⟩ := (decode_cuts_body _).2 h
  have hv : decode [2, 0x30, 0x00, 0x1B, 0xC5, 0x01, 0x02] = .ok ⟨2, [0x001BC5, 0x0102]⟩ := by
    decide +kernel
  cases hd.symm.trans hv
  exact ⟨h, _, hv, rfl, hcount⟩

end Passpoint.Element.RoamingConsortium
