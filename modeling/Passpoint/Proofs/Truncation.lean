import Passpoint.Proofs.Concatenation

/-! Accepted buffers that are cut off. Where a record ends the rest can be missed: what is left is
accepted, and tells what its records tell. Anywhere else the buffer is refused at the record that
was cut, whether its length octet is missing or octets of its body are. -/

namespace Passpoint

namespace Record

/-! ## Places in a run -/

/-- The octets up to `k` are whole records. -/
def IsBoundary (rs : List Record) (k : Nat) : Prop :=
  ∃ before after, rs = before ++ after ∧ k = (encodeAll before).length

/-- `k` lies within the record `r`, behind `before`: some of its octets are in front of `k`, and some
are not. -/
structure Splits (rs before : List Record) (r : Record) (k : Nat) : Prop where
  follows : ∃ after, rs = before ++ r :: after
  lower : (encodeAll before).length < k
  upper : k < (encodeAll before).length + r.size

/-- A place in a run is a boundary or lies within a record. -/
theorem isBoundary_or_splits {rs : List Record} {k : Nat} (hk : k ≤ (encodeAll rs).length) :
    IsBoundary rs k ∨ ∃ before r, Splits rs before r k := by
  induction rs generalizing k with
  | nil => exact .inl ⟨[], [], rfl, Nat.le_zero.mp hk⟩
  | cons r rs ih =>
    rw [encodeAll_cons, List.length_append, length_encode] at hk
    by_cases h0 : k = 0
    · exact .inl ⟨[], r :: rs, rfl, h0⟩
    by_cases hr : k < r.size
    · exact .inr ⟨[], r, ⟨rs, rfl⟩, Nat.pos_of_ne_zero h0, by simpa using hr⟩
    -- The place lies behind the first record.
    obtain ⟨j, rfl⟩ : ∃ j, k = r.size + j := ⟨k - r.size, by omega⟩
    have hsize (before : List Record) :
        (encodeAll (r :: before)).length = r.size + (encodeAll before).length := by
      rw [encodeAll_cons, List.length_append, length_encode]
    rcases ih (k := j) (by omega) with ⟨before, after, rfl, rfl⟩ | ⟨before, x, ⟨after, rfl⟩, hl, hu⟩
    · exact .inl ⟨r :: before, after, rfl, (hsize before).symm⟩
    · refine .inr ⟨r :: before, x, ⟨after, rfl⟩, ?_, ?_⟩ <;> rw [hsize] <;> omega

theorem IsBoundary.take_drop {rs : List Record} {k : Nat} (h : IsBoundary rs k) :
    ∃ before after, rs = before ++ after ∧ (encodeAll rs).take k = encodeAll before ∧
      (encodeAll rs).drop k = encodeAll after := by
  obtain ⟨before, after, rfl, rfl⟩ := h
  refine ⟨before, after, rfl, ?_, ?_⟩
  · rw [encodeAll_append, List.take_left]
  · rw [encodeAll_append, List.drop_left]

/-- What is left of a record that was cut. -/
theorem unfinished_take {r : Record} {j : Nat} (h0 : 0 < j) (hj : j < r.size) :
    Unfinished (r.encode.take j) ⟨r.tag, if j = 1 then .header else .body r.body.length⟩ := by
  match j with
  | 1 => exact .header r.tag
  | j + 2 =>
    have hb : (r.body.take j).length < (UInt8.ofNat r.body.length).toNat := by
      rw [size] at hj
      rw [toNat_length, List.length_take]
      omega
    have hu : Unfinished (r.encode.take (j + 2)) ⟨r.tag, _⟩ := .body hb
    rw [toNat_length] at hu
    exact hu

theorem Splits.take_eq {rs before : List Record} {r : Record} {k : Nat}
    (h : Splits rs before r k) :
    (encodeAll rs).take k = encodeAll before ++ r.encode.take (k - (encodeAll before).length) := by
  obtain ⟨⟨after, rfl⟩, hl, hu⟩ := h
  rw [encodeAll_append, encodeAll_cons, List.take_append, List.take_of_length_le (by omega),
    List.take_append_of_le_length (by rw [length_encode]; omega)]

end Record

namespace Element

open Record

/-! ## The scan of what is left -/

theorem Reads.of_append {before after : List Record} {s : Findings}
    (h : Reads (before ++ after) s) :
    ∃ t u, Reads before t ∧ Reads after u ∧ s = t.append u := by
  have hw := exists_reads_iff.mp ⟨s, h⟩
  obtain ⟨t, ht⟩ := exists_reads_iff.mpr fun r hr => hw r (List.mem_append_left after hr)
  obtain ⟨u, hu⟩ := exists_reads_iff.mpr fun r hr => hw r (List.mem_append_right before hr)
  have ha := absorb_eq_ok_iff.mpr (ht.append hu)
  rw [absorb_eq_ok_iff.mpr h] at ha
  exact ⟨t, u, ht, hu, Except.ok.inj ha⟩

variable {rs : List Record} {s : Findings} {k : Nat}

/-- A buffer cut at a boundary is read as its records, and the rest tells the rest. -/
theorem Reads.scan_take (h : Reads rs s) (hk : IsBoundary rs k) :
    ∃ before after t u, rs = before ++ after ∧ (encodeAll rs).take k = encodeAll before ∧
      Reads before t ∧ scan ((encodeAll rs).take k) = .ok t ∧
      scan ((encodeAll rs).drop k) = .ok u ∧ s = t.append u := by
  obtain ⟨before, after, rfl, htake, hdrop⟩ := hk.take_drop
  obtain ⟨t, u, ht, hu, hs⟩ := h.of_append
  exact ⟨before, after, t, u, rfl, htake, ht, scan_eq_ok_iff.mpr ⟨before, htake, ht⟩,
    scan_eq_ok_iff.mpr ⟨after, hdrop, hu⟩, hs⟩

/-- A buffer cut within a record is refused there. -/
theorem Reads.scan_take_of_splits (h : Reads rs s) {before : List Record} {r : Record}
    (hk : Splits rs before r k) :
    scan ((encodeAll rs).take k) = .error ⟨r.tag, (encodeAll before).length,
      .cut (if k = (encodeAll before).length + 1 then .header else .body r.body.length)⟩ := by
  obtain ⟨after, rfl⟩ := hk.follows
  obtain ⟨t, -, ht, -, -⟩ := h.of_append
  have hl := hk.lower
  have hu := unfinished_take (r := r) (j := k - (encodeAll before).length) (by omega)
    (by have := hk.upper; omega)
  have hj : k - (encodeAll before).length = 1 ↔ k = (encodeAll before).length + 1 := by omega
  simp only [hj] at hu
  rw [hk.take_eq, scan_append_of_stops ht (.cut hu)]

/-- **An accepted buffer can be cut off where a record ends, and nowhere else.** What is in front of
a place is accepted exactly if the place is the start or the end of a record. It then tells what its
whole records tell, and what the other octets tell by themselves goes over it to give the findings
of the whole buffer. At any other place there is no result: the fault has the tag of the record that
was cut and stands where that record starts, whether the place is behind its tag or further on. -/
theorem scan_take_iff_boundary {data : Octets} {s : Findings} (h : scan data = .ok s) :
    ∃ rs, data = encodeAll rs ∧ ∀ k ≤ data.length,
      ((∃ t, scan (data.take k) = .ok t) ↔ IsBoundary rs k) ∧
      (∀ t, scan (data.take k) = .ok t → ∃ before after u, rs = before ++ after ∧
        data.take k = encodeAll before ∧ Reads before t ∧ scan (data.drop k) = .ok u ∧
        s = t.append u) ∧
      (¬ IsBoundary rs k → ∃ before r after, rs = before ++ r :: after ∧
        (encodeAll before).length < k ∧ k < (encodeAll before).length + r.size ∧
        scan (data.take k) = .error ⟨r.tag, (encodeAll before).length,
          .cut (if k = (encodeAll before).length + 1 then .header else .body r.body.length)⟩) := by
  obtain ⟨rs, rfl, hr⟩ := scan_eq_ok_iff.mp h
  refine ⟨rs, rfl, fun k hk => ?_⟩
  rcases isBoundary_or_splits hk with hb | ⟨before, r, hs⟩
  · obtain ⟨before, after, t, u, hrs, htake, ht, hscan, hu, hst⟩ := hr.scan_take hb
    refine ⟨iff_of_true ⟨t, hscan⟩ hb, fun t' ht' => ?_, fun hn => absurd hb hn⟩
    cases hscan.symm.trans ht'
    exact ⟨before, after, u, hrs, htake, ht, hu, hst⟩
  · have hscan := hr.scan_take_of_splits hs
    have hfails : ∀ t, scan ((encodeAll rs).take k) ≠ .ok t := by
      intro t ht
      rw [hscan] at ht
      cases ht
    refine ⟨⟨fun ⟨t, ht⟩ => absurd ht (hfails t), fun hb => ?_⟩,
      fun t ht => absurd ht (hfails t), fun _ => ?_⟩
    · obtain ⟨_, _, t, _, _, _, _, ht, _⟩ := hr.scan_take hb
      exact absurd ht (hfails t)
    · obtain ⟨after, hrs⟩ := hs.follows
      exact ⟨before, r, after, hrs, hs.lower, hs.upper, hscan⟩

/-- A name, an empty Interworking element and a load; cut between the last two, and behind the tag of
the second. -/
theorem scan_take_iff_boundary_load :
    let data : Octets := [0, 1, 0x61, 107, 0, 11, 5, 1, 0, 2, 3, 0]
    let s : Findings := { name := some [0x61], bssLoad := some ⟨1, 2, 3⟩, seen := 3, consumed := 12 }
    let t : Findings := { name := some [0x61], seen := 2, consumed := 5 }
    scan data = .ok s ∧ scan (data.take 5) = .ok t ∧
    (∃ u, scan (data.drop 5) = .ok u ∧ s = t.append u) ∧
    ∃ rs, data = encodeAll rs ∧ 5 ≤ data.length ∧ IsBoundary rs 5 ∧ 4 ≤ data.length ∧
      ¬ IsBoundary rs 4 ∧ ∃ before r after, rs = before ++ r :: after ∧
        scan (data.take 4) = .error ⟨r.tag, (encodeAll before).length, .cut .header⟩ ∧
        r.tag = 107 ∧ (encodeAll before).length = 3 := by
  intro data s t
  have hs : scan data = .ok s := by decide +kernel
  have ht : scan (data.take 5) = .ok t := by decide +kernel
  have hf : scan (data.take 4) = .error ⟨107, 3, .cut .header⟩ := by decide +kernel
  obtain ⟨rs, hd, hk⟩ := scan_take_iff_boundary hs
  obtain ⟨hiff, htells, -⟩ := hk 5 (by decide)
  obtain ⟨-, -, u, -, -, -, hu, hst⟩ := htells t ht
  obtain ⟨hiff', -, hcut⟩ := hk 4 (by decide)
  have hn : ¬ IsBoundary rs 4 := by
    intro hb
    obtain ⟨t', ht'⟩ := hiff'.mpr hb
    rw [hf] at ht'
    cases ht'
  obtain ⟨before, r, after, hrs, -, -, he⟩ := hcut hn
  obtain ⟨htag, ho, hc⟩ := Fault.mk.inj (Except.error.inj (hf.symm.trans he))
  exact ⟨hs, ht, ⟨u, hu, hst⟩, rs, hd, by decide, hiff.mp ⟨t, ht⟩, by decide, hn, before, r, after,
    hrs, hc ▸ he, htag.symm, ho.symm⟩

end Element

end Passpoint
