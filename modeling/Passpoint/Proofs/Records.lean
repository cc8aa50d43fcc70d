import Mathlib.Algebra.Ring.Nat
import Passpoint.Element.Record

/-! Buffers as runs of records. Cutting a run of records gives back exactly those records, whatever
follows them, so a buffer has at most one decomposition. What `split` leaves over is no record: a
single octet, or a length that goes beyond the end. -/

namespace Passpoint.Record

/-! ## Runs of records -/

@[simp] theorem length_encode (r : Record) : r.encode.length = r.size := by
  simp [encode, size]

@[simp] theorem encodeAll_nil : encodeAll [] = [] := rfl

@[simp] theorem encodeAll_cons (r : Record) (rs : List Record) :
    encodeAll (r :: rs) = r.encode ++ encodeAll rs := rfl

@[simp] theorem encodeAll_append (rs ss : List Record) :
    encodeAll (rs ++ ss) = encodeAll rs ++ encodeAll ss := List.flatMap_append

theorem length_encodeAll (rs : List Record) : (encodeAll rs).length = (rs.map size).sum := by
  induction rs with
  | nil => rfl
  | cons r rs ih => simp [ih]

/-- A length octet holds the length of any body. -/
theorem toNat_length (r : Record) : (UInt8.ofNat r.body.length).toNat = r.body.length := by
  have := r.length_le
  simp only [UInt8.toNat_ofNat']
  omega

/-- A record in front is cut off as it is. -/
theorem split_encode_append (r : Record) (bs : Octets) :
    split (r.encode ++ bs) = (r :: (split bs).1, (split bs).2) := by
  have hn := r.toNat_length
  rw [encode, List.cons_append, List.cons_append, split, if_pos (by simp [hn])]
  simp only [hn, List.drop_left, List.take_left]

theorem split_encodeAll_append (rs : List Record) (bs : Octets) :
    split (encodeAll rs ++ bs) = (rs ++ (split bs).1, (split bs).2) := by
  induction rs with
  | nil => rfl
  | cons r rs ih => rw [encodeAll_cons, List.append_assoc, split_encode_append, ih]; rfl

theorem split_encodeAll (rs : List Record) : split (encodeAll rs) = (rs, none) := by
  simpa [split] using split_encodeAll_append rs []

/-- No two runs of records look alike. -/
theorem encodeAll_injective : Function.Injective encodeAll := by
  intro rs ss h
  have hs : split (encodeAll rs) = split (encodeAll ss) := by rw [h]
  simpa [split_encodeAll] using hs

/-! ## What is left over -/

/-- Octets that start with no record, and why. -/
inductive Unfinished : Octets → Rest → Prop
  | header (tag : UInt8) : Unfinished [tag] ⟨tag, .header⟩
  | body {tag n : UInt8} {bs : Octets} (h : bs.length < n.toNat) :
      Unfinished (tag :: n :: bs) ⟨tag, .body n.toNat⟩

theorem Unfinished.split_eq {bs : Octets} {rest : Rest} (h : Unfinished bs rest) :
    split bs = ([], some rest) := by
  cases h with
  | header tag => rw [split]
  | body h => rw [split, if_neg (Nat.not_le.mpr h)]

/-- A buffer is its records and what is left over. -/
theorem eq_append_of_split {data : Octets} {rs : List Record} {rest : Option Rest}
    (h : split data = (rs, rest)) :
    ∃ tail, data = encodeAll rs ++ tail ∧
      rest.elim (tail = []) (Unfinished tail) := by
  fun_induction split data generalizing rs rest with
  | case1 =>
    obtain ⟨rfl, rfl⟩ := Prod.mk.inj h
    exact ⟨[], rfl, rfl⟩
  | case2 tag =>
    obtain ⟨rfl, rfl⟩ := Prod.mk.inj h
    exact ⟨[tag], rfl, .header tag⟩
  | case3 tag n bs hn rs' rest' hs ih =>
    obtain ⟨rfl, rfl⟩ := Prod.mk.inj h
    obtain ⟨tail, hd, ht⟩ := ih hs
    refine ⟨tail, ?_, ht⟩
    -- The length octet is written from the body, which is as long as the octet said.
    have hl : (bs.take n.toNat).length = n.toNat := List.length_take_of_le hn
    rw [encodeAll_cons, List.append_assoc, ← hd, encode, hl, UInt8.ofNat_toNat]
    simp
  | case4 tag n bs hn =>
    obtain ⟨rfl, rfl⟩ := Prod.mk.inj h
    exact ⟨tag :: n :: bs, rfl, .body (Nat.not_le.mp hn)⟩

/-- A whole buffer is its records. -/
theorem eq_encodeAll_of_split {data : Octets} {rs : List Record} (h : split data = (rs, none)) :
    data = encodeAll rs := by
  obtain ⟨tail, hd, ht⟩ := eq_append_of_split h
  have ht : tail = [] := ht
  rw [hd, ht, List.append_nil]

end Passpoint.Record
