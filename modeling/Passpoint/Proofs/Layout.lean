import Passpoint.Element.Scan

/-! What a record has to look like, and what it then tells. The rules are stated on tags and octets,
without the decoders; each decoder is shown to accept exactly the bodies that keep its rule. Only
two kinds of element have a rule at all. -/

namespace Passpoint.Element

/-! ## The rules -/

/-- The tags of the elements that are read. -/
def readTags : List UInt8 := [0, 11, 107, 111, 127, 221]

/-- The body of a vendor element holds a Hotspot 2.0 Indication. -/
def IsSigned (body : Octets) : Prop := 5 ≤ body.length ∧ [0x50, 0x6F, 0x9A, 0x10] <+: body

instance (body : Octets) : Decidable (IsSigned body) := inferInstanceAs (Decidable (_ ∧ _))

/-- The two lengths in the second octet of a consortium leave nothing negative for the third. -/
def LengthsFit (body : Octets) : Prop :=
  2 ≤ body.length ∧ lowNibble (body.getD 1 0) + highNibble (body.getD 1 0) ≤ body.length - 2

instance (body : Octets) : Decidable (LengthsFit body) := inferInstanceAs (Decidable (_ ∧ _))

/-- A record keeps the layout of its kind. -/
def WellFormed (r : Record) : Prop :=
  (r.tag = 11 → r.body.length = 5) ∧ (r.tag = 111 → LengthsFit r.body)

instance (r : Record) : Decidable (WellFormed r) := inferInstanceAs (Decidable (_ ∧ _))

/-- A record counts as skipped: its tag is not read, or it is some other vendor's. -/
def IsSkipped (r : Record) : Prop := r.tag ∉ readTags ∨ r.tag = 221 ∧ ¬ IsSigned r.body

instance (r : Record) : Decidable (IsSkipped r) := inferInstanceAs (Decidable (_ ∨ _))

/-! ## What the decoders accept -/

theorem BssLoad.exists_decode_iff {body : Octets} :
    (∃ load, BssLoad.decode body = .ok load) ↔ body.length = 5 := by
  constructor
  · rintro ⟨load, h⟩
    unfold BssLoad.decode at h
    split at h
    · rfl
    · cases h
  · intro h
    match body, h with
    | [_, _, _, _, _], _ => exact ⟨_, rfl⟩

theorem BssLoad.length_ne_of_decode {body : Octets} {flaw : Flaw}
    (h : BssLoad.decode body = .error flaw) : body.length ≠ 5 := by
  intro hl
  obtain ⟨load, ho⟩ := exists_decode_iff.mpr hl
  rw [ho] at h
  cases h

theorem RoamingConsortium.exists_decode_iff {body : Octets} :
    (∃ rc, RoamingConsortium.decode body = .ok rc) ↔ LengthsFit body := by
  match body with
  | [] => simp [decode, LengthsFit]
  | [_] => simp [decode, LengthsFit]
  | queryable :: lengths :: bs =>
    simp only [decode, LengthsFit, List.length_cons, List.getD_cons_succ, List.getD_cons_zero]
    split
    · simp only [reduceCtorEq, exists_false, false_iff, not_and]
      omega
    · simp only [Except.ok.injEq, exists_eq', true_iff]
      omega

theorem RoamingConsortium.not_lengthsFit_of_decode {body : Octets} {flaw : Flaw}
    (h : RoamingConsortium.decode body = .error flaw) : ¬ LengthsFit body := by
  intro hl
  obtain ⟨rc, ho⟩ := exists_decode_iff.mpr hl
  rw [ho] at h
  cases h

theorem Interworking.decode?_eq_none_iff {body : Octets} :
    Interworking.decode? body = none ↔ body = [] := by
  cases body <;> simp [decode?]

theorem Interworking.ne_nil_of_decode? {body : Octets} {i : Interworking}
    (h : Interworking.decode? body = some i) : body ≠ [] := by
  intro hb
  rw [decode?_eq_none_iff.mpr hb] at h
  cases h

theorem Indication.settings?_eq_none_iff {body : Octets} :
    Indication.settings? body = none ↔ ¬ IsSigned body := by
  match body with
  | [] | [_] | [_, _] | [_, _, _] | [_, _, _, _] => simp [settings?, IsSigned]
  | a :: b :: c :: d :: settings :: rest =>
    simp only [settings?, signature, IsSigned, List.length_cons, List.cons_prefix_cons,
      List.nil_prefix, List.cons.injEq, and_true]
    split <;> simp_all [eq_comm]

theorem Indication.decode?_eq_none_iff {body : Octets} :
    Indication.decode? body = none ↔ ¬ IsSigned body := by
  rw [decode?, Option.map_eq_none_iff, settings?_eq_none_iff]

theorem Indication.isSigned_of_decode? {body : Octets} {i : Indication}
    (h : Indication.decode? body = some i) : IsSigned body := by
  refine Decidable.by_contra fun hn => ?_
  rw [decode?_eq_none_iff.mpr hn] at h
  cases h

/-! ## What a record tells -/

/-- The finding that a record stands for, by its tag and what its decoder gives. -/
inductive Tells (r : Record) : Finding → Prop
  | name (ht : r.tag = 0) : Tells r (.name r.body)
  | bssLoad {load : BssLoad} (ht : r.tag = 11) (hd : BssLoad.decode r.body = .ok load) :
      Tells r (.bssLoad load)
  | interworking {i : Interworking} (ht : r.tag = 107)
      (hd : Interworking.decode? r.body = some i) : Tells r (.interworking i)
  | nothing (ht : r.tag = 107) (hd : Interworking.decode? r.body = none) : Tells r .nothing
  | roamingConsortium {rc : RoamingConsortium} (ht : r.tag = 111)
      (hd : RoamingConsortium.decode r.body = .ok rc) : Tells r (.roamingConsortium rc)
  | capabilities (ht : r.tag = 127) : Tells r (.capabilities (Capabilities.decode r.body))
  | indication {i : Indication} (ht : r.tag = 221) (hd : Indication.decode? r.body = some i) :
      Tells r (.indication i)
  | foreign (ht : r.tag = 221) (hd : Indication.decode? r.body = none) : Tells r .unknown
  | unknown (ht : r.tag ∉ readTags) : Tells r .unknown

/-- The flaw that a decoder finds in the body of a record. -/
inductive Refused (r : Record) : Flaw → Prop
  | bssLoad {flaw : Flaw} (ht : r.tag = 11) (hd : BssLoad.decode r.body = .error flaw) :
      Refused r flaw
  | roamingConsortium {flaw : Flaw} (ht : r.tag = 111)
      (hd : RoamingConsortium.decode r.body = .error flaw) : Refused r flaw

section Dispatch

variable {r : Record}

theorem ofRecord_name (ht : r.tag = 0) : Finding.ofRecord r = .ok (.name r.body) := by
  rw [Finding.ofRecord, ht]; rfl

theorem ofRecord_bssLoad (ht : r.tag = 11) :
    Finding.ofRecord r = .bssLoad <$> BssLoad.decode r.body := by
  rw [Finding.ofRecord, ht]; rfl

theorem ofRecord_interworking (ht : r.tag = 107) :
    Finding.ofRecord r = .ok (.ofOption .nothing .interworking (Interworking.decode? r.body)) := by
  rw [Finding.ofRecord, ht]; rfl

theorem ofRecord_roamingConsortium (ht : r.tag = 111) :
    Finding.ofRecord r = .roamingConsortium <$> RoamingConsortium.decode r.body := by
  rw [Finding.ofRecord, ht]; rfl

theorem ofRecord_capabilities (ht : r.tag = 127) :
    Finding.ofRecord r = .ok (.capabilities (Capabilities.decode r.body)) := by
  rw [Finding.ofRecord, ht]; rfl

theorem ofRecord_vendor (ht : r.tag = 221) :
    Finding.ofRecord r = .ok (.ofOption .unknown .indication (Indication.decode? r.body)) := by
  rw [Finding.ofRecord, ht]; rfl

theorem ofRecord_unknown (ht : r.tag ∉ readTags) : Finding.ofRecord r = .ok .unknown := by
  simp_all [Finding.ofRecord, readTags]

/-- Reading a record finds what it tells, or the flaw it is refused for. -/
theorem ofRecord_spec (r : Record) :
    match Finding.ofRecord r with
    | .ok f => Tells r f
    | .error flaw => Refused r flaw := by
  by_cases hk : r.tag ∈ readTags
  · simp only [readTags, List.mem_cons, List.not_mem_nil, or_false] at hk
    rcases hk with ht | ht | ht | ht | ht | ht
    · rw [ofRecord_name ht]
      exact .name ht
    · rw [ofRecord_bssLoad ht]
      cases hd : BssLoad.decode r.body with
      | error flaw => exact .bssLoad ht hd
      | ok load => exact .bssLoad ht hd
    · rw [ofRecord_interworking ht]
      cases hd : Interworking.decode? r.body with
      | none => exact .nothing ht hd
      | some i => exact .interworking ht hd
    · rw [ofRecord_roamingConsortium ht]
      cases hd : RoamingConsortium.decode r.body with
      | error flaw => exact .roamingConsortium ht hd
      | ok rc => exact .roamingConsortium ht hd
    · rw [ofRecord_capabilities ht]
      exact .capabilities ht
    · rw [ofRecord_vendor ht]
      cases hd : Indication.decode? r.body with
      | none => exact .foreign ht hd
      | some i => exact .indication ht hd
  · rw [ofRecord_unknown hk]
    exact .unknown hk

theorem ofRecord_eq_ok_iff {f : Finding} : Finding.ofRecord r = .ok f ↔ Tells r f := by
  constructor
  · intro h
    simpa only [h] using ofRecord_spec r
  · intro h
    cases h with
    | name ht => exact ofRecord_name ht
    | bssLoad ht hd => rw [ofRecord_bssLoad ht, hd]; rfl
    | interworking ht hd | nothing ht hd => rw [ofRecord_interworking ht, hd]; rfl
    | roamingConsortium ht hd => rw [ofRecord_roamingConsortium ht, hd]; rfl
    | capabilities ht => exact ofRecord_capabilities ht
    | indication ht hd | foreign ht hd => rw [ofRecord_vendor ht, hd]; rfl
    | unknown ht => exact ofRecord_unknown ht

theorem ofRecord_eq_error_iff {flaw : Flaw} :
    Finding.ofRecord r = .error flaw ↔ Refused r flaw := by
  constructor
  · intro h
    simpa only [h] using ofRecord_spec r
  · intro h
    cases h with
    | bssLoad ht hd => rw [ofRecord_bssLoad ht, hd]; rfl
    | roamingConsortium ht hd => rw [ofRecord_roamingConsortium ht, hd]; rfl

end Dispatch

/-! ## Layout and findings -/

/-- A record tells something unless a decoder refuses it. -/
theorem tells_or_refused (r : Record) : (∃ f, Tells r f) ∨ ∃ flaw, Refused r flaw := by
  cases h : Finding.ofRecord r with
  | ok f => exact .inl ⟨f, ofRecord_eq_ok_iff.mp h⟩
  | error flaw => exact .inr ⟨flaw, ofRecord_eq_error_iff.mp h⟩

theorem Refused.not_wellFormed {r : Record} {flaw : Flaw} (h : Refused r flaw) :
    ¬ WellFormed r := by
  rintro ⟨hb, hr⟩
  cases h with
  | bssLoad ht hd => exact BssLoad.length_ne_of_decode hd (hb ht)
  | roamingConsortium ht hd => exact RoamingConsortium.not_lengthsFit_of_decode hd (hr ht)

theorem Tells.wellFormed {r : Record} {f : Finding} (h : Tells r f) : WellFormed r := by
  constructor
  · intro ht
    cases h with
    | bssLoad _ hd => exact BssLoad.exists_decode_iff.mp ⟨_, hd⟩
    | unknown hn => exact absurd (ht ▸ by decide) hn
    | _ => simp_all
  · intro ht
    cases h with
    | roamingConsortium _ hd => exact RoamingConsortium.exists_decode_iff.mp ⟨_, hd⟩
    | unknown hn => exact absurd (ht ▸ by decide) hn
    | _ => simp_all

/-- A record keeps its layout exactly if it tells something. -/
theorem wellFormed_iff_tells {r : Record} : WellFormed r ↔ ∃ f, Tells r f := by
  refine ⟨fun h => ?_, fun ⟨_, h⟩ => h.wellFormed⟩
  rcases tells_or_refused r with ht | ⟨flaw, hr⟩
  · exact ht
  · exact absurd h hr.not_wellFormed

theorem not_wellFormed_iff_refused {r : Record} : ¬ WellFormed r ↔ ∃ flaw, Refused r flaw := by
  refine ⟨fun h => ?_, fun ⟨_, h⟩ => h.not_wellFormed⟩
  rcases tells_or_refused r with ⟨f, ht⟩ | hr
  · exact absurd ht.wellFormed h
  · exact hr

end Passpoint.Element
