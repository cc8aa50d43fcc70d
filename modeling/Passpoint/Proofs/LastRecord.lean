import Passpoint.Proofs.Acceptance

/-! The last record of a kind decides. Six fields of the findings are filled while a buffer is read.
Each of them listens to the records of one kind and forgets what it held when such a record comes;
an Interworking element without octets and another vendor's element are of no kind. -/

namespace Passpoint.Element

/-- A field is absent exactly if no record satisfies `p`, and holds what the last record that does
gives otherwise. -/
structure LastDecides {α : Type} (p : Record → Prop) (gives : Octets → α → Prop)
    (rs : List Record) (field : Option α) : Prop where
  absent : field = none ↔ ∀ r ∈ rs, ¬ p r
  given : ∀ a, field = some a → ∃ before r after, rs = before ++ r :: after ∧ p r ∧
    (∀ x ∈ after, ¬ p x) ∧ gives r.body a

section Steps

variable {α : Type} {p : Record → Prop} {gives : Octets → α → Prop} {rs : List Record}
  {field : Option α} {r : Record}

theorem LastDecides.start : LastDecides p gives [] none :=
  ⟨by simp, by simp⟩

/-- A record of the kind replaces what was there. -/
theorem LastDecides.replaced {a : α} (hp : p r) (hg : gives r.body a) :
    LastDecides p gives (rs ++ [r]) (some a) where
  absent := by
    constructor
    · intro h
      cases h
    · intro h
      exact absurd hp (h r (by simp))
  given b hb := by
    cases hb
    exact ⟨rs, r, [], rfl, hp, by simp, hg⟩

/-- Any other record leaves it alone. -/
theorem LastDecides.kept (h : LastDecides p gives rs field) (hp : ¬ p r) :
    LastDecides p gives (rs ++ [r]) field where
  absent := by
    rw [h.absent]
    constructor
    · intro hn x hx
      rcases List.mem_append.mp hx with hx | hx
      · exact hn x hx
      · rw [List.mem_singleton.mp hx]
        exact hp
    · intro hn x hx
      exact hn x (List.mem_append_left _ hx)
  given a ha := by
    obtain ⟨before, x, after, rfl, hx, hn, hg⟩ := h.given a ha
    refine ⟨before, x, after ++ [r], by simp, hx, ?_, hg⟩
    intro y hy
    rcases List.mem_append.mp hy with hy | hy
    · exact hn y hy
    · rw [List.mem_singleton.mp hy]
      exact hp

end Steps

/-! ## Fields -/

/-- A field of the findings: what a finding tells it, and the records that tell it something. -/
structure Field (α : Type) where
  get : Findings → Option α
  told : Finding → Option α
  listens : Record → Prop
  gives : Octets → α → Prop
  get_start : get {} = none
  get_add : ∀ s size f, get (s.add size f) = (told f).or (get s)
  deaf : ∀ r f, Tells r f → told f = none → ¬ listens r
  hears : ∀ r f a, Tells r f → told f = some a → listens r ∧ gives r.body a

/-- What the records so far told last is what the field holds. -/
theorem Field.lastDecides {α : Type} (F : Field α) {rs : List Record} {s : Findings}
    (h : Reads rs s) : LastDecides F.listens F.gives rs (F.get s) := by
  induction h with
  | start =>
    rw [F.get_start]
    exact .start
  | @record before s r f _ ht ih =>
    rw [F.get_add]
    cases hf : F.told f with
    | none => exact ih.kept (F.deaf r f ht hf)
    | some a =>
      obtain ⟨hl, hg⟩ := F.hears r f a ht hf
      exact .replaced hl hg

theorem ne_of_notMem_readTags {t u : UInt8} (h : t ∉ readTags) (hu : u ∈ readTags) : t ≠ u :=
  fun he => h (he ▸ hu)

def nameField : Field Octets where
  get := Findings.name
  told
    | .name octets => some octets
    | _ => none
  listens r := r.tag = 0
  gives body octets := octets = body
  get_start := rfl
  get_add s _ f := by cases f <;> rfl
  deaf r f ht hf := by
    cases ht with
    | unknown hn => exact ne_of_notMem_readTags hn (by decide)
    | _ => simp_all
  hears r f a ht hf := by cases ht <;> simp_all

def bssLoadField : Field BssLoad where
  get := Findings.bssLoad
  told
    | .bssLoad load => some load
    | _ => none
  listens r := r.tag = 11
  gives body load := BssLoad.decode body = .ok load
  get_start := rfl
  get_add s _ f := by cases f <;> rfl
  deaf r f ht hf := by
    cases ht with
    | unknown hn => exact ne_of_notMem_readTags hn (by decide)
    | _ => simp_all
  hears r f a ht hf := by cases ht <;> simp_all

/-- An Interworking element without octets is not heard. -/
def interworkingField : Field Interworking where
  get := Findings.interworking
  told
    | .interworking i => some i
    | _ => none
  listens r := r.tag = 107 ∧ r.body ≠ []
  gives body i := Interworking.decode? body = some i
  get_start := rfl
  get_add s _ f := by cases f <;> rfl
  deaf r f ht hf := by
    cases ht with
    | unknown hn => exact fun hl => ne_of_notMem_readTags hn (by decide) hl.1
    | nothing _ hd => exact fun hl => hl.2 (Interworking.decode?_eq_none_iff.mp hd)
    | _ => simp_all
  hears r f a ht hf := by
    cases ht with
    | interworking ht hd =>
      cases hf
      exact ⟨⟨ht, Interworking.ne_nil_of_decode? hd⟩, hd⟩
    | _ => simp_all

def roamingConsortiumField : Field RoamingConsortium where
  get := Findings.roamingConsortium
  told
    | .roamingConsortium rc => some rc
    | _ => none
  listens r := r.tag = 111
  gives body rc := RoamingConsortium.decode body = .ok rc
  get_start := rfl
  get_add s _ f := by cases f <;> rfl
  deaf r f ht hf := by
    cases ht with
    | unknown hn => exact ne_of_notMem_readTags hn (by decide)
    | _ => simp_all
  hears r f a ht hf := by cases ht <;> simp_all

/-- Another vendor's element is not heard. -/
def indicationField : Field Indication where
  get := Findings.indication
  told
    | .indication i => some i
    | _ => none
  listens r := r.tag = 221 ∧ IsSigned r.body
  gives body i := Indication.decode? body = some i
  get_start := rfl
  get_add s _ f := by cases f <;> rfl
  deaf r f ht hf := by
    cases ht with
    | unknown hn => exact fun hl => ne_of_notMem_readTags hn (by decide) hl.1
    | foreign _ hd => exact fun hl => Indication.decode?_eq_none_iff.mp hd hl.2
    | _ => simp_all
  hears r f a ht hf := by
    cases ht with
    | indication ht hd =>
      cases hf
      exact ⟨⟨ht, Indication.isSigned_of_decode? hd⟩, hd⟩
    | _ => simp_all

def capabilitiesField : Field Nat where
  get := Findings.capabilities
  told
    | .capabilities bits => some bits
    | _ => none
  listens r := r.tag = 127
  gives body bits := bits = Capabilities.decode body
  get_start := rfl
  get_add s _ f := by cases f <;> rfl
  deaf r f ht hf := by
    cases ht with
    | unknown hn => exact ne_of_notMem_readTags hn (by decide)
    | _ => simp_all
  hears r f a ht hf := by cases ht <;> simp_all

/-! ## The rule for all fields -/

/-- **Every field is decided by the last record of its kind alone.** Earlier records of the kind
leave no trace in it, and an empty Interworking element or another vendor's element changes
nothing. -/
theorem scan_decided_by_last {data : Octets} {s : Findings} (h : scan data = .ok s) :
    ∃ rs, data = Record.encodeAll rs ∧
      LastDecides (·.tag = 0) (fun body octets => octets = body) rs s.name ∧
      LastDecides (·.tag = 11) (fun body load => BssLoad.decode body = .ok load) rs s.bssLoad ∧
      LastDecides (·.tag = 111) (fun body rc => RoamingConsortium.decode body = .ok rc) rs
        s.roamingConsortium ∧
      LastDecides (·.tag = 127) (fun body bits => bits = Capabilities.decode body) rs
        s.capabilities ∧
      LastDecides (fun r => r.tag = 107 ∧ r.body ≠ [])
        (fun body i => Interworking.decode? body = some i) rs s.interworking ∧
      LastDecides (fun r => r.tag = 221 ∧ IsSigned r.body)
        (fun body i => Indication.decode? body = some i) rs s.indication := by
  obtain ⟨rs, hd, hr⟩ := scan_eq_ok_iff.mp h
  exact ⟨rs, hd, nameField.lastDecides hr, bssLoadField.lastDecides hr,
    roamingConsortiumField.lastDecides hr, capabilitiesField.lastDecides hr,
    interworkingField.lastDecides hr, indicationField.lastDecides hr⟩

/-- Two names, a long and a short Interworking element and an empty one, and another vendor's
element behind an indication. -/
theorem scan_decided_by_last_repeated :
    ∃ rs : List Record,
      [0, 1, 0x61, 107, 9, 0x1E, 10, 1, 0x61, 4, 8, 0x62, 0x12, 5, 107, 1, 3, 107, 0,
        221, 5, 0x50, 0x6F, 0x9A, 0x10, 0, 221, 1, 7, 0, 1, 0x62] = Record.encodeAll rs ∧
      LastDecides (·.tag = 0) (fun body octets => octets = body) rs (some [0x62]) ∧
      LastDecides (fun r => r.tag = 107 ∧ r.body ≠ [])
        (fun body i => Interworking.decode? body = some i) rs
        (some ⟨.freePublic, false, none, 0⟩) ∧
      LastDecides (fun r => r.tag = 221 ∧ IsSigned r.body)
        (fun body i => Indication.decode? body = some i) rs (some ⟨.r1, none⟩) := by
  have h : scan [0, 1, 0x61, 107, 9, 0x1E, 10, 1, 0x61, 4, 8, 0x62, 0x12, 5, 107, 1, 3, 107, 0,
      221, 5, 0x50, 0x6F, 0x9A, 0x10, 0, 221, 1, 7, 0, 1, 0x62] =
      .ok { name := some [0x62], interworking := some ⟨.freePublic, false, none, 0⟩,
            indication := some ⟨.r1, none⟩, seen := 7, skipped := 1, consumed := 32 } := by
    decide +kernel
  obtain ⟨rs, hd, hn, -, -, -, hi, hs⟩ := scan_decided_by_last h
  exact ⟨rs, hd, hn, hi, hs⟩

end Passpoint.Element
