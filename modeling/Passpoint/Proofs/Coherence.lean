import Passpoint.Proofs.AddressText
import Passpoint.Proofs.LastRecord
import Passpoint.Proofs.Sent

/-! What holds of every network that a buffer describes. Its numbers fit the bits that they are sent
in, and fields that come from one element are there or missing together. Other answers to queries
change none of this, and whether a network tells anything about roaming or hotspots is a matter of
the records of its buffer. -/

namespace Passpoint

/-! ## Numbers -/

theorem littleEndian_lt (bs : Octets) : littleEndian bs < 256 ^ bs.length := by
  induction bs with
  | nil => decide
  | cons b bs ih =>
    have hb := b.toNat_lt
    rw [littleEndian, List.length_cons, Nat.pow_succ]
    omega

theorem bigEndian_lt (bs : Octets) : bigEndian bs < 256 ^ bs.length := by
  have h := littleEndian_lt bs.reverse
  rwa [← bigEndian_reverse, List.reverse_reverse, List.length_reverse] at h

theorem littleEndian_take_lt (k : Nat) (bs : Octets) : littleEndian (bs.take k) < 256 ^ k :=
  Nat.lt_of_lt_of_le (littleEndian_lt _)
    (Nat.pow_le_pow_right (by decide) (List.length_take_le k bs))

theorem bigEndian_take_lt (k : Nat) (bs : Octets) : bigEndian (bs.take k) < 256 ^ k :=
  Nat.lt_of_lt_of_le (bigEndian_lt _)
    (Nat.pow_le_pow_right (by decide) (List.length_take_le k bs))

theorem Address.ofDigits_lt {ds : List Nat} (h : ∀ d ∈ ds, d < 16) :
    ofDigits ds < 16 ^ ds.length := by
  induction ds using List.reverseRecOn with
  | nil => decide
  | append_singleton ds d ih =>
    have hd : d < 16 := h d (by simp)
    have hs := ih fun x hx => h x (by simp [hx])
    rw [ofDigits_concat, List.length_append, List.length_singleton, Nat.pow_succ]
    omega

theorem Address.parse?_lt {text : Option String} {n : Nat} (h : parse? text = .ok n) :
    n < 2 ^ 48 := by
  cases text with
  | none => cases h
  | some text =>
    by_cases hl : (digitsOf text.toList).length = digitCount
    · rw [parse?, parse, if_pos hl] at h
      cases h
      have hd : ∀ d ∈ digitsOf text.toList, d < 16 := by
        intro d hd
        obtain ⟨c, -, hc⟩ := List.mem_filterMap.mp hd
        exact Text.hexValue?_lt hc
      simpa [hl, digitCount] using ofDigits_lt hd
    · rw [parse?, parse, if_neg hl] at h
      cases h

/-- A number of so many bits. -/
def Fits (bits : Nat) (n : Int) : Prop := 0 ≤ n ∧ n < 2 ^ bits

theorem fits_natCast {bits n : Nat} (h : n < 2 ^ bits) : Fits bits (n : Int) :=
  ⟨Int.natCast_nonneg n, by exact_mod_cast h⟩

/-- A field that may be missing is zero then. -/
theorem fits_elim {α : Type} {bits : Nat} {o : Option α} {f : α → Nat}
    (h : ∀ a ∈ o, f a < 2 ^ bits) : Fits bits (o.elim 0 fun a => (f a : Int)) := by
  cases o with
  | none => exact fits_natCast (Nat.two_pow_pos bits)
  | some a => exact fits_natCast (h a rfl)

/-! ## Venues -/

/-- A kind of venue other than `reserved` stands in the table of its group. -/
theorem VenueType.mem_ofGroup {group code : Int} (h : ofCode group code ≠ .reserved) :
    ofCode group code ∈ ofGroup (.ofCode group) := by
  rw [ofCode] at h ⊢
  split
  · rename_i hc
    exact absurd (if_pos hc) h
  · rename_i hc
    rw [if_neg hc, List.getD_eq_getElem?_getD] at h
    rw [List.getD_eq_getElem?_getD]
    cases hg : (ofGroup (.ofCode group))[code.toNat]? with
    | none => rw [hg] at h; exact absurd rfl h
    | some t => exact List.mem_of_getElem? hg

/-- The kind of a venue is `reserved` or stands in the table of its group. -/
def Venue.InTable (v : Venue) : Prop := v.kind ≠ .reserved → v.kind ∈ VenueType.ofGroup v.group

theorem Venue.inTable_of_ofField? {field : Octets} {v : Venue} (h : ofField? field = some v) :
    v.InTable := by
  match field, h with
  | group :: code :: _, h =>
    cases h
    exact @VenueType.mem_ofGroup group.toNat code.toNat

namespace Element

/-! ## Decoded elements -/

theorem Interworking.hessid_lt {body : Octets} {i : Interworking} (h : decode? body = some i) :
    i.hessid < 2 ^ 48 := by
  match body, h with
  | options :: fields, h =>
    cases h
    dsimp only
    split
    · exact bigEndian_take_lt 6 _
    · decide

theorem Interworking.venue_inTable {body : Octets} {i : Interworking} (h : decode? body = some i) :
    ∀ v ∈ i.venue, v.InTable := by
  match body, h with
  | options :: fields, h =>
    cases h
    dsimp only
    intro v hv
    split at hv
    · exact Venue.inTable_of_ofField? hv
    · cases hv

theorem RoamingConsortium.length_identifiers_le {body : Octets} {rc : RoamingConsortium}
    (h : decode body = .ok rc) : rc.identifiers.length ≤ 3 := by
  match body, h with
  | queryable :: lengths :: bs, h =>
    simp only [decode] at h
    split at h
    · cases h
    · cases h
      rw [List.length_map, parts]
      exact List.length_filter_le ..

theorem Capabilities.decode_lt (body : Octets) : decode body < 2 ^ 64 :=
  littleEndian_take_lt limit body

/-- What a field holds has been decoded from some body. -/
theorem Field.exists_gives {α : Type} (F : Field α) {rs : List Record} {s : Findings} {a : α}
    (h : Reads rs s) (ha : F.get s = some a) : ∃ body, F.gives body a := by
  obtain ⟨_, r, _, _, _, _, hg⟩ := (F.lastDecides h).given a ha
  exact ⟨r.body, hg⟩

theorem Field.isSome_iff {α : Type} (F : Field α) {rs : List Record} {s : Findings}
    (h : Reads rs s) : (F.get s).isSome ↔ ∃ r ∈ rs, F.listens r := by
  rw [← Option.ne_none_iff_isSome, ne_eq, (F.lastDecides h).absent]
  simp

end Element

/-! ## Networks -/

namespace Network

/-- The numbers of a network fit their bits, and its fields go together. -/
structure Coherent (n : Network) : Prop where
  bssid : Fits 48 n.bssid
  hessid : Fits 48 n.hessid
  stations : Fits 16 n.stations
  utilization : Fits 8 n.utilization
  capacity : Fits 16 n.capacity
  queryable : Fits 8 n.queryable
  capabilities : ∀ bits ∈ n.capabilities, Fits 64 bits
  domain : n.domain = -1 ∨ Fits 16 n.domain
  identifiers : ∀ is ∈ n.identifiers, is.length ≤ 3
  /-- Nothing comes from an Interworking element that is not there. -/
  of_access_none : n.access = none →
    n.internet = false ∧ n.hessid = 0 ∧ n.venueGroup = none ∧ n.venueType = none
  venue_iff : n.venueGroup = none ↔ n.venueType = none
  venueType_of_reserved : n.venueGroup = some .reserved → n.venueType = some .reserved
  venueType_mem : ∀ g ∈ n.venueGroup, ∀ t ∈ n.venueType, t ≠ .reserved → t ∈ VenueType.ofGroup g
  /-- Nothing comes from an indication that is not there. -/
  of_release_none : n.release = none → n.domain = -1
  /-- Nothing comes from a Roaming Consortium element that is not there. -/
  of_identifiers_none : n.identifiers = none → n.queryable = 0

/-- A network that a buffer describes: from an address and the buffer, or from the two texts of a
scan result that spell them, and then with other answers any number of times. -/
inductive Described (data : Octets) : Network → Prop
  | octets {bssid : Option String} {answers : Anqp.Answers} {n : Network}
      (h : ofOctets bssid data answers = .ok n) : Described data n
  | scanText {bssid elements : Option String} {answers : Anqp.Answers} {n : Network}
      (ht : Element.ScanText.parse? elements = .ok data)
      (h : ofScanText bssid elements answers = .ok n) : Described data n
  | complete {n : Network} (h : Described data n) (answers : Anqp.Answers) :
      Described data (n.complete answers)

theorem eq_ofFindings_of_ofOctets {bssid : Option String} {data : Octets} {answers : Anqp.Answers}
    {n : Network} (h : ofOctets bssid data answers = .ok n) :
    ∃ address s, Address.parse? bssid = .ok address ∧ Element.scan data = .ok s ∧
      n = ofFindings address s answers := by
  rw [ofOctets] at h
  cases ha : Address.parse? bssid with
  | error fault => rw [ha] at h; cases h
  | ok address =>
    cases hs : Element.scan data with
    | error fault => rw [ha, hs] at h; cases h
    | ok s =>
      rw [ha, hs] at h
      cases h
      exact ⟨address, s, rfl, rfl, rfl⟩

/-- Every described network is made of an address of 48 bits and what the scan has found. -/
theorem Described.exists_findings {data : Octets} {n : Network} (h : Described data n) :
    ∃ (address : Nat) (s : Element.Findings) (answers : Anqp.Answers), address < 2 ^ 48 ∧
      Element.scan data = .ok s ∧ n = ofFindings address s answers := by
  induction h with
  | @octets bssid answers n h =>
    obtain ⟨address, s, ha, hs, hn⟩ := eq_ofFindings_of_ofOctets h
    exact ⟨address, s, answers, Address.parse?_lt ha, hs, hn⟩
  | @scanText bssid elements answers n ht h =>
    rw [ofScanText, ht] at h
    obtain ⟨address, s, ha, hs, hn⟩ := eq_ofFindings_of_ofOctets h
    exact ⟨address, s, answers, Address.parse?_lt ha, hs, hn⟩
  | complete _ answers ih =>
    obtain ⟨address, s, _, ha, hs, rfl⟩ := ih
    exact ⟨address, s, answers, ha, hs, rfl⟩

theorem coherent_ofFindings {address : Nat} {s : Element.Findings} {rs : List Record}
    (ha : address < 2 ^ 48) (h : Element.Reads rs s) (answers : Anqp.Answers) :
    (ofFindings address s answers).Coherent := by
  have hinterworking : ∀ i ∈ s.interworking, i.hessid < 2 ^ 48 ∧ ∀ v ∈ i.venue, v.InTable := by
    intro i hi
    obtain ⟨body, hb⟩ := Element.interworkingField.exists_gives h hi
    exact ⟨Element.Interworking.hessid_lt hb, Element.Interworking.venue_inTable hb⟩
  have hconsortium : ∀ rc ∈ s.roamingConsortium, rc.identifiers.length ≤ 3 := by
    intro rc hr
    obtain ⟨body, hb⟩ := Element.roamingConsortiumField.exists_gives h hr
    exact Element.RoamingConsortium.length_identifiers_le hb
  have hcapabilities : ∀ bits ∈ s.capabilities, bits < 2 ^ 64 := by
    intro bits hc
    obtain ⟨body, rfl⟩ := Element.capabilitiesField.exists_gives h hc
    exact Element.Capabilities.decode_lt body
  have hvenue : ∀ v ∈ s.interworking.bind (·.venue), v.InTable := by
    intro v hv
    obtain ⟨i, hi, hv⟩ := Option.bind_eq_some_iff.mp hv
    exact (hinterworking i hi).2 v hv
  constructor
  case bssid => exact fits_natCast ha
  case hessid => exact fits_elim fun i hi => (hinterworking i hi).1
  case stations => exact fits_elim fun load _ => load.stations.toNat_lt
  case utilization => exact fits_elim fun load _ => load.utilization.toNat_lt
  case capacity => exact fits_elim fun load _ => load.capacity.toNat_lt
  case queryable => exact fits_elim fun rc _ => rc.queryable.toNat_lt
  case capabilities =>
    intro bits hb
    obtain ⟨c, hc, rfl⟩ := Option.map_eq_some_iff.mp hb
    exact fits_natCast (hcapabilities c hc)
  case domain =>
    dsimp only [ofFindings]
    cases s.indication.bind (·.domain) with
    | none => exact .inl rfl
    | some d => exact .inr (fits_natCast d.toNat_lt)
  case identifiers =>
    intro is hi
    obtain ⟨rc, hr, rfl⟩ := Option.map_eq_some_iff.mp hi
    rw [List.length_map]
    exact hconsortium rc hr
  case of_access_none =>
    intro hn
    have hi : s.interworking = none := Option.map_eq_none_iff.mp hn
    simp [ofFindings, hi]
  case venue_iff => simp [ofFindings]
  case venueType_of_reserved =>
    intro hg
    obtain ⟨v, hv, hg⟩ := Option.map_eq_some_iff.mp hg
    have ht := hvenue v hv
    -- The table of the group `reserved` is empty.
    rw [Venue.InTable, hg] at ht
    have hk : v.kind = .reserved := by
      by_contra hk
      cases ht hk
    simp [ofFindings, hv, hk]
  case venueType_mem =>
    intro g hg t ht
    obtain ⟨v, hv, rfl⟩ := Option.map_eq_some_iff.mp hg
    obtain ⟨w, hw, rfl⟩ := Option.map_eq_some_iff.mp ht
    cases hv.symm.trans hw
    exact hvenue v hv
  case of_release_none =>
    intro hn
    have hi : s.indication = none := Option.map_eq_none_iff.mp hn
    simp [ofFindings, hi]
  case of_identifiers_none =>
    intro hn
    have hr : s.roamingConsortium = none := Option.map_eq_none_iff.mp hn
    simp [ofFindings, hr]

/-- A record tells something about roaming or hotspots. -/
def IsPasspointRecord (r : Record) : Prop :=
  (r.tag = 107 ∧ r.body ≠ []) ∨ r.tag = 111 ∨ (r.tag = 221 ∧ Element.IsSigned r.body)

instance (r : Record) : Decidable (IsPasspointRecord r) :=
  inferInstanceAs (Decidable (_ ∨ _ ∨ _))

theorem isPasspoint_ofFindings_iff {address : Nat} {s : Element.Findings} {rs : List Record}
    (h : Element.Reads rs s) (answers : Anqp.Answers) :
    (ofFindings address s answers).isPasspoint ↔ ∃ r ∈ rs, IsPasspointRecord r := by
  have hi : s.interworking.isSome ↔ ∃ r ∈ rs, r.tag = 107 ∧ r.body ≠ [] :=
    Element.interworkingField.isSome_iff h
  have hr : s.roamingConsortium.isSome ↔ ∃ r ∈ rs, r.tag = 111 :=
    Element.roamingConsortiumField.isSome_iff h
  have hs : s.indication.isSome ↔ ∃ r ∈ rs, r.tag = 221 ∧ Element.IsSigned r.body :=
    Element.indicationField.isSome_iff h
  simp only [isPasspoint, ofFindings, Option.isSome_map, Bool.or_eq_true, hi, hr, hs,
    IsPasspointRecord, and_or_left, exists_or, or_assoc]

/-- **Every network that a buffer describes is coherent.** However it was built from the buffer, and
however often other answers were filled in, its numbers fit their bits and its fields go together;
and it tells something about roaming or hotspots exactly if the buffer has an Interworking element
that is not empty, a Roaming Consortium element, or a Hotspot 2.0 Indication. -/
theorem coherent_of_described {data : Octets} {n : Network} (h : Described data n) :
    n.Coherent ∧ ∃ rs, data = Record.encodeAll rs ∧
      (n.isPasspoint ↔ ∃ r ∈ rs, (r.tag = 107 ∧ r.body ≠ []) ∨ r.tag = 111 ∨
        (r.tag = 221 ∧ Element.IsSigned r.body)) := by
  obtain ⟨address, s, answers, ha, hs, rfl⟩ := h.exists_findings
  obtain ⟨rs, hd, hr⟩ := Element.scan_eq_ok_iff.mp hs
  exact ⟨coherent_ofFindings ha hr answers, rs, hd, isPasspoint_ofFindings_iff hr answers⟩

/-- An Interworking element with a venue of no known kind and an identifier, a Roaming Consortium
element without identifiers, and other answers later on. -/
theorem coherent_of_described_completed :
    ∃ n, Described [107, 9, 0x1E, 10, 99, 0x61, 4, 8, 0x62, 0x12, 5, 111, 2, 3, 0] n ∧
      n.Coherent ∧ n.isPasspoint ∧ n.venueGroup = some .vehicular ∧
      n.venueType = some .reserved := by
  have hs : Element.scan [107, 9, 0x1E, 10, 99, 0x61, 4, 8, 0x62, 0x12, 5, 111, 2, 3, 0] =
      .ok { interworking := some ⟨.experimental, true, some ⟨.vehicular, .reserved⟩, 0x610408621205⟩,
            roamingConsortium := some ⟨3, []⟩, seen := 2, consumed := 15 } := by
    decide +kernel
  have hb : HasTwelveDigits "00-11-22 33:44:5f" := by decide +kernel
  have hn : ofOctets (some "00-11-22 33:44:5f") _ .empty = .ok _ :=
    ofOctets_of_hasTwelveDigits hb hs
  have hd := (Described.octets hn).complete (.ofList [⟨.venueName, [1]⟩])
  obtain ⟨hc, rs, hr, hp⟩ := coherent_of_described hd
  have hrs : rs = [⟨107, [0x1E, 10, 99, 0x61, 4, 8, 0x62, 0x12, 5], by decide⟩,
      ⟨111, [3, 0], by decide⟩] :=
    Record.encodeAll_injective hr.symm
  subst hrs
  exact ⟨_, hd, hc, hp.mpr (by decide), rfl, rfl⟩

end Network

end Passpoint
