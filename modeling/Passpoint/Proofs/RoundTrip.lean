import Passpoint.Proofs.LastRecord
import Passpoint.Proofs.Sent

/-! Reading what was sent. An announcement is any choice of the six elements, each sent as one
record. Whatever the order of the records, and whatever records of other tags stand between them,
a scan finds exactly what the announcement means. -/

namespace Passpoint.Element

/-! ## Announcements -/

/-- What a station announces; an element that is absent is not sent. -/
structure Announcement where
  name : Option {octets : Octets // octets.length ≤ 255}
  bssLoad : Option BssLoad
  interworking : Option Interworking.Sent
  roamingConsortium : Option RoamingConsortium.Sent
  indication : Option Indication.Sent
  capabilities : Option {octets : Octets // octets.length ≤ 8}

namespace Announcement

/-- The record of an announcement that has a tag. -/
def record? (a : Announcement) (tag : UInt8) : Option Record :=
  match tag with
  | 0 => a.name.map nameRecord
  | 11 => a.bssLoad.map BssLoad.record
  | 107 => a.interworking.map Interworking.Sent.record
  | 111 => a.roamingConsortium.map RoamingConsortium.Sent.record
  | 127 => a.capabilities.map capabilitiesRecord
  | 221 => a.indication.map Indication.Sent.record
  | _ => none

/-- The records of an announcement, in the order of their tags. -/
def records (a : Announcement) : List Record := readTags.filterMap a.record?

theorem tag_of_record? {a : Announcement} {tag : UInt8} {r : Record}
    (h : a.record? tag = some r) : r.tag = tag := by
  unfold record? at h
  split at h
  case h_7 => cases h
  all_goals
    obtain ⟨_, _, rfl⟩ := Option.map_eq_some_iff.mp h
    rfl

theorem mem_records_iff {a : Announcement} {r : Record} :
    r ∈ a.records ↔ r.tag ∈ readTags ∧ a.record? r.tag = some r := by
  rw [records, List.mem_filterMap]
  constructor
  · rintro ⟨tag, ht, h⟩
    rw [tag_of_record? h]
    exact ⟨ht, h⟩
  · rintro ⟨ht, h⟩
    exact ⟨r.tag, ht, h⟩

/-- A record that is announced tells something, and is not skipped. -/
theorem tells_of_mem_records {a : Announcement} {r : Record} (h : r ∈ a.records) :
    ∃ f, Tells r f ∧ f ≠ .unknown := by
  obtain ⟨-, hr⟩ := mem_records_iff.mp h
  unfold record? at hr
  split at hr
  · obtain ⟨octets, _, rfl⟩ := Option.map_eq_some_iff.mp hr
    exact ⟨_, .name rfl, by simp⟩
  · obtain ⟨load, _, rfl⟩ := Option.map_eq_some_iff.mp hr
    exact ⟨_, .bssLoad rfl load.decode_body, by simp⟩
  · obtain ⟨w, _, rfl⟩ := Option.map_eq_some_iff.mp hr
    exact ⟨_, .interworking rfl w.decode?_body, by simp⟩
  · obtain ⟨w, _, rfl⟩ := Option.map_eq_some_iff.mp hr
    exact ⟨_, .roamingConsortium rfl w.decode_body, by simp⟩
  · obtain ⟨octets, _, rfl⟩ := Option.map_eq_some_iff.mp hr
    exact ⟨_, .capabilities rfl, by simp⟩
  · obtain ⟨w, _, rfl⟩ := Option.map_eq_some_iff.mp hr
    exact ⟨_, .indication rfl w.decode?_body, by simp⟩
  · cases hr

end Announcement

/-! ## Reading an announcement -/

/-- A field whose tag is sent at most once holds what was sent. -/
theorem LastDecides.eq_map {α β : Type} {p : Record → Prop} {gives : Octets → α → Prop}
    {rs : List Record} {field : Option α} {tag : UInt8} {sent : Option β} {record : β → Record}
    {means : β → α} (h : LastDecides p gives rs field)
    (hs : ∀ r, (r ∈ rs ∧ r.tag = tag) ↔ sent.map record = some r)
    (ht : ∀ r, p r → r.tag = tag) (hp : ∀ b, p (record b))
    (hg : ∀ b a, gives (record b).body a → a = means b) : field = sent.map means := by
  cases sent with
  | none =>
    refine h.absent.mpr fun r hr hpr => ?_
    cases (hs r).mp ⟨hr, ht r hpr⟩
  | some b =>
    cases field with
    | none => exact absurd (hp b) (h.absent.mp rfl _ ((hs (record b)).mpr rfl).1)
    | some a =>
      obtain ⟨before, r, after, rfl, hr, -, ha⟩ := h.given a rfl
      cases (hs r).mp ⟨by simp, ht r hr⟩
      rw [hg b a ha, Option.map_some]

section Reading

variable {a : Announcement} {others rs : List Record}

/-- The records of a tag that is read are those announced. -/
theorem mem_and_tag_iff (ho : ∀ r ∈ others, r.tag ∉ readTags) (hp : rs.Perm (a.records ++ others))
    (tag : UInt8) (ht : tag ∈ readTags) (r : Record) :
    (r ∈ rs ∧ r.tag = tag) ↔ a.record? tag = some r := by
  rw [hp.mem_iff, List.mem_append, Announcement.mem_records_iff]
  constructor
  · rintro ⟨⟨-, h⟩ | h, rfl⟩
    · exact h
    · exact absurd ht (ho r h)
  · intro h
    have hr := Announcement.tag_of_record? h
    rw [hr]
    exact ⟨.inl ⟨ht, h⟩, rfl⟩

theorem wellFormed_of_announced (ho : ∀ r ∈ others, r.tag ∉ readTags)
    (hp : rs.Perm (a.records ++ others)) : ∀ r ∈ rs, WellFormed r := by
  intro r hr
  rcases List.mem_append.mp (hp.mem_iff.mp hr) with hr | hr
  · obtain ⟨f, hf, -⟩ := Announcement.tells_of_mem_records hr
    exact hf.wellFormed
  · exact (Tells.unknown (ho r hr)).wellFormed

theorem countP_skipped_of_announced (ho : ∀ r ∈ others, r.tag ∉ readTags)
    (hp : rs.Perm (a.records ++ others)) : rs.countP (IsSkipped ·) = others.length := by
  have ha : a.records.countP (IsSkipped ·) = 0 := by
    refine List.countP_eq_zero.mpr fun r hr => ?_
    obtain ⟨f, hf, hn⟩ := Announcement.tells_of_mem_records hr
    simpa using fun hs => hn (hf.eq_unknown_iff.mpr hs)
  have hs : others.countP (IsSkipped ·) = others.length :=
    List.countP_eq_length.mpr fun r hr => decide_eq_true (.inl (ho r hr))
  rw [hp.countP_eq, List.countP_append, ha, hs, Nat.zero_add]

/-- **A scan undoes sending.** The records of an announcement are sent in any order, with any
records of other tags between them; the buffer is accepted, and each element is found as it was
meant. What was not announced is absent: an identifier is then zero, and a domain none, which a
network shows as minus one. -/
theorem scan_announcement (ho : ∀ r ∈ others, r.tag ∉ readTags)
    (hp : rs.Perm (a.records ++ others)) :
    scan (Record.encodeAll rs) = .ok {
      name := a.name.map (·.1)
      bssLoad := a.bssLoad
      interworking := a.interworking.map (·.means)
      roamingConsortium := a.roamingConsortium.map (·.means)
      indication := a.indication.map (·.means)
      capabilities := a.capabilities.map fun octets =>
        Nat.ofDigits 256 (octets.1.map UInt8.toNat)
      seen := rs.length
      skipped := others.length
      consumed := (Record.encodeAll rs).length } := by
  obtain ⟨s, hr⟩ := exists_reads_iff.mpr (wellFormed_of_announced ho hp)
  have hm := mem_and_tag_iff ho hp
  have hname : s.name = a.name.map (·.1) :=
    (nameField.lastDecides hr).eq_map (hm 0 (by decide)) (fun _ h => h) (fun _ => rfl)
      fun _ _ h => h
  have hload : s.bssLoad = a.bssLoad.map id := by
    refine (bssLoadField.lastDecides hr).eq_map (hm 11 (by decide)) (fun _ h => h) (fun _ => rfl)
      fun load _ h => ?_
    exact Except.ok.inj (h.symm.trans load.decode_body)
  have hinterworking : s.interworking = a.interworking.map (·.means) := by
    refine (interworkingField.lastDecides hr).eq_map (hm 107 (by decide)) (fun _ h => h.1)
      (fun w => ⟨rfl, List.cons_ne_nil _ _⟩) fun w _ h => ?_
    exact Option.some.inj (h.symm.trans w.decode?_body)
  have hconsortium : s.roamingConsortium = a.roamingConsortium.map (·.means) := by
    refine (roamingConsortiumField.lastDecides hr).eq_map (hm 111 (by decide)) (fun _ h => h)
      (fun _ => rfl) fun w _ h => ?_
    exact Except.ok.inj (h.symm.trans w.decode_body)
  have hindication : s.indication = a.indication.map (·.means) := by
    refine (indicationField.lastDecides hr).eq_map (hm 221 (by decide)) (fun _ h => h.1)
      (fun w => ⟨rfl, w.isSigned_body⟩) fun w _ h => ?_
    exact Option.some.inj (h.symm.trans w.decode?_body)
  have hcapabilities : s.capabilities =
      a.capabilities.map fun octets => Nat.ofDigits 256 (octets.1.map UInt8.toNat) :=
    (capabilitiesField.lastDecides hr).eq_map (hm 127 (by decide)) (fun _ h => h) (fun _ => rfl)
      fun octets _ h => h.trans (Capabilities.decode_eq_ofDigits octets.2)
  obtain ⟨hseen, hconsumed, hskipped⟩ := hr.counts
  rw [countP_skipped_of_announced ho hp] at hskipped
  rw [scan_encodeAll, absorb_eq_ok_iff.mpr hr]
  obtain ⟨_, _, _, _, _, _, _, _, _⟩ := s
  simp_all

end Reading

/-- All six elements, with bits set that mean nothing. -/
def fullAnnouncement : Announcement where
  name := some ⟨[0x77, 0x69, 0x6E, 0x67], by decide⟩
  bssLoad := some ⟨42, 207, 7777⟩
  interworking := some ⟨.experimental, true, 5, some (10, 1), some 0x610408621205⟩
  roamingConsortium :=
    some ⟨14, [1, 0x11, 0x11], [], [0x22, 0x22, 0x22, 0x22, 0x29], by decide, by decide, by decide⟩
  indication := some ⟨1, some 314, 3, true⟩
  capabilities := some ⟨[0, 0, 0, 0, 0, 0, 1], by decide⟩

/-- The rates of a network, which are not read. -/
def rates : Record := ⟨1, [0x82, 0x84], by decide⟩

/-- Sent backwards, behind the rates. -/
theorem scan_announcement_backwards :
    (∀ r ∈ [rates], r.tag ∉ readTags) ∧
    scan (Record.encodeAll (fullAnnouncement.records ++ [rates]).reverse) =
      .ok {
        name := some [0x77, 0x69, 0x6E, 0x67]
        bssLoad := some ⟨42, 207, 7777⟩
        interworking :=
          some ⟨.experimental, true, some ⟨.vehicular, .automobileOrTruck⟩, 0x610408621205⟩
        roamingConsortium := some ⟨14, [0x011111, 0x2222222229]⟩
        indication := some ⟨.r2, some 314⟩
        capabilities := some 0x1000000000000
        seen := 7
        skipped := 1
        consumed := 58 } := by
  have ho : ∀ r ∈ [rates], r.tag ∉ readTags := by decide
  have hs := scan_announcement (a := fullAnnouncement) ho (List.reverse_perm _)
  exact ⟨ho, hs.trans (by decide +kernel)⟩

end Passpoint.Element
