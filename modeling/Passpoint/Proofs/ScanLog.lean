import Passpoint.Element.Walk
import Passpoint.Proofs.FreeBits

/-! The log of a scan. A walk through a buffer gives what a scan gives, and notes what it puts up
with record by record: an empty Interworking element, an indication that lacks its domain, and
capabilities beyond the limit. No venue is ever too short, because one is only looked for where the
length leaves room for it. -/

namespace Passpoint.Element

/-! ## Steps -/

namespace Noted

variable {ε ε' α β : Type}

@[simp] theorem pure_eq (a : α) : (pure a : Noted ε α) = ⟨[], .ok a⟩ := rfl

@[simp] theorem bind_ok (ns : List Note) (a : α) (next : α → Noted ε β) :
    (⟨ns, .ok a⟩ : Noted ε α) >>= next = ⟨ns ++ (next a).notes, (next a).result⟩ := rfl

@[simp] theorem bind_error (ns : List Note) (e : ε) (next : α → Noted ε β) :
    (⟨ns, .error e⟩ : Noted ε α) >>= next = ⟨ns, .error e⟩ := rfl

end Noted

/-! ## Decoders -/

/-- A field of two octets holds a venue, so nothing is noted. -/
theorem readVenue_of_length {field : Octets} (h : 2 ≤ field.length) :
    readVenue field = ⟨[], .ok (Venue.ofField? field)⟩ := by
  rw [readVenue, if_neg (Nat.not_lt.mpr h)]
  rfl

theorem ofField?_take (field : Octets) : Venue.ofField? (field.take 2) = Venue.ofField? field := by
  match field with
  | [] | [_] | _ :: _ :: _ => rfl

/-- Where the length tells of a venue there is room for one. -/
theorem two_le_of_hasVenue {fields : Octets} (h : Interworking.hasVenue (fields.length + 1)) :
    2 ≤ (fields.take 2).length := by
  simp only [Interworking.hasVenue, Bool.or_eq_true, decide_eq_true_eq] at h
  rw [List.length_take]
  omega

theorem readInterworking_eq (body : Octets) :
    readInterworking body = ⟨notesInterworking body, .ok (Interworking.decode? body)⟩ := by
  match body with
  | [] => rfl
  | options :: fields =>
    rw [readInterworking]
    cases hv : Interworking.hasVenue (fields.length + 1) with
    | true =>
      -- A venue is only looked for in three octets and in nine, which have room for it.
      rw [if_pos rfl, readVenue_of_length (two_le_of_hasVenue hv), ofField?_take]
      simp [Interworking.decode?, notesInterworking, hv]
    | false =>
      simp [Interworking.decode?, notesInterworking, hv]

theorem readIndication_eq (body : Octets) :
    readIndication body = ⟨notesIndication body, .ok (Indication.decode? body)⟩ := by
  rw [readIndication, notesIndication, Indication.lacksDomain, Indication.decode?]
  cases hs : Indication.settings? body with
  | none => rfl
  | some p =>
    obtain ⟨settings, rest⟩ := p
    cases hf : Indication.flagsDomain settings with
    | false => simp [hf]
    | true =>
      cases hd : Indication.domain? rest <;> simp [readDomain, Noted.note, hf, hd]

theorem readCapabilities_eq (body : Octets) :
    readCapabilities body = ⟨notesCapabilities body, .ok (Capabilities.decode body)⟩ := by
  rw [readCapabilities, notesCapabilities]
  split <;> rfl

theorem notes_silent {r : Record} (ht : r.tag ∉ [107, 127, 221]) : Note.ofRecord r = [] := by
  simp_all [Note.ofRecord]

/-- A record is decoded as in a scan, with the notes of its kind. -/
theorem readBody_eq (r : Record) :
    readBody r.tag r.body = ⟨Note.ofRecord r, Finding.ofRecord r⟩ := by
  by_cases hk : r.tag ∈ readTags
  · simp only [readTags, List.mem_cons, List.not_mem_nil, or_false] at hk
    rcases hk with ht | ht | ht | ht | ht | ht
    · rw [ofRecord_name ht, notes_silent (by rw [ht]; decide), readBody, ht]
      rfl
    · rw [ofRecord_bssLoad ht, notes_silent (by rw [ht]; decide), readBody, ht]
      cases BssLoad.decode r.body <;> rfl
    · rw [ofRecord_interworking ht, notes_interworking ht, readBody, ht, readInterworking_eq]
      simp [Tag.name, Tag.bssLoad]
    · rw [ofRecord_roamingConsortium ht, notes_silent (by rw [ht]; decide), readBody, ht]
      cases RoamingConsortium.decode r.body <;> rfl
    · rw [ofRecord_capabilities ht, notes_capabilities ht, readBody, ht, readCapabilities_eq]
      simp [Tag.name, Tag.bssLoad, Tag.interworking, Tag.roamingConsortium, Tag.vendorSpecific]
    · rw [ofRecord_vendor ht, notes_vendor ht, readBody, ht, readIndication_eq]
      simp [Tag.name, Tag.bssLoad, Tag.interworking, Tag.roamingConsortium]
  · rw [ofRecord_unknown hk, notes_unknown hk]
    simp only [readTags, List.mem_cons, List.not_mem_nil, or_false, not_or] at hk
    simp [readBody, hk]

/-! ## The walk -/

variable {data : Octets} {r : Record} {rs : List Record} {s s' : Findings} {offset : Nat}
  {e : Fault}

theorem walkFrom_encode (offset : Nat) (s : Findings) (r : Record) (rest : Octets) :
    walkFrom offset s (r.encode ++ rest) =
      (⟨Note.ofRecord r, (Finding.ofRecord r).mapError fun flaw => ⟨r.tag, offset, .flaw flaw⟩⟩ :
        Noted Fault Finding) >>= fun f => walkFrom (offset + r.size) (s.add r.size f) rest := by
  have hn := r.toNat_length
  rw [Record.encode, List.cons_append, List.cons_append, walkFrom, if_pos (by simp [hn])]
  simp only [hn, List.drop_left, List.take_left, readBody_eq]
  rfl

/-- Records that are taken up are left behind, with their notes. -/
theorem walkFrom_of_absorb (h : absorb offset s rs = .ok s') (rest : Octets) :
    walkFrom offset s (Record.encodeAll rs ++ rest) =
      (⟨rs.flatMap Note.ofRecord, .ok ()⟩ : Noted Fault Unit) >>= fun _ =>
        walkFrom (offset + (Record.encodeAll rs).length) s' rest := by
  induction rs generalizing offset s with
  | nil =>
    cases h
    rfl
  | cons r rs ih =>
    rw [absorb] at h
    rw [Record.encodeAll_cons, List.append_assoc, walkFrom_encode]
    cases hf : Finding.ofRecord r with
    | error flaw =>
      rw [hf] at h
      cases h
    | ok f =>
      rw [hf] at h
      simp [ih h, Except.mapError, Nat.add_assoc]

/-- Where a record is refused the walk ends, with the notes up to there. -/
theorem walkFrom_of_refused (h : absorb offset s rs = .error e) (rest : Octets) :
    ∃ met, met <+: rs ∧ walkFrom offset s (Record.encodeAll rs ++ rest) =
      ⟨met.flatMap Note.ofRecord, .error e⟩ := by
  -- The record that is refused is the last one that was met, and has its notes too.
  induction rs generalizing offset s with
  | nil => cases h
  | cons r rs ih =>
    rw [absorb] at h
    rw [Record.encodeAll_cons, List.append_assoc, walkFrom_encode]
    cases hf : Finding.ofRecord r with
    | error flaw =>
      rw [hf] at h
      cases h
      exact ⟨[r], ⟨rs, rfl⟩, by simp [Except.mapError]⟩
    | ok f =>
      rw [hf] at h
      obtain ⟨met, hm, hw⟩ := ih h
      exact ⟨r :: met, (List.prefix_cons_inj r).mpr hm, by simp [hw, Except.mapError]⟩

theorem walkFrom_of_unfinished {bs : Octets} {rest : Record.Rest} (h : Record.Unfinished bs rest)
    (offset : Nat) (s : Findings) :
    walkFrom offset s bs = ⟨[], .error ⟨rest.tag, offset, .cut rest.cut⟩⟩ := by
  cases h with
  | header tag =>
    rw [walkFrom]
    rfl
  | body h =>
    rw [walkFrom, if_neg (Nat.not_le.mpr h)]
    rfl

theorem walk_encodeAll (h : Reads rs s) :
    walk (Record.encodeAll rs) =
      ⟨rs.flatMap Note.ofRecord ++ [.scanned s.seen s.skipped (Record.encodeAll rs).length],
        .ok s⟩ := by
  have hw := walkFrom_of_absorb (absorb_eq_ok_iff.mpr h) []
  rw [List.append_nil] at hw
  rw [walk, hw, walkFrom]
  simp [Noted.note]

/-- A buffer is refused for the reason that a scan gives, with the notes of some of its records. -/
theorem walk_of_error (h : scan data = .error e) :
    ∃ met : List Record, walk data = ⟨met.flatMap Note.ofRecord, .error e⟩ := by
  obtain ⟨rs, rest, hs⟩ : ∃ rs rest, Record.split data = (rs, rest) := ⟨_, _, rfl⟩
  obtain ⟨tail, rfl, ht⟩ := Record.eq_append_of_split hs
  rw [scan_of_split hs] at h
  cases ha : absorb 0 {} rs with
  | error e' =>
    rw [ha] at h
    cases h
    obtain ⟨met, -, hw⟩ := walkFrom_of_refused ha tail
    exact ⟨met, by simp [walk, hw]⟩
  | ok s =>
    rw [ha] at h
    cases rest with
    | none => cases h
    | some rest =>
      cases h
      have hu : Record.Unfinished tail rest := ht
      -- The walk counts octets as it goes; a scan has counted them by the findings.
      have hc := (absorb_eq_ok_iff.mp ha).counts.consumed
      refine ⟨rs, ?_⟩
      rw [walk, walkFrom_of_absorb ha, walkFrom_of_unfinished hu, Nat.zero_add, ← hc]
      simp

/-- A walk gives what a scan gives. -/
theorem result_walk (data : Octets) : (walk data).result = scan data := by
  cases hs : scan data with
  | error e =>
    obtain ⟨met, hw⟩ := walk_of_error hs
    rw [hw]
  | ok s =>
    obtain ⟨rs, rfl, hr⟩ := scan_eq_ok_iff.mp hs
    rw [walk_encodeAll hr]

/-- The notes of a walk that goes well are those of a scan. -/
theorem notes_walk (h : scan data = .ok s) : (walk data).notes = scanNotes data s := by
  obtain ⟨rs, rfl, hr⟩ := scan_eq_ok_iff.mp h
  rw [walk_encodeAll hr, scanNotes, Record.split_encodeAll]

/-! ## What is noted -/

/-- What is put up with in a record, and how it is noted. -/
inductive Anomaly (r : Record) : Note → Prop
  /-- An Interworking element is empty. -/
  | empty (ht : r.tag = 107) (hb : r.body = []) : Anomaly r .emptyInterworking
  /-- The settings of an indication, its fifth octet, announce a domain in bit 2, and the two octets
  of the domain do not follow. -/
  | domain (ht : r.tag = 221) (hs : IsSigned r.body)
      (hf : (r.body.getD 4 0).toNat.testBit 2 = true) (hl : r.body.length < 7) :
      Anomaly r .domainMissing
  /-- Capabilities have more than eight octets. -/
  | capabilities (ht : r.tag = 127) (hl : 8 < r.body.length) :
      Anomaly r (.capabilitiesCut r.body.length)

/-- `Logged rs ns`: each of the records in which something is put up with has its note, and there
are no other notes. -/
inductive Logged : List Record → List Note → Prop
  | nil : Logged [] []
  | anomaly {r : Record} {rs : List Record} {n : Note} {ns : List Note} (h : Anomaly r n)
      (hs : Logged rs ns) : Logged (r :: rs) (n :: ns)
  | fine {r : Record} {rs : List Record} {ns : List Note} (h : ∀ n, ¬ Anomaly r n)
      (hs : Logged rs ns) : Logged (r :: rs) ns

theorem Indication.eq_of_settings? {body rest : Octets} {settings : UInt8}
    (h : settings? body = some (settings, rest)) : body = signature ++ settings :: rest := by
  unfold settings? at h
  split at h
  · split at h
    · rename_i hs
      cases h
      rw [← hs]
      rfl
    · cases h
  · cases h

theorem Indication.domain?_isNone_iff {rest : Octets} :
    (domain? rest).isNone ↔ rest.length < 2 := by
  match rest with
  | [] | [_] | _ :: _ :: _ => simp [domain?]

theorem Indication.lacksDomain_iff {body : Octets} :
    lacksDomain body ↔
      IsSigned body ∧ (body.getD 4 0).toNat.testBit 2 = true ∧ body.length < 7 := by
  rw [lacksDomain]
  cases hs : settings? body with
  | none => simp [settings?_eq_none_iff.mp hs]
  | some p =>
    obtain ⟨settings, rest⟩ := p
    have hsigned : IsSigned body := by
      by_contra hn
      cases hs.symm.trans (settings?_eq_none_iff.mpr hn)
    have hb := eq_of_settings? hs
    have hl : body.length < 7 ↔ rest.length < 2 := by
      simp only [hb, signature, List.length_append, List.length_cons, List.length_nil]
      omega
    have hg : body.getD 4 0 = settings := by simp [hb, signature]
    rw [Option.any_some, Bool.and_eq_true, domain?_isNone_iff, flagsDomain_eq_testBit, hg, hl]
    simp [hsigned]

/-- The notes of a record are what is put up with in it. -/
theorem ofRecord_of_anomaly {n : Note} (h : Anomaly r n) : Note.ofRecord r = [n] := by
  cases h with
  | empty ht hb => rw [notes_interworking ht, notesInterworking, hb]; rfl
  | domain ht hs hf hl =>
    rw [notes_vendor ht, notesIndication, if_pos (Indication.lacksDomain_iff.mpr ⟨hs, hf, hl⟩)]
  | capabilities ht hl =>
    rw [notes_capabilities ht, notesCapabilities]
    exact if_pos hl

theorem anomaly_of_mem_ofRecord {n : Note} (h : n ∈ Note.ofRecord r) : Anomaly r n := by
  by_cases hk : r.tag ∈ [107, 127, 221]
  · simp only [List.mem_cons, List.not_mem_nil, or_false] at hk
    rcases hk with ht | ht | ht
    · rw [notes_interworking ht, notesInterworking] at h
      split at h
      · rename_i hb
        obtain rfl := List.mem_singleton.mp h
        exact .empty ht (List.isEmpty_iff.mp hb)
      · cases h
    · rw [notes_capabilities ht, notesCapabilities] at h
      split at h
      · rename_i hl
        obtain rfl := List.mem_singleton.mp h
        exact .capabilities ht hl
      · cases h
    · rw [notes_vendor ht, notesIndication] at h
      split at h
      · rename_i hd
        obtain rfl := List.mem_singleton.mp h
        obtain ⟨hs, hf, hl⟩ := Indication.lacksDomain_iff.mp hd
        exact .domain ht hs hf hl
      · cases h
  · rw [notes_silent hk] at h
    cases h

theorem logged_flatMap (rs : List Record) : Logged rs (rs.flatMap Note.ofRecord) := by
  induction rs with
  | nil => exact .nil
  | cons r rs ih =>
    rw [List.flatMap_cons]
    by_cases ha : ∃ n, Anomaly r n
    · obtain ⟨n, ha⟩ := ha
      rw [ofRecord_of_anomaly ha]
      exact .anomaly ha ih
    · have hn : Note.ofRecord r = [] :=
        List.eq_nil_iff_forall_not_mem.mpr fun n hn => ha ⟨n, anomaly_of_mem_ofRecord hn⟩
      rw [hn]
      exact .fine (not_exists.mp ha) ih

/-- In a record, a short venue is never among what is put up with. -/
theorem Anomaly.ne_shortVenue {n : Note} (h : Anomaly r n) (k : Nat) : n ≠ .shortVenue k := by
  cases h <;> exact nofun

theorem ne_shortVenue_of_mem_walk {n : Note} (hn : n ∈ (walk data).notes) (k : Nat) :
    n ≠ .shortVenue k := by
  have hrecords : ∀ rs : List Record, n ∈ rs.flatMap Note.ofRecord → n ≠ .shortVenue k := by
    intro rs hm
    obtain ⟨r, -, hr⟩ := List.mem_flatMap.mp hm
    exact (anomaly_of_mem_ofRecord hr).ne_shortVenue k
  cases hs : scan data with
  | error e =>
    obtain ⟨met, hw⟩ := walk_of_error hs
    rw [hw] at hn
    exact hrecords met hn
  | ok s =>
    obtain ⟨rs, rfl, hr⟩ := scan_eq_ok_iff.mp hs
    rw [walk_encodeAll hr] at hn
    rcases List.mem_append.mp hn with hm | hm
    · exact hrecords rs hm
    · rw [List.mem_singleton.mp hm]
      exact nofun

/-- **The log of a scan tells what was put up with, record by record.** A walk through a buffer,
octet by octet, gives what a scan gives. If the buffer is accepted, its log has a line for each
record in which something is put up with, in the order of the records: an empty Interworking
element, an indication that announces a domain without room for it, or capabilities of more than
eight octets, whose number is told. One more line follows, with how many elements were seen, how
many of them were skipped and how many octets the buffer has; there is nothing else. All lines are
of interest to a debugger only. And no buffer, accepted or not, ever has a line about a venue that
is too short. -/
theorem walk_logs_anomalies (data : Octets) :
    (walk data).result = scan data ∧
    (∀ s, scan data = .ok s → ∃ rs ns, data = Record.encodeAll rs ∧ Logged rs ns ∧
      (walk data).notes = ns ++ [.scanned s.seen s.skipped data.length]) ∧
    ∀ n ∈ (walk data).notes, n.line.level = .debug ∧ ∀ k, n ≠ .shortVenue k := by
  refine ⟨result_walk data, fun s hs => ?_, fun n hn => ⟨rfl, ne_shortVenue_of_mem_walk hn⟩⟩
  obtain ⟨rs, rfl, hr⟩ := scan_eq_ok_iff.mp hs
  exact ⟨rs, _, rfl, logged_flatMap rs, by rw [walk_encodeAll hr]⟩

/-- An empty Interworking element, an indication without room for its domain, one with a venue, an
element of no known kind and nine octets of capabilities. -/
def fiveRecords : List Record :=
  [⟨107, [], by decide⟩, ⟨221, [0x50, 0x6F, 0x9A, 0x10, 0x14, 7], by decide⟩,
   ⟨107, [0x13, 1, 2], by decide⟩, ⟨200, [1], by decide⟩,
   ⟨127, [0, 0, 0, 0, 0, 0, 1, 0, 9], by decide⟩]

/-- What the five records tell. -/
def fiveFindings : Findings :=
  { interworking := some ⟨.freePublic, true, some ⟨.assembly, .stadium⟩, 0⟩
    indication := some ⟨.r2, none⟩
    capabilities := some (2 ^ 48), seen := 5, skipped := 1, consumed := 29 }

/-- Three of the records have a line in the log. -/
theorem walk_logs_anomalies_five :
    let data := Record.encodeAll fiveRecords
    scan data = .ok fiveFindings ∧ ∃ ns, Logged fiveRecords ns ∧
      (walk data).notes = ns ++ [.scanned 5 1 29] ∧
      ns = [.emptyInterworking, .domainMissing, .capabilitiesCut 9] := by
  intro data
  have hs : scan data = .ok fiveFindings := by decide +kernel
  obtain ⟨-, hl, -⟩ := walk_logs_anomalies data
  obtain ⟨rs, ns, hd, hlog, hn⟩ := hl _ hs
  obtain rfl := Record.encodeAll_injective hd
  have hm : (walk data).notes =
      [.emptyInterworking, .domainMissing, .capabilitiesCut 9] ++ [.scanned 5 1 29] := by
    decide +kernel
  exact ⟨hs, ns, hlog, hn, List.append_cancel_right (hn.symm.trans hm)⟩

end Passpoint.Element
