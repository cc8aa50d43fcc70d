import Passpoint.Proofs.Acceptance
import Passpoint.Proofs.Codes

/-! Bits that mean nothing. The elements that are read have bits and octets that no decoder looks at;
which they are is a matter of tag and length, and of bits that are looked at. Buffers that differ in
such bits only are scanned alike, in what they tell, in the counters and in what is noted. -/

namespace Passpoint

/-! ## Octets that agree outside of a mask -/

/-- As many octets, with the same bits wherever the mask of their place has none. -/
structure Agrees (mask : Nat → UInt8) (bs cs : Octets) : Prop where
  length : cs.length = bs.length
  bits : ∀ i, cs.getD i 0 ||| mask i = bs.getD i 0 ||| mask i

/-- Behind their ends any octets agree, so there is nothing to look at. -/
theorem agrees_iff_lt {mask : Nat → UInt8} {bs cs : Octets} :
    Agrees mask bs cs ↔ cs.length = bs.length ∧
      ∀ i < bs.length, cs.getD i 0 ||| mask i = bs.getD i 0 ||| mask i := by
  refine ⟨fun h => ⟨h.length, fun i _ => h.bits i⟩, fun ⟨hl, hb⟩ => ⟨hl, fun i => ?_⟩⟩
  by_cases hi : i < bs.length
  · exact hb i hi
  · rw [List.getD_eq_getElem?_getD, List.getD_eq_getElem?_getD, List.getElem?_eq_none (by omega),
      List.getElem?_eq_none (by omega)]

instance (mask : Nat → UInt8) (bs cs : Octets) : Decidable (Agrees mask bs cs) :=
  decidable_of_iff' _ agrees_iff_lt

/-- Bits `k` to `k + n` of octets that agree outside of a mask, if the mask has none of them. -/
theorem bits_eq_of_or {a b m : UInt8} (h : a ||| m = b ||| m) (k n : Nat)
    (hm : m.toNat / 2 ^ k % 2 ^ n = 0) : a.toNat / 2 ^ k % 2 ^ n = b.toNat / 2 ^ k % 2 ^ n := by
  have hb := congrArg (fun x : UInt8 => x.toNat / 2 ^ k % 2 ^ n) h
  simpa only [UInt8.toNat_or, Nat.or_div_two_pow, Nat.or_mod_two_pow, hm, Nat.or_zero] using hb

section

variable {mask : Nat → UInt8} {bs cs : Octets}

theorem Agrees.getElem?_eq (h : Agrees mask bs cs) {i : Nat} (hm : mask i = 0) :
    cs[i]? = bs[i]? := by
  have hb := h.bits i
  have hl := h.length
  rw [hm, UInt8.or_zero, UInt8.or_zero] at hb
  by_cases hi : i < bs.length
  · have hi' : i < cs.length := by omega
    rw [List.getD_eq_getElem?_getD, List.getD_eq_getElem?_getD, List.getElem?_eq_getElem hi,
      List.getElem?_eq_getElem hi', Option.getD_some, Option.getD_some] at hb
    rw [List.getElem?_eq_getElem hi, List.getElem?_eq_getElem hi', hb]
  · rw [List.getElem?_eq_none (by omega), List.getElem?_eq_none (by omega)]

/-- Octets at places without a mask are the same. -/
theorem Agrees.slice_eq (h : Agrees mask bs cs) (k n : Nat)
    (hm : ∀ i, k ≤ i → i < k + n → mask i = 0) : (cs.drop k).take n = (bs.drop k).take n := by
  refine List.ext_getElem? fun i => ?_
  rw [List.getElem?_take, List.getElem?_take]
  split
  · rw [List.getElem?_drop, List.getElem?_drop, h.getElem?_eq (hm (k + i) (by omega) (by omega))]
  · rfl

theorem Agrees.eq (h : Agrees mask bs cs) (hm : ∀ i, mask i = 0) : cs = bs := by
  have hs := h.slice_eq 0 bs.length fun i _ _ => hm i
  rwa [List.drop_zero, List.drop_zero, List.take_length, ← h.length, List.take_length] at hs

end

namespace Element

/-! ## The masks -/

/-- Bits 5 to 7 of the options; all behind the options, if their number is not that of a venue, an
identifier or both; and the type of a venue in a group above 11. -/
def Interworking.freeBits (body : Octets) (i : Nat) : UInt8 :=
  if i = 0 then 0xE0
  else if body.length ≠ 3 ∧ body.length ≠ 7 ∧ body.length ≠ 9 then 0xFF
  else if i = 2 ∧ body.length ≠ 7 ∧ 11 < (body.getD 1 0).toNat then 0xFF
  else 0

/-- Bits 0, 1 and 3 of the settings, and all behind the domain, or behind the settings if there is
no domain: if bit 2 is not set or fewer than two octets follow. -/
def Indication.freeBits (body : Octets) (i : Nat) : UInt8 :=
  if i < 4 then 0
  else if i = 4 then 0x0B
  else if i < 7 ∧ (body.getD 4 0).toNat.testBit 2 = true ∧ 7 ≤ body.length then 0
  else 0xFF

/-- All behind the eighth octet. -/
def Capabilities.freeBits (i : Nat) : UInt8 := if i < 8 then 0 else 0xFF

/-- The bits of the octet at place `i` of a body that mean nothing. -/
def freeBits (r : Record) (i : Nat) : UInt8 :=
  if r.tag = 107 then Interworking.freeBits r.body i
  else if r.tag = 127 then Capabilities.freeBits i
  else if r.tag = 221 ∧ IsSigned r.body then Indication.freeBits r.body i
  else if r.tag ∉ readTags then 0xFF
  else 0

/-- Two records differ in bits that mean nothing, if at all. -/
@[mk_iff]
structure Alike (r r' : Record) : Prop where
  tag : r'.tag = r.tag
  body : Agrees (freeBits r) r.body r'.body

instance (r r' : Record) : Decidable (Alike r r') := decidable_of_iff' _ (alike_iff r r')

/-! ## Interworking -/

namespace Interworking

theorem access_eq {a b : UInt8} (h : a ||| 0xE0 = b ||| 0xE0) :
    AccessNetwork.ofCode a.toNat = AccessNetwork.ofCode b.toNat := by
  have hb := bits_eq_of_or h 0 4 (by decide)
  have hm : (a.toNat : Int) % 16 = (b.toNat : Int) % 16 := by omega
  rw [AccessNetwork.ofCode, hm, AccessNetwork.ofCode]

theorem internet_eq {a b : UInt8} (h : a ||| 0xE0 = b ||| 0xE0) :
    a.toNat / 16 % 2 = b.toNat / 16 % 2 :=
  bits_eq_of_or h 4 1 (by decide)

theorem venue_eq {group a b : UInt8} (h : 11 < group.toNat) :
    Venue.ofCodes group a = Venue.ofCodes group b := by
  have hg : 12 ≤ (group.toNat : Int) := by omega
  rw [Venue.ofCodes, Venue.ofCodes, VenueType.ofCode_eq_reserved (.inl (.inr hg)),
    VenueType.ofCode_eq_reserved (.inl (.inr hg))]

theorem freeBits_eq_zero {body : Octets} {i : Nat} (hi : 0 < i)
    (hl : body.length = 3 ∨ body.length = 7 ∨ body.length = 9)
    (hv : i ≠ 2 ∨ body.length = 7 ∨ (body.getD 1 0).toNat ≤ 11) : freeBits body i = 0 := by
  rw [freeBits, if_neg (by omega), if_neg (by omega), if_neg (by omega)]

theorem ofField?_eq {o o' : UInt8} {fs fs' : Octets}
    (h : Agrees (freeBits (o :: fs)) (o :: fs) (o' :: fs'))
    (hl : hasVenue (fs.length + 1) = true) : Venue.ofField? fs' = Venue.ofField? fs := by
  have hlength := h.length
  simp only [hasVenue, Bool.or_eq_true, decide_eq_true_eq] at hl
  match fs, fs' with
  | group :: kind :: _, group' :: kind' :: _ =>
    have hg := h.getElem?_eq (freeBits_eq_zero Nat.one_pos (hl.imp_right .inr) (.inl (by decide)))
    have hg : group' = group := by simpa using hg
    rw [Venue.ofField?, Venue.ofField?, hg]
    by_cases hv : 11 < group.toNat
    · rw [venue_eq hv]
    · have hk := h.getElem?_eq (freeBits_eq_zero Nat.two_pos (hl.imp_right .inr)
        (.inr (.inr (Nat.le_of_not_lt hv))))
      have hk : kind' = kind := by simpa using hk
      rw [hk]
  | [], _ | [_], _ => simp at hl
  | _ :: _ :: _, [] | _ :: _ :: _, [_] => simp at hlength

theorem hessid_eq {o o' : UInt8} {fs fs' : Octets}
    (h : Agrees (freeBits (o :: fs)) (o :: fs) (o' :: fs')) (hl : hasHessid (fs.length + 1) = true) :
    (if hasVenue (fs.length + 1) then fs'.drop 2 else fs').take 6 =
      (if hasVenue (fs.length + 1) then fs.drop 2 else fs).take 6 := by
  simp only [hasHessid, Bool.or_eq_true, decide_eq_true_eq] at hl
  rcases hl with hl | hl
  · -- Seven octets have no venue, so no octet behind the first is free.
    have hs := h.slice_eq 1 6 fun i hi _ =>
      freeBits_eq_zero hi (.inr (.inl hl)) (.inr (.inl hl))
    simpa [hasVenue, hl] using hs
  · have hs := h.slice_eq 3 6 fun i hi _ =>
      freeBits_eq_zero (by omega) (.inr (.inr hl)) (.inl (by omega))
    simpa [hasVenue, hl] using hs

theorem decode?_eq {body body' : Octets} (h : Agrees (freeBits body) body body') :
    decode? body' = decode? body := by
  have hl := h.length
  match body, body' with
  | [], [] => rfl
  | [], _ :: _ | _ :: _, [] => simp at hl
  | o :: fs, o' :: fs' =>
    have ho : o' ||| 0xE0 = o ||| 0xE0 := h.bits 0
    have hlength : fs'.length = fs.length := Nat.succ.inj hl
    simp only [decode?, hlength, access_eq ho, internet_eq ho]
    congr 2
    · exact ite_congr rfl (fun hv => ofField?_eq h hv) fun _ => rfl
    · exact ite_congr rfl (fun hi => congrArg bigEndian (hessid_eq h hi)) fun _ => rfl

end Interworking

/-! ## Indications and capabilities -/

namespace Indication

theorem flagsDomain_eq_testBit (settings : UInt8) :
    flagsDomain settings = settings.toNat.testBit 2 := by
  rw [flagsDomain, Nat.testBit_eq_decide_div_mod_eq]

theorem release_eq {a b : UInt8} (h : a ||| 0x0B = b ||| 0x0B) : highNibble a = highNibble b := by
  have hb := bits_eq_of_or h 4 4 (by decide)
  have ha := a.toNat_lt
  have hb' := b.toNat_lt
  rw [highNibble, highNibble]
  omega

theorem flagsDomain_eq {a b : UInt8} (h : a ||| 0x0B = b ||| 0x0B) :
    flagsDomain a = flagsDomain b := by
  have hb := bits_eq_of_or h 2 1 (by decide)
  have hb : a.toNat / 4 % 2 = b.toNat / 4 % 2 := hb
  rw [flagsDomain, flagsDomain, hb]

theorem freeBits_eq_zero {body : Octets} {i : Nat} (hf : (body.getD 4 0).toNat.testBit 2 = true)
    (hl : 7 ≤ body.length) (hi : 4 < i ∧ i < 7) : freeBits body i = 0 := by
  rw [freeBits, if_neg (by omega), if_neg (by omega), if_pos ⟨hi.2, hf, hl⟩]

/-- The octets of a domain are free if there are too few of them, and else no bit of them is. -/
theorem domain?_eq {settings settings' : UInt8} {rest rest' : Octets}
    (h : Agrees (freeBits (signature ++ settings :: rest)) (signature ++ settings :: rest)
      (signature ++ settings' :: rest'))
    (hf : flagsDomain settings = true) : domain? rest' = domain? rest := by
  rw [flagsDomain_eq_testBit] at hf
  have hlength := h.length
  match rest, rest' with
  | low :: high :: _, low' :: high' :: _ =>
    have hb := h.getElem?_eq (freeBits_eq_zero hf (by simp [signature]) (i := 5) (by decide))
    have hb' := h.getElem?_eq (freeBits_eq_zero hf (by simp [signature]) (i := 6) (by decide))
    have hb : low' = low := by simpa [signature] using hb
    have hb' : high' = high := by simpa [signature] using hb'
    rw [domain?, domain?, hb, hb']
  | [], [] | [_], [_] => rfl
  | [], _ :: _ | [_], [] | [_], _ :: _ :: _ | _ :: _ :: _, [] | _ :: _ :: _, [_] =>
    simp at hlength

/-- An indication keeps its signature, and what counts of the octets behind it. -/
theorem exists_settings {body body' : Octets} (hs : IsSigned body)
    (h : Agrees (freeBits body) body body') :
    ∃ settings rest settings' rest', settings? body = some (settings, rest) ∧
      settings? body' = some (settings', rest') ∧ highNibble settings' = highNibble settings ∧
      flagsDomain settings' = flagsDomain settings ∧
      (flagsDomain settings = true → domain? rest' = domain? rest) := by
  obtain ⟨hl, more, rfl⟩ := hs
  have hlength := h.length
  have hsignature : body'.take 4 = signature := h.slice_eq 0 4 fun i _ hi => if_pos (by omega)
  obtain ⟨settings, rest, rfl⟩ : ∃ settings rest, more = settings :: rest :=
    List.exists_cons_of_ne_nil fun hn => by simp [hn] at hl
  obtain ⟨settings', rest', hd⟩ : ∃ settings' rest', body'.drop 4 = settings' :: rest' :=
    List.exists_cons_of_ne_nil fun hn => by
      have := List.drop_eq_nil_iff.mp hn
      omega
  have hb : body' = signature ++ settings' :: rest' := by
    rw [← hd, ← hsignature, List.take_append_drop]
  subst hb
  have hsettings : settings' ||| 0x0B = settings ||| 0x0B := h.bits 4
  exact ⟨settings, rest, settings', rest', rfl, rfl, release_eq hsettings,
    flagsDomain_eq hsettings, domain?_eq h⟩

theorem decode?_eq {body body' : Octets} (hs : IsSigned body)
    (h : Agrees (freeBits body) body body') : decode? body' = decode? body := by
  obtain ⟨settings, rest, settings', rest', he, he', hr, hf, hd⟩ := exists_settings hs h
  simp only [decode?, he, he', Option.map_some, hr, hf]
  rw [ite_congr rfl hd fun _ => rfl]

theorem lacksDomain_eq {body body' : Octets} (hs : IsSigned body)
    (h : Agrees (freeBits body) body body') : lacksDomain body' = lacksDomain body := by
  obtain ⟨settings, rest, settings', rest', he, he', -, hf, hd⟩ := exists_settings hs h
  simp only [lacksDomain, he, he', Option.any_some, hf]
  cases hb : flagsDomain settings with
  | false => rfl
  | true => rw [hd hb]

end Indication

theorem Capabilities.decode_eq {body body' : Octets} (h : Agrees freeBits body body') :
    decode body' = decode body := by
  have hs := h.slice_eq 0 limit fun i _ hi => if_pos (by rw [limit] at hi; omega)
  rw [List.drop_zero, List.drop_zero] at hs
  rw [decode, decode, hs]

/-! ## Records -/

section Kinds

variable {r : Record}

theorem notes_interworking (ht : r.tag = 107) : Note.ofRecord r = notesInterworking r.body := by
  rw [Note.ofRecord, ht]; rfl

theorem notes_capabilities (ht : r.tag = 127) : Note.ofRecord r = notesCapabilities r.body := by
  rw [Note.ofRecord, ht]; rfl

theorem notes_vendor (ht : r.tag = 221) : Note.ofRecord r = notesIndication r.body := by
  rw [Note.ofRecord, ht]; rfl

theorem notes_unknown (ht : r.tag ∉ readTags) : Note.ofRecord r = [] := by
  simp_all [Note.ofRecord, readTags]

theorem freeBits_interworking (ht : r.tag = 107) : freeBits r = Interworking.freeBits r.body :=
  funext fun _ => if_pos ht

theorem freeBits_capabilities (ht : r.tag = 127) : freeBits r = Capabilities.freeBits := by
  funext i
  rw [freeBits, ht, if_neg (by decide), if_pos rfl]

theorem freeBits_indication (ht : r.tag = 221) (hs : IsSigned r.body) :
    freeBits r = Indication.freeBits r.body := by
  funext i
  rw [freeBits, ht, if_neg (by decide), if_neg (by decide), if_pos ⟨rfl, hs⟩]

end Kinds

/-- What is noted of an Interworking element is only whether it is empty. -/
theorem notesInterworking_eq {body body' : Octets} (h : body'.length = body.length) :
    notesInterworking body' = notesInterworking body := by
  have he : body'.isEmpty = body.isEmpty := by
    rw [Bool.eq_iff_iff, List.isEmpty_iff_length_eq_zero, List.isEmpty_iff_length_eq_zero, h]
  rw [notesInterworking, notesInterworking, he]

variable {r r' : Record}

theorem Alike.size_eq (h : Alike r r') : r'.size = r.size := by
  rw [Record.size, Record.size, h.body.length]

theorem Alike.eq (h : Alike r r') (hm : ∀ i, freeBits r i = 0) : r' = r := by
  obtain ⟨tag, body, hl⟩ := r
  obtain ⟨tag', body', hl'⟩ := r'
  obtain rfl : tag' = tag := h.tag
  obtain rfl : body' = body := h.body.eq hm
  rfl

theorem Alike.interworking (h : Alike r r') (ht : r.tag = 107) :
    Finding.ofRecord r' = Finding.ofRecord r ∧ Note.ofRecord r' = Note.ofRecord r := by
  have ht' := h.tag.trans ht
  have hb := h.body
  rw [freeBits_interworking ht] at hb
  rw [ofRecord_interworking ht, ofRecord_interworking ht', notes_interworking ht,
    notes_interworking ht', Interworking.decode?_eq hb, notesInterworking_eq hb.length]
  exact ⟨rfl, rfl⟩

theorem Alike.capabilities (h : Alike r r') (ht : r.tag = 127) :
    Finding.ofRecord r' = Finding.ofRecord r ∧ Note.ofRecord r' = Note.ofRecord r := by
  have ht' := h.tag.trans ht
  have hb := h.body
  rw [freeBits_capabilities ht] at hb
  rw [ofRecord_capabilities ht, ofRecord_capabilities ht', notes_capabilities ht,
    notes_capabilities ht', Capabilities.decode_eq hb, notesCapabilities, notesCapabilities,
    hb.length]
  exact ⟨rfl, rfl⟩

theorem Alike.indication (h : Alike r r') (ht : r.tag = 221) (hs : IsSigned r.body) :
    Finding.ofRecord r' = Finding.ofRecord r ∧ Note.ofRecord r' = Note.ofRecord r := by
  have ht' := h.tag.trans ht
  have hb := h.body
  rw [freeBits_indication ht hs] at hb
  rw [ofRecord_vendor ht, ofRecord_vendor ht', notes_vendor ht, notes_vendor ht',
    Indication.decode?_eq hs hb, notesIndication, notesIndication, Indication.lacksDomain_eq hs hb]
  exact ⟨rfl, rfl⟩

theorem Alike.unknown (h : Alike r r') (ht : r.tag ∉ readTags) :
    Finding.ofRecord r' = Finding.ofRecord r ∧ Note.ofRecord r' = Note.ofRecord r := by
  have ht' : r'.tag ∉ readTags := h.tag.symm ▸ ht
  rw [ofRecord_unknown ht, ofRecord_unknown ht', notes_unknown ht, notes_unknown ht']
  exact ⟨rfl, rfl⟩

/-- Records that are alike tell the same, and the same is noted of them. -/
theorem Alike.ofRecord_eq (h : Alike r r') :
    Finding.ofRecord r' = Finding.ofRecord r ∧ Note.ofRecord r' = Note.ofRecord r := by
  by_cases hi : r.tag = 107
  · exact h.interworking hi
  by_cases hc : r.tag = 127
  · exact h.capabilities hc
  by_cases hv : r.tag = 221 ∧ IsSigned r.body
  · exact h.indication hv.1 hv.2
  by_cases hu : r.tag ∉ readTags
  · exact h.unknown hu
  -- No bit of the other records is free.
  · rw [h.eq fun i => by rw [freeBits, if_neg hi, if_neg hc, if_neg hv, if_neg hu]]
    exact ⟨rfl, rfl⟩

/-! ## Runs of records -/

variable {rs ss : List Record}

/-- Runs of records that are alike, one by one, are taken up in the same way. -/
theorem absorb_eq_of_alike (h : List.Forall₂ Alike rs ss) (o : Nat) (s : Findings) :
    absorb o s ss = absorb o s rs := by
  induction h generalizing o s with
  | nil => rfl
  | cons hr _ ih => simp only [absorb, hr.ofRecord_eq.1, hr.tag, hr.size_eq, ih]

theorem notes_eq_of_alike (h : List.Forall₂ Alike rs ss) :
    ss.flatMap Note.ofRecord = rs.flatMap Note.ofRecord := by
  induction h with
  | nil => rfl
  | cons hr _ ih => rw [List.flatMap_cons, List.flatMap_cons, hr.ofRecord_eq.2, ih]

theorem length_eq_of_alike (h : List.Forall₂ Alike rs ss) :
    (Record.encodeAll ss).length = (Record.encodeAll rs).length := by
  induction h with
  | nil => rfl
  | cons hr _ ih =>
    rw [Record.encodeAll_cons, Record.encodeAll_cons, List.length_append, List.length_append,
      Record.length_encode, Record.length_encode, hr.size_eq, ih]

/-- **Free bits do not matter.** Whatever they are changed to in the records of an accepted buffer,
the buffer is accepted, the scan comes to the same, fields and counters, and the same log is
written. -/
theorem scan_of_alike {data : Octets} {s : Findings} (h : scan data = .ok s) :
    ∃ rs, data = Record.encodeAll rs ∧ ∀ ss, List.Forall₂ Alike rs ss →
      scan (Record.encodeAll ss) = .ok s ∧
      (scanNotes (Record.encodeAll ss) s).map Note.line = (scanNotes data s).map Note.line := by
  obtain ⟨rs, rfl, hr⟩ := scan_eq_ok_iff.mp h
  refine ⟨rs, rfl, fun ss hs => ⟨?_, ?_⟩⟩
  · rw [scan_encodeAll, absorb_eq_of_alike hs, absorb_eq_ok_iff.mpr hr]
  · rw [scanNotes, scanNotes, Record.split_encodeAll, Record.split_encodeAll, notes_eq_of_alike hs,
      length_eq_of_alike hs]

/-- Interworking with options only, with one octet too many, and with a venue in a group that is
reserved; indications with a domain, without one, and with one that is cut off; capabilities of nine
octets, and a tag that is not known. -/
theorem scan_of_alike_reserved :
    let rs : List Record := [⟨107, [0x12], by decide⟩, ⟨107, [0x12, 5], by decide⟩,
      ⟨221, [0x50, 0x6F, 0x9A, 0x10, 0x10, 7], by decide⟩,
      ⟨221, [0x50, 0x6F, 0x9A, 0x10, 0x14, 7], by decide⟩,
      ⟨127, [0, 0, 0, 0, 0, 0, 1, 0, 7], by decide⟩, ⟨200, [1, 2], by decide⟩,
      ⟨107, [0x13, 12, 1], by decide⟩,
      ⟨221, [0x50, 0x6F, 0x9A, 0x10, 0x14, 3, 1, 7], by decide⟩]
    let ss : List Record := [⟨107, [0xF2], by decide⟩, ⟨107, [0x32, 9], by decide⟩,
      ⟨221, [0x50, 0x6F, 0x9A, 0x10, 0x1B, 8], by decide⟩,
      ⟨221, [0x50, 0x6F, 0x9A, 0x10, 0x1D, 8], by decide⟩,
      ⟨127, [0, 0, 0, 0, 0, 0, 1, 0, 8], by decide⟩, ⟨200, [3, 4], by decide⟩,
      ⟨107, [0xB3, 12, 9], by decide⟩,
      ⟨221, [0x50, 0x6F, 0x9A, 0x10, 0x1E, 3, 1, 9], by decide⟩]
    let s : Findings := {
      interworking := some ⟨.ofCode 3, true, some (.ofCodes 12 1), 0⟩
      indication := some ⟨.ofCode 1, some 0x0103⟩
      capabilities := some (2 ^ 48), seen := 8, skipped := 1, consumed := 53 }
    scan (Record.encodeAll rs) = .ok s ∧ List.Forall₂ Alike rs ss ∧
    scan (Record.encodeAll ss) = .ok s ∧
    (scanNotes (Record.encodeAll ss) s).map Note.line =
      (scanNotes (Record.encodeAll rs) s).map Note.line := by
  intro rs ss s
  have hs : scan (Record.encodeAll rs) = .ok s := by decide +kernel
  have ha : List.Forall₂ Alike rs ss := by decide +kernel
  obtain ⟨rs', hd, h⟩ := scan_of_alike hs
  obtain rfl : rs' = rs := Record.encodeAll_injective hd.symm
  exact ⟨hs, ha, h ss ha⟩

end Element

end Passpoint
