import Mathlib.Data.Nat.Digits.Defs
import Passpoint.Proofs.Codes
import Passpoint.Proofs.Layout

/-! Elements as a station sends them. Each kind of element has a type of what may be sent, the
octets it is sent as, and what it means to a receiver; the decoder of the kind turns the octets into
the meaning. Bits that mean nothing are part of what is sent and may have any value. -/

namespace Passpoint

/-! ## Numbers -/

theorem littleEndian_eq_ofDigits (bs : Octets) :
    littleEndian bs = Nat.ofDigits 256 (bs.map UInt8.toNat) := by
  induction bs with
  | nil => rfl
  | cons b bs ih => rw [littleEndian, ih, List.map_cons, Nat.ofDigits_cons]

theorem bigEndian_reverse (bs : Octets) : bigEndian bs.reverse = littleEndian bs := by
  induction bs with
  | nil => rfl
  | cons b bs ih =>
    rw [bigEndian] at ih
    rw [bigEndian, List.reverse_cons, List.foldl_append, ih, littleEndian]
    simp only [List.foldl_cons, List.foldl_nil]
    omega

theorem bigEndian_eq_ofDigits (bs : Octets) :
    bigEndian bs = Nat.ofDigits 256 (bs.reverse.map UInt8.toNat) := by
  rw [← littleEndian_eq_ofDigits, ← bigEndian_reverse, List.reverse_reverse]

/-- The first `k` octets of a number, least significant octet first. -/
def octetsOf : Nat → Nat → Octets
  | 0, _ => []
  | k + 1, n => UInt8.ofNat n :: octetsOf k (n / 256)

@[simp] theorem length_octetsOf (k n : Nat) : (octetsOf k n).length = k := by
  induction k generalizing n with
  | zero => rfl
  | succ k ih => rw [octetsOf, List.length_cons, ih]

theorem littleEndian_octetsOf {k n : Nat} (h : n < 256 ^ k) : littleEndian (octetsOf k n) = n := by
  induction k generalizing n with
  | zero =>
    have hn : n = 0 := by omega
    rw [hn]
    rfl
  | succ k ih =>
    have hd : n / 256 < 256 ^ k := Nat.div_lt_of_lt_mul (by rwa [Nat.pow_succ'] at h)
    rw [octetsOf, littleEndian, ih hd, UInt8.toNat_ofNat']
    omega

namespace Element

/-! ## Name and capabilities -/

def nameRecord (octets : {octets : Octets // octets.length ≤ 255}) : Record :=
  ⟨0, octets.1, octets.2⟩

/-- No more than the octets that count. -/
def capabilitiesRecord (octets : {octets : Octets // octets.length ≤ 8}) : Record :=
  ⟨127, octets.1, Nat.le_trans octets.2 (by decide)⟩

theorem Capabilities.decode_eq_ofDigits {octets : Octets} (h : octets.length ≤ 8) :
    decode octets = Nat.ofDigits 256 (octets.map UInt8.toNat) := by
  rw [decode, limit, List.take_of_length_le h, littleEndian_eq_ofDigits]

/-! ## Load -/

/-- Both counts are little-endian. -/
def BssLoad.body (load : BssLoad) : Octets :=
  octetsOf 2 load.stations.toNat ++ load.utilization :: octetsOf 2 load.capacity.toNat

theorem BssLoad.decode_body (load : BssLoad) : decode load.body = .ok load := by
  have h (n : UInt16) : UInt16.ofNat (littleEndian (octetsOf 2 n.toNat)) = n := by
    rw [littleEndian_octetsOf n.toNat_lt, UInt16.ofNat_toNat]
  have hs := h load.stations
  have hc := h load.capacity
  rw [body, octetsOf, octetsOf, octetsOf, octetsOf, octetsOf, octetsOf] at *
  simp only [List.cons_append, List.nil_append, decode, hs, hc]

def BssLoad.record (load : BssLoad) : Record := ⟨11, load.body, by simp [body]⟩

/-! ## Interworking -/

/-- What an Interworking element may be made of. -/
structure Interworking.Sent where
  access : AccessNetwork
  internet : Bool
  /-- The last three bits of the options, which mean nothing. -/
  spare : BitVec 3
  /-- The codes of a group and of a venue. -/
  venue : Option (UInt8 × UInt8)
  hessid : Option (BitVec 48)

namespace Interworking.Sent

/-- The kind of access in the low nibble, the internet in bit 4. -/
def options (w : Sent) : UInt8 :=
  UInt8.ofNat (w.access.code + 16 * w.internet.toNat + 32 * w.spare.toNat)

/-- The identifier is big-endian. -/
def body (w : Sent) : Octets :=
  w.options :: ((w.venue.elim [] fun v => [v.1, v.2]) ++
    w.hessid.elim [] fun h => (octetsOf 6 h.toNat).reverse)

def means (w : Sent) : Interworking where
  access := w.access
  internet := w.internet
  venue := w.venue.map fun v =>
    ⟨.withCode v.1.toNat, .withCodes v.1.toNat v.2.toNat⟩
  hessid := w.hessid.elim 0 BitVec.toNat

theorem toNat_options (w : Sent) :
    w.options.toNat = w.access.code + 16 * (w.internet.toNat + 2 * w.spare.toNat) := by
  have ha := w.access.code_lt
  have hi := w.internet.toNat_lt
  have hs := w.spare.isLt
  rw [options, UInt8.toNat_ofNat']
  omega

theorem access_options (w : Sent) : AccessNetwork.ofCode w.options.toNat = w.access := by
  rw [toNat_options, AccessNetwork.ofCode_code_add]

theorem internet_options (w : Sent) : (w.options.toNat / 16 % 2 = 1) = (w.internet = true) := by
  have ha := w.access.code_lt
  rw [toNat_options]
  cases w.internet <;> simp <;> omega

theorem bigEndian_hessid (h : BitVec 48) : bigEndian (octetsOf 6 h.toNat).reverse = h.toNat := by
  rw [bigEndian_reverse, littleEndian_octetsOf h.isLt]

theorem ofField?_octets (group code : UInt8) (bs : Octets) :
    Venue.ofField? (group :: code :: bs) =
      some ⟨.withCode group.toNat, .withCodes group.toNat code.toNat⟩ := by
  rw [Venue.ofField?, Venue.ofCodes, VenueGroup.ofCode_eq_withCode, VenueType.ofCode_eq_withCodes]

theorem decode?_body (w : Sent) : decode? w.body = some w.means := by
  -- What follows the options is told by the length alone, so each combination is read by itself.
  cases hv : w.venue with
  | none =>
    cases hh : w.hessid with
    | none =>
      simp [body, means, decode?, hv, hh, access_options, internet_options, hasVenue, hasHessid]
    | some h =>
      simp [body, means, decode?, hv, hh, access_options, internet_options, hasVenue, hasHessid,
        bigEndian_hessid, List.take_of_length_le]
  | some v =>
    cases hh : w.hessid with
    | none =>
      simp [body, means, decode?, hv, hh, access_options, internet_options, hasVenue, hasHessid,
        ofField?_octets]
    | some h =>
      simp [body, means, decode?, hv, hh, access_options, internet_options, hasVenue, hasHessid,
        ofField?_octets, bigEndian_hessid, List.take_of_length_le]

theorem length_body_le (w : Sent) : w.body.length ≤ 255 := by
  cases hv : w.venue <;> cases hh : w.hessid <;> simp [body, hv, hh]

def record (w : Sent) : Record := ⟨107, w.body, w.length_body_le⟩

end Interworking.Sent

/-! ## Roaming consortium -/

/-- What a Roaming Consortium element may be made of. The first two identifiers have their lengths
in a nibble each. -/
structure RoamingConsortium.Sent where
  queryable : UInt8
  first : Octets
  second : Octets
  third : Octets
  first_le : first.length ≤ 15
  second_le : second.length ≤ 15
  length_le : 2 + first.length + second.length + third.length ≤ 255

namespace RoamingConsortium.Sent

/-- The length of the first identifier in the low nibble, that of the second in the high one. -/
def lengths (w : Sent) : UInt8 := UInt8.ofNat (w.first.length + 16 * w.second.length)

def body (w : Sent) : Octets := w.queryable :: w.lengths :: (w.first ++ w.second ++ w.third)

/-- Identifiers without octets are absent; the others are big-endian. -/
def means (w : Sent) : RoamingConsortium where
  queryable := w.queryable
  identifiers := ([w.first, w.second, w.third].filter (· ≠ [])).map fun oi =>
    Nat.ofDigits 256 (oi.reverse.map UInt8.toNat)

theorem toNat_lengths (w : Sent) :
    w.lengths.toNat = w.first.length + 16 * w.second.length := by
  have := w.first_le
  have := w.second_le
  rw [lengths, UInt8.toNat_ofNat']
  omega

theorem lowNibble_lengths (w : Sent) : lowNibble w.lengths = w.first.length := by
  have := w.first_le
  rw [lowNibble, toNat_lengths]
  omega

theorem highNibble_lengths (w : Sent) : highNibble w.lengths = w.second.length := by
  have := w.first_le
  rw [highNibble, toNat_lengths]
  omega

/-- Cutting by the lengths gives the identifiers back. -/
theorem parts_octets (first second third : Octets) :
    parts first.length second.length (first ++ second ++ third) =
      [first, second, third].filter (· ≠ []) := by
  have hd : (first ++ second ++ third).drop (first.length + second.length) = third := by
    rw [← List.length_append, List.drop_left]
  rw [parts, hd, List.append_assoc, List.take_left, List.drop_left, List.take_left]
  refine List.filter_congr fun oi _ => ?_
  cases oi <;> rfl

theorem decode_body (w : Sent) : decode w.body = .ok w.means := by
  have hl : ¬ (w.first ++ w.second ++ w.third).length < w.first.length + w.second.length := by
    simp only [List.length_append]
    omega
  have hn : bigEndian = fun oi => Nat.ofDigits 256 (oi.reverse.map UInt8.toNat) :=
    funext bigEndian_eq_ofDigits
  simp only [body, decode, lowNibble_lengths, highNibble_lengths, if_neg hl, parts_octets, means,
    hn]

theorem length_body_le (w : Sent) : w.body.length ≤ 255 := by
  have := w.length_le
  simp only [body, List.length_cons, List.length_append]
  omega

def record (w : Sent) : Record := ⟨111, w.body, w.length_body_le⟩

end RoamingConsortium.Sent

/-! ## Indication -/

/-- What a Hotspot 2.0 Indication may be made of. -/
structure Indication.Sent where
  release : BitVec 4
  domain : Option UInt16
  /-- Bits 0 and 1 of the settings, which mean nothing. -/
  spare : BitVec 2
  /-- Bit 3 of the settings, which means nothing either. -/
  spare' : Bool

namespace Indication.Sent

/-- The release in the high nibble, and bit 2 for a domain. -/
def settings (w : Sent) : UInt8 :=
  UInt8.ofNat (16 * w.release.toNat + 8 * w.spare'.toNat + 4 * w.domain.isSome.toNat +
    w.spare.toNat)

/-- The domain is little-endian. -/
def body (w : Sent) : Octets :=
  [0x50, 0x6F, 0x9A, 0x10] ++ w.settings :: w.domain.elim [] fun d => octetsOf 2 d.toNat

def means (w : Sent) : Indication where
  release := if w.release = 0 then .r1 else if w.release = 1 then .r2 else .unknown
  domain := w.domain

theorem toNat_settings (w : Sent) :
    w.settings.toNat = 16 * w.release.toNat + 8 * w.spare'.toNat + 4 * w.domain.isSome.toNat +
      w.spare.toNat := by
  have hr := w.release.isLt
  have hb := w.spare'.toNat_lt
  have hd := w.domain.isSome.toNat_lt
  have hs := w.spare.isLt
  rw [settings, UInt8.toNat_ofNat']
  omega

theorem release_settings (w : Sent) :
    Release.ofCode (highNibble w.settings : Nat) = w.means.release := by
  have hh : highNibble w.settings = w.release.toNat := by
    have hb := w.spare'.toNat_lt
    have hd := w.domain.isSome.toNat_lt
    have hs := w.spare.isLt
    rw [highNibble, toNat_settings]
    omega
  rw [hh, Release.ofCode, means]
  have h0 : ((w.release.toNat : Int) = 0) ↔ w.release = 0 := by
    rw [← BitVec.toNat_inj]
    simp
  have h1 : ((w.release.toNat : Int) = 1) ↔ w.release = 1 := by
    rw [← BitVec.toNat_inj]
    simp
  simp only [h0, h1]

theorem flagsDomain_settings (w : Sent) : flagsDomain w.settings = w.domain.isSome := by
  have hs := w.spare.isLt
  rw [flagsDomain, toNat_settings]
  cases w.domain <;> cases w.spare' <;> simp <;> omega

theorem domain?_octets (d : UInt16) : domain? (octetsOf 2 d.toNat) = some d := by
  have h : littleEndian (octetsOf 2 d.toNat) = d.toNat := littleEndian_octetsOf d.toNat_lt
  rw [octetsOf, octetsOf, octetsOf] at *
  rw [domain?, h, UInt16.ofNat_toNat]

theorem decode?_body (w : Sent) : decode? w.body = some w.means := by
  have hs : settings? w.body =
      some (w.settings, w.domain.elim [] fun d => octetsOf 2 d.toNat) := rfl
  simp only [decode?, hs, Option.map_some, release_settings, flagsDomain_settings]
  cases hd : w.domain with
  | none => simp [means, hd]
  | some d => simp [means, hd, domain?_octets]

theorem length_body_le (w : Sent) : w.body.length ≤ 255 := by
  cases hd : w.domain <;> simp [body, hd]

theorem isSigned_body (w : Sent) : IsSigned w.body := by
  refine ⟨?_, List.prefix_append _ _⟩
  simp only [body, List.length_append, List.length_cons]
  omega

def record (w : Sent) : Record := ⟨221, w.body, w.length_body_le⟩

end Indication.Sent

end Element

end Passpoint
