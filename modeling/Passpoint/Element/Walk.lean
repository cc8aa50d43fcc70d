import Passpoint.Element.Scan

/-!
A scan with its log. A walk goes through a buffer octet by octet: it cuts off one record, decodes it
and takes up what it tells, and notes whatever it puts up with where it meets it. The decoders are
those of a scan, but for their notes.
-/

namespace Passpoint.Element

/-- What a step gives: its result, and what it notes on the way, also if it goes wrong. -/
structure Noted (ε α : Type) where
  notes : List Note
  result : Except ε α

namespace Noted

variable {ε ε' α β : Type}

def note (n : Note) : Noted ε Unit := ⟨[n], .ok ()⟩

def fail (e : ε) : Noted ε α := ⟨[], .error e⟩

def ofExcept (result : Except ε α) : Noted ε α := ⟨[], result⟩

def andThen (o : Noted ε α) (next : α → Noted ε β) : Noted ε β :=
  match o.result with
  | .error e => ⟨o.notes, .error e⟩
  | .ok a => ⟨o.notes ++ (next a).notes, (next a).result⟩

instance : Monad (Noted ε) where
  pure a := ⟨[], .ok a⟩
  bind := andThen

def mapFault (f : ε → ε') (o : Noted ε α) : Noted ε' α := ⟨o.notes, o.result.mapError f⟩

end Noted

open Noted (note fail ofExcept)

/-! ### Decoders -/

/-- The venue in a field; a field that is too short has none. -/
def readVenue (field : Octets) : Noted Flaw (Option Venue) := do
  if field.length < 2 then note (.shortVenue field.length)
  return Venue.ofField? field

def readInterworking : Octets → Noted Flaw (Option Interworking)
  | [] => do
    note .emptyInterworking
    return none
  | options :: fields => do
    let length := fields.length + 1
    let venue ← if Interworking.hasVenue length then readVenue (fields.take 2) else pure none
    let fields := if Interworking.hasVenue length then fields.drop 2 else fields
    return some {
      access := .ofCode options.toNat
      internet := options.toNat / 16 % 2 = 1
      venue
      hessid := if Interworking.hasHessid length then bigEndian (fields.take 6) else 0 }

/-- The domain in the octets behind the settings. -/
def readDomain (rest : Octets) : Noted Flaw (Option UInt16) := do
  if (Indication.domain? rest).isNone then note .domainMissing
  return Indication.domain? rest

def readIndication (body : Octets) : Noted Flaw (Option Indication) :=
  match Indication.settings? body with
  | none => return none
  | some (settings, rest) => do
    let domain ← if Indication.flagsDomain settings then readDomain rest else pure none
    return some ⟨.ofCode (highNibble settings), domain⟩

def readCapabilities (body : Octets) : Noted Flaw Nat := do
  if Capabilities.limit < body.length then note (.capabilitiesCut body.length)
  return Capabilities.decode body

/-- Decodes a body by its tag. -/
def readBody (tag : UInt8) (body : Octets) : Noted Flaw Finding :=
  if tag = Tag.name then return .name body
  else if tag = Tag.bssLoad then return .bssLoad (← ofExcept (BssLoad.decode body))
  else if tag = Tag.interworking then
    return .ofOption .nothing .interworking (← readInterworking body)
  else if tag = Tag.roamingConsortium then
    return .roamingConsortium (← ofExcept (RoamingConsortium.decode body))
  else if tag = Tag.vendorSpecific then
    return .ofOption .unknown .indication (← readIndication body)
  else if tag = Tag.extendedCapabilities then return .capabilities (← readCapabilities body)
  else return .unknown

/-! ### The walk -/

/-- Takes up the records of a buffer that starts at an offset. -/
def walkFrom (offset : Nat) (s : Findings) : Octets → Noted Fault Findings
  | [] => return s
  | [tag] => fail ⟨tag, offset, .cut .header⟩
  | tag :: n :: bs =>
    if n.toNat ≤ bs.length then do
      let f ← (readBody tag (bs.take n.toNat)).mapFault fun flaw => ⟨tag, offset, .flaw flaw⟩
      walkFrom (offset + (n.toNat + 2)) (s.add (n.toNat + 2) f) (bs.drop n.toNat)
    else fail ⟨tag, offset, .cut (.body n.toNat)⟩
termination_by bs => bs.length
decreasing_by simp only [List.length_drop, List.length_cons]; omega

/-- What the elements of a buffer tell, and the log of finding it out. -/
def walk (data : Octets) : Noted Fault Findings := do
  let s ← walkFrom 0 {} data
  note (.scanned s.seen s.skipped data.length)
  return s

end Passpoint.Element
