import Passpoint.Element.BssLoad
import Passpoint.Element.Indication
import Passpoint.Element.Interworking
import Passpoint.Element.Name
import Passpoint.Element.Record
import Passpoint.Element.RoamingConsortium
import Passpoint.Log

/-!
Reading an element buffer. Each record is decoded by itself to what it tells, and the findings are
taken up one after another, so that a later element of a kind replaces an earlier one. The first
record that breaks its layout, or octets that form no record, refuse the whole buffer.
-/

namespace Passpoint.Element

/-- What a record tells. -/
inductive Finding where
  | name (octets : Octets)
  | bssLoad (load : BssLoad)
  | interworking (i : Interworking)
  | roamingConsortium (rc : RoamingConsortium)
  | indication (i : Indication)
  | capabilities (bits : Nat)
  /-- Of a known kind, and empty. -/
  | nothing
  /-- Of no known kind. -/
  | unknown
  deriving DecidableEq, Repr

/-- What is found, or `absent`. -/
def Finding.ofOption {α : Type} (absent : Finding) (wrap : α → Finding) : Option α → Finding
  | some a => wrap a
  | none => absent

/-- Decodes a record by its tag. -/
def Finding.ofRecord (r : Record) : Except Flaw Finding :=
  if r.tag = Tag.name then .ok (.name r.body)
  else if r.tag = Tag.bssLoad then .bssLoad <$> BssLoad.decode r.body
  else if r.tag = Tag.interworking then
    .ok (.ofOption .nothing .interworking (Interworking.decode? r.body))
  else if r.tag = Tag.roamingConsortium then
    .roamingConsortium <$> RoamingConsortium.decode r.body
  else if r.tag = Tag.extendedCapabilities then .ok (.capabilities (Capabilities.decode r.body))
  else if r.tag = Tag.vendorSpecific then
    .ok (.ofOption .unknown .indication (Indication.decode? r.body))
  else .ok .unknown

/-- What the elements of a buffer have told. -/
structure Findings where
  name : Option Octets := none
  bssLoad : Option BssLoad := none
  interworking : Option Interworking := none
  roamingConsortium : Option RoamingConsortium := none
  indication : Option Indication := none
  capabilities : Option Nat := none
  /-- How many records there were. -/
  seen : Nat := 0
  /-- How many of them were of no known kind. -/
  skipped : Nat := 0
  /-- How many octets they took. -/
  consumed : Nat := 0
  deriving DecidableEq, Repr

namespace Findings

/-- Takes up what one record tells. -/
def learn (s : Findings) : Finding → Findings
  | .name octets => { s with name := some octets }
  | .bssLoad load => { s with bssLoad := some load }
  | .interworking i => { s with interworking := some i }
  | .roamingConsortium rc => { s with roamingConsortium := some rc }
  | .indication i => { s with indication := some i }
  | .capabilities bits => { s with capabilities := some bits }
  | .nothing => s
  | .unknown => { s with skipped := s.skipped + 1 }

/-- Takes up a record of `size` octets. -/
def add (s : Findings) (size : Nat) (f : Finding) : Findings :=
  let s := s.learn f
  { s with seen := s.seen + 1, consumed := s.consumed + size }

/-- The name of the network. -/
def nameText (s : Findings) : Option String :=
  s.name.map fun octets => Element.nameText octets (s.capabilities.map Int.ofNat)

end Findings

/-! ### Faults -/

inductive Cause where
  | cut (c : Record.Cut)
  | flaw (f : Flaw)
  deriving DecidableEq, Repr

/-- Why a buffer is refused: the record, where it starts, and what is wrong with it. -/
structure Fault where
  tag : UInt8
  offset : Nat
  cause : Cause
  deriving DecidableEq, Repr

def Fault.message (f : Fault) : String :=
  match f.cause with
  | .cut .header => s!"Truncated element header at offset {f.offset}"
  | .cut (.body n) => s!"Length out of bounds: {n}"
  | .flaw flaw => flaw.message

/-! ### Notes -/

/-- What is put up with on the way. -/
inductive Note where
  | shortVenue (length : Nat)
  | emptyInterworking
  | domainMissing
  | capabilitiesCut (length : Nat)
  | scanned (seen skipped octets : Nat)
  deriving DecidableEq, Repr

def Note.message : Note → String
  | .shortVenue n => s!"Runt venue info: {n} octets"
  | .emptyInterworking => "Empty Interworking element ignored"
  | .domainMissing => "HS2.0 element flags an ANQP domain ID but is too short to carry one"
  | .capabilitiesCut n => s!"Extended Capabilities truncated from {n} octets"
  | .scanned seen skipped octets =>
    s!"Scanned {seen} elements ({skipped} skipped) in {octets} octets"

/-- All these are of interest to a debugger only. -/
def Note.line (n : Note) : Log.Line := ⟨.debug, n.message⟩

def notesInterworking (body : Octets) : List Note :=
  if body.isEmpty then [.emptyInterworking] else []

def notesIndication (body : Octets) : List Note :=
  if Indication.lacksDomain body then [.domainMissing] else []

def notesCapabilities (body : Octets) : List Note :=
  if Capabilities.limit < body.length then [.capabilitiesCut body.length] else []

/-- What is put up with in one record. -/
def Note.ofRecord (r : Record) : List Note :=
  if r.tag = Tag.interworking then notesInterworking r.body
  else if r.tag = Tag.extendedCapabilities then notesCapabilities r.body
  else if r.tag = Tag.vendorSpecific then notesIndication r.body
  else []

/-! ### The scan -/

/-- Takes up records that start at an offset. -/
def absorb (offset : Nat) (s : Findings) : List Record → Except Fault Findings
  | [] => .ok s
  | r :: rs =>
    match Finding.ofRecord r with
    | .error flaw => .error ⟨r.tag, offset, .flaw flaw⟩
    | .ok f => absorb (offset + r.size) (s.add r.size f) rs

/-- What the elements of a buffer tell. -/
def scan (data : Octets) : Except Fault Findings := do
  let (records, rest) := Record.split data
  let s ← absorb 0 {} records
  match rest with
  | none => return s
  | some rest => throw ⟨rest.tag, s.consumed, .cut rest.cut⟩

/-- The notes of a scan that went well. -/
def scanNotes (data : Octets) (s : Findings) : List Note :=
  (Record.split data).1.flatMap Note.ofRecord ++ [.scanned s.seen s.skipped data.length]

end Passpoint.Element
