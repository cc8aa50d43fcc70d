import Passpoint.Address
import Passpoint.Anqp.Lines
import Passpoint.Element.Scan
import Passpoint.Element.ScanText

/-!
What a beacon and the answers to queries tell about one network. A network is built from its
address and the findings of a scan; the answers may be filled in later, which gives a new value.

Two values describe the same network if name and address agree, whatever else they tell.
-/

namespace Passpoint

structure Network where
  /-- The name; nothing if the beacon had no such element. -/
  ssid : Option String
  bssid : Int
  /-- The identifier of the homogeneous set; zero if there is none. -/
  hessid : Int := 0
  stations : Int := 0
  utilization : Int := 0
  capacity : Int := 0
  /-- Known exactly if there was an Interworking element. -/
  access : Option AccessNetwork := none
  internet : Bool := false
  venueGroup : Option VenueGroup := none
  venueType : Option VenueType := none
  release : Option Release := none
  /-- The ANQP domain, or minus one. -/
  domain : Int := -1
  queryable : Int := 0
  /-- Known exactly if there was a Roaming Consortium element. -/
  identifiers : Option (List Int) := none
  capabilities : Option Int := none
  answers : Anqp.Answers := .empty
  deriving DecidableEq

namespace Network

/-- Why there is no network to describe. -/
inductive Fault where
  | text (f : Element.ScanText.Fault)
  | address (f : Address.Fault)
  | element (f : Element.Fault)
  deriving DecidableEq, Repr

def Fault.message : Fault → String
  | .text f => f.message
  | .address f => f.message
  | .element f => f.message

/-- The network with an address, after a scan. -/
def ofFindings (bssid : Int) (s : Element.Findings) (answers : Anqp.Answers) : Network where
  ssid := s.nameText
  bssid := bssid
  hessid := s.interworking.elim 0 fun i => (i.hessid : Int)
  stations := s.bssLoad.elim 0 fun l => (l.stations.toNat : Int)
  utilization := s.bssLoad.elim 0 fun l => (l.utilization.toNat : Int)
  capacity := s.bssLoad.elim 0 fun l => (l.capacity.toNat : Int)
  access := s.interworking.map (·.access)
  internet := s.interworking.any (·.internet)
  venueGroup := (s.interworking.bind (·.venue)).map (·.group)
  venueType := (s.interworking.bind (·.venue)).map (·.kind)
  release := s.indication.map (·.release)
  domain := (s.indication.bind (·.domain)).elim (-1) fun d => (d.toNat : Int)
  queryable := s.roamingConsortium.elim 0 fun rc => (rc.queryable.toNat : Int)
  identifiers := s.roamingConsortium.map fun rc => rc.identifiers.map Int.ofNat
  capabilities := s.capabilities.map Int.ofNat
  answers := answers

/-- From the text of an address and an element buffer. The address is read first. -/
def ofOctets (bssid : Option String) (data : Octets) (answers : Anqp.Answers) :
    Except Fault Network := do
  let address ← (Address.parse? bssid).mapError .address
  let s ← (Element.scan data).mapError .element
  return ofFindings address s answers

/-- From the two texts of a scan result. The elements are read first, up to their digits. -/
def ofScanText (bssid elements : Option String) (answers : Anqp.Answers) :
    Except Fault Network := do
  let data ← (Element.ScanText.parse? elements).mapError .text
  ofOctets bssid data answers

section

variable {m : Type → Type} [Monad m] (read : Anqp.Reader m)

/-- From the text of an address, an element buffer and lines of answers. The lines are read last,
when nothing else is at fault. -/
def ofOctetsWith (bssid : Option String) (data : Octets) (lines : Option (List String)) :
    ExceptT Fault m Network := do
  let address ← (Address.parse? bssid).mapError Fault.address
  let s ← (Element.scan data).mapError Fault.element
  return ofFindings address s (← read lines)

/-- From the two texts of a scan result and lines of answers. -/
def ofScanTextWith (bssid elements : Option String) (lines : Option (List String)) :
    ExceptT Fault m Network := do
  let data ← (Element.ScanText.parse? elements).mapError Fault.text
  ofOctetsWith read bssid data lines

end

/-- The same network with other answers. -/
def complete (n : Network) (answers : Anqp.Answers) : Network := { n with answers }

/-- Whether there was an Interworking element. -/
def isInterworking (n : Network) : Bool := n.access.isSome

/-- Whether the beacon told anything about roaming or hotspots. -/
def isPasspoint (n : Network) : Bool :=
  n.access.isSome || n.identifiers.isSome || n.release.isSome

/-- Whether the name was announced as UTF-8. -/
def announcesUtf8 (n : Network) : Bool := Element.Capabilities.announcesUtf8 n.capabilities

def addressText (n : Network) : String := Address.format n.bssid

def nameText (n : Network) : String := n.ssid.getD "None"

/-- Name and address as one text. A missing name reads like the name `None`. -/
def keyText (n : Network) : String := s!"'{n.nameText}':{n.addressText}"

/-- Whether two values describe one network. -/
def sameAs (a b : Network) : Bool := a.ssid = b.ssid && a.bssid = b.bssid

end Network

end Passpoint
