import Passpoint.Network.Basic
import Passpoint.Report.Json

/-!
Networks in reports: as one line of text, and as JSON with a member for every field.
-/

namespace Passpoint.Network

open Report (Json)

def truthText (b : Bool) : String := if b then "True" else "False"

def orNone : Option String → String
  | none => "None"
  | some s => s

def identifierText (n : Int) : String := Text.hexOfInt "" n

def identifiersText : Option (List Int) → String
  | none => "null"
  | some ns => "[" ++ ", ".intercalate (ns.map identifierText) ++ "]"

/-- All fields but the answers, on one line. -/
def line (n : Network) : String :=
  let fields : List (String × String) :=
    [("SSID", s!"'{n.nameText}'"),
     ("HESSID", Text.hexOfInt "" n.hessid),
     ("BSSID", Text.hexOfInt "" n.bssid),
     ("StationCount", toString n.stations),
     ("ChannelUtilization", toString n.utilization),
     ("Capacity", toString n.capacity),
     ("Ant", orNone (n.access.map AccessNetwork.name)),
     ("Internet", truthText n.internet),
     ("VenueGroup", orNone (n.venueGroup.map VenueGroup.name)),
     ("VenueType", orNone (n.venueType.map VenueType.name)),
     ("HSRelease", orNone (n.release.map Release.name)),
     ("AnqpDomainID", toString n.domain),
     ("AnqpOICount", toString n.queryable),
     ("RoamingConsortiums", identifiersText n.identifiers)]
  "NetworkInfo\x7b" ++ ", ".intercalate (fields.map fun f => f.1 ++ "=" ++ f.2) ++ "\x7d"

def answerJson (a : Anqp.Answer) : Json :=
  .object
    [("element_type", .text a.kind.name),
     ("code", .int a.kind.code),
     ("payload", .text (Text.hexOfOctets a.payload))]

def textOrNull {α : Type} (f : α → String) : Option α → Json :=
  Json.ofOption fun a => .text (f a)

/-- Every field. Addresses and identifiers are text, and a set identifier of zero is null. -/
def toJson (n : Network) : Json :=
  .object
    [("ssid", textOrNull id n.ssid),
     ("bssid", .text n.addressText),
     ("hessid", if n.hessid = 0 then .null else .text (Address.format n.hessid)),
     ("station_count", .int n.stations),
     ("channel_utilization", .int n.utilization),
     ("capacity", .int n.capacity),
     ("access_network_type", textOrNull AccessNetwork.name n.access),
     ("internet_available", .bool n.internet),
     ("venue_group", textOrNull VenueGroup.name n.venueGroup),
     ("venue_type", textOrNull VenueType.name n.venueType),
     ("hs_release", textOrNull Release.label n.release),
     ("anqp_domain_id", .int n.domain),
     ("anqp_oi_count", .int n.queryable),
     ("roaming_consortium_ois",
       Json.ofOption (fun ns => .list (ns.map fun i => .text (identifierText i))) n.identifiers),
     ("extended_capabilities", textOrNull (Text.hexOfInt "0x") n.capabilities),
     ("ssid_utf8", .bool n.announcesUtf8),
     ("anqp_elements", .list (n.answers.toList.map answerJson))]

/-- The JSON text of a network. -/
def jsonText (indent : Option Json.Indent) (n : Network) : String := n.toJson.render indent

/-- What a list of networks says in brackets: release, access and internet, as far as known. -/
def flags (n : Network) : List String :=
  (n.release.map fun r => s!"HS2.0 {r.label}").toList ++ (n.access.map AccessNetwork.name).toList ++
    (if n.internet then ["internet"] else [])

/-- The entry of a network in a list. -/
def summary (n : Network) : String :=
  let flags := n.flags
  "  " ++ n.keyText ++ (if flags.isEmpty then "" else "  [" ++ ", ".intercalate flags ++ "]")

end Passpoint.Network
