/-!
The tags of the elements that are read. Any other tag is passed over.
-/

namespace Passpoint.Element.Tag

/-- The name of the network. -/
abbrev name : UInt8 := 0

abbrev bssLoad : UInt8 := 11

abbrev interworking : UInt8 := 107

abbrev roamingConsortium : UInt8 := 111

abbrev extendedCapabilities : UInt8 := 127

/-- Elements of a vendor, among them the Hotspot 2.0 Indication. -/
abbrev vendorSpecific : UInt8 := 221

end Passpoint.Element.Tag
