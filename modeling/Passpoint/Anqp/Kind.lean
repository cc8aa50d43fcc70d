/-!
The kinds of ANQP elements: those of the query protocol itself, with the codes of its information
elements, and those of Hotspot 2.0, with the subtypes of its vendor element.
-/

namespace Passpoint.Anqp

inductive Kind where
  | queryList
  | capabilityList
  | venueName
  | emergencyNumber
  | authenticationType
  | roamingConsortium
  | addressAvailability
  | naiRealm
  | cellularNetwork
  | geospatialLocation
  | civicLocation
  | locationUri
  | domainName
  | emergencyAlert
  | tdlsCapability
  | emergencyNai
  | neighborReport
  | vendorSpecific
  | hotspotCapabilityList
  | operatorName
  | wanMetrics
  | connectionCapability
  | homeRealmQuery
  | operatingClass
  | signUpProviders
  | iconRequest
  | iconFile
  deriving DecidableEq, Repr

namespace Kind

def all : List Kind :=
  [.queryList, .capabilityList, .venueName, .emergencyNumber, .authenticationType,
   .roamingConsortium, .addressAvailability, .naiRealm, .cellularNetwork, .geospatialLocation,
   .civicLocation, .locationUri, .domainName, .emergencyAlert, .tdlsCapability, .emergencyNai,
   .neighborReport, .vendorSpecific, .hotspotCapabilityList, .operatorName, .wanMetrics,
   .connectionCapability, .homeRealmQuery, .operatingClass, .signUpProviders, .iconRequest,
   .iconFile]

def name : Kind → String
  | .queryList => "ANQP_QUERY_LIST"
  | .capabilityList => "ANQP_CAPABILITY_LIST"
  | .venueName => "ANQP_VENUE_NAME"
  | .emergencyNumber => "ANQP_EMERGENCY_NUMBER"
  | .authenticationType => "ANQP_NETWORK_AUTH_TYPE"
  | .roamingConsortium => "ANQP_ROAMING_CONSORTIUM"
  | .addressAvailability => "ANQP_IP_ADDR_AVAILABILITY"
  | .naiRealm => "ANQP_NAI_REALM"
  | .cellularNetwork => "ANQP_3GPP_NETWORK"
  | .geospatialLocation => "ANQP_GEO_LOC"
  | .civicLocation => "ANQP_CIVIC_LOC"
  | .locationUri => "ANQP_LOC_URI"
  | .domainName => "ANQP_DOMAIN_NAME"
  | .emergencyAlert => "ANQP_EMERGENCY_ALERT"
  | .tdlsCapability => "ANQP_TDLS_CAPABILITY"
  | .emergencyNai => "ANQP_EMERGENCY_NAI"
  | .neighborReport => "ANQP_NEIGHBOR_REPORT"
  | .vendorSpecific => "ANQP_VENDOR_SPEC"
  | .hotspotCapabilityList => "HS_CAPABILITY_LIST"
  | .operatorName => "HS_FRIENDLY_NAME"
  | .wanMetrics => "HS_WAN_METRICS"
  | .connectionCapability => "HS_CONN_CAPABILITY"
  | .homeRealmQuery => "HS_NAI_HOME_REALM_QUERY"
  | .operatingClass => "HS_OPERATING_CLASS"
  | .signUpProviders => "HS_OSU_PROVIDERS"
  | .iconRequest => "HS_ICON_REQUEST"
  | .iconFile => "HS_ICON_FILE"

def ofName? (name : String) : Option Kind := all.find? fun k => k.name = name

/-- The code of a kind among its own. -/
def code : Kind → Nat
  | .queryList => 256
  | .capabilityList => 257
  | .venueName => 258
  | .emergencyNumber => 259
  | .authenticationType => 260
  | .roamingConsortium => 261
  | .addressAvailability => 262
  | .naiRealm => 263
  | .cellularNetwork => 264
  | .geospatialLocation => 265
  | .civicLocation => 266
  | .locationUri => 267
  | .domainName => 268
  | .emergencyAlert => 269
  | .tdlsCapability => 270
  | .emergencyNai => 271
  | .neighborReport => 272
  | .vendorSpecific => 56797
  | .hotspotCapabilityList => 2
  | .operatorName => 3
  | .wanMetrics => 4
  | .connectionCapability => 5
  | .homeRealmQuery => 6
  | .operatingClass => 7
  | .signUpProviders => 8
  | .iconRequest => 10
  | .iconFile => 11

/-- Whether a kind belongs to Hotspot 2.0. -/
def isHotspot : Kind → Bool
  | .hotspotCapabilityList
  | .operatorName
  | .wanMetrics
  | .connectionCapability
  | .homeRealmQuery
  | .operatingClass
  | .signUpProviders
  | .iconRequest
  | .iconFile => true
  | _ => false

/-- The names under which a supplicant prints answers. -/
def supplicantNames : List (String × Kind) :=
  [("anqp_capability_list", .capabilityList),
   ("anqp_venue_name", .venueName),
   ("anqp_network_auth_type", .authenticationType),
   ("anqp_roaming_consortium", .roamingConsortium),
   ("anqp_ip_addr_type_availability", .addressAvailability),
   ("anqp_nai_realm", .naiRealm),
   ("anqp_3gpp", .cellularNetwork),
   ("anqp_domain_name", .domainName),
   ("hs20_operator_friendly_name", .operatorName),
   ("hs20_wan_metrics", .wanMetrics),
   ("hs20_connection_capability", .connectionCapability),
   ("hs20_operating_class", .operatingClass),
   ("hs20_osu_providers_list", .signUpProviders)]

def ofSupplicantName? (name : String) : Option Kind := supplicantNames.lookup name

end Kind

end Passpoint.Anqp
