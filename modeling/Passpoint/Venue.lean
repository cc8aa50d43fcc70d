/-!
Where a network is: a group of venues and a kind of venue within it, each an octet on the air.
Codes that no venue has stand for `reserved`.
-/

namespace Passpoint

inductive VenueGroup where
  | unspecified
  | assembly
  | business
  | educational
  | factoryIndustrial
  | institutional
  | mercantile
  | residential
  | storage
  | utilityMiscellaneous
  | vehicular
  | outdoor
  | reserved
  deriving DecidableEq, Repr

namespace VenueGroup

/-- The groups with a code, in the order of their codes. -/
def coded : List VenueGroup :=
  [.unspecified, .assembly, .business, .educational, .factoryIndustrial, .institutional,
   .mercantile, .residential, .storage, .utilityMiscellaneous, .vehicular, .outdoor]

def name : VenueGroup → String
  | .unspecified => "UNSPECIFIED"
  | .assembly => "ASSEMBLY"
  | .business => "BUSINESS"
  | .educational => "EDUCATIONAL"
  | .factoryIndustrial => "FACTORY_INDUSTRIAL"
  | .institutional => "INSTITUTIONAL"
  | .mercantile => "MERCANTILE"
  | .residential => "RESIDENTIAL"
  | .storage => "STORAGE"
  | .utilityMiscellaneous => "UTILITY_MISCELLANEOUS"
  | .vehicular => "VEHICULAR"
  | .outdoor => "OUTDOOR"
  | .reserved => "RESERVED"

def ofName? (name : String) : Option VenueGroup :=
  (.reserved :: coded).find? fun g => g.name = name

def ofCode (code : Int) : VenueGroup :=
  if code < 0 then .reserved else coded.getD code.toNat .reserved

end VenueGroup

inductive VenueType where
  | unspecified
  | unspecifiedAssembly
  | arena
  | stadium
  | passengerTerminal
  | amphitheater
  | amusementPark
  | placeOfWorship
  | conventionCenter
  | library
  | museum
  | restaurant
  | theater
  | bar
  | coffeeShop
  | zooOrAquarium
  | emergencyCoordinationCenter
  | unspecifiedBusiness
  | doctorOrDentistOffice
  | bank
  | fireStation
  | policeStation
  | postOffice
  | professionalOffice
  | researchAndDevelopmentFacility
  | attorneyOffice
  | unspecifiedEducational
  | schoolPrimary
  | schoolSecondary
  | universityOrCollege
  | unspecifiedFactoryIndustrial
  | factory
  | unspecifiedInstitutional
  | hospital
  | longTermCareFacility
  | alcoholAndDrugRehabilitationCenter
  | groupHome
  | prisonOrJail
  | unspecifiedMercantile
  | retailStore
  | groceryMarket
  | automotiveServiceStation
  | shoppingMall
  | gasStation
  | unspecifiedResidential
  | privateResidence
  | hotelOrMotel
  | dormitory
  | boardingHouse
  | unspecifiedStorage
  | unspecifiedUtilityMiscellaneous
  | unspecifiedVehicular
  | automobileOrTruck
  | airplane
  | bus
  | ferry
  | shipOrBoat
  | train
  | motorBike
  | unspecifiedOutdoor
  | muniMeshNetwork
  | cityPark
  | restArea
  | trafficControl
  | busStop
  | kiosk
  | reserved
  deriving DecidableEq, Repr

namespace VenueType

/-- The venues of a group, in the order of their codes. -/
def ofGroup : VenueGroup → List VenueType
  | .unspecified => [.unspecified]
  | .assembly =>
    [.unspecifiedAssembly, .arena, .stadium, .passengerTerminal, .amphitheater, .amusementPark,
     .placeOfWorship, .conventionCenter, .library, .museum, .restaurant, .theater, .bar,
     .coffeeShop, .zooOrAquarium, .emergencyCoordinationCenter]
  | .business =>
    [.unspecifiedBusiness, .doctorOrDentistOffice, .bank, .fireStation, .policeStation, .reserved,
     .postOffice, .professionalOffice, .researchAndDevelopmentFacility, .attorneyOffice]
  | .educational =>
    [.unspecifiedEducational, .schoolPrimary, .schoolSecondary, .universityOrCollege]
  | .factoryIndustrial => [.unspecifiedFactoryIndustrial, .factory]
  | .institutional =>
    [.unspecifiedInstitutional, .hospital, .longTermCareFacility,
     .alcoholAndDrugRehabilitationCenter, .groupHome, .prisonOrJail]
  | .mercantile =>
    [.unspecifiedMercantile, .retailStore, .groceryMarket, .automotiveServiceStation,
     .shoppingMall, .gasStation]
  | .residential =>
    [.unspecifiedResidential, .privateResidence, .hotelOrMotel, .dormitory, .boardingHouse]
  | .storage => [.unspecifiedStorage]
  | .utilityMiscellaneous => [.unspecifiedUtilityMiscellaneous]
  | .vehicular =>
    [.unspecifiedVehicular, .automobileOrTruck, .airplane, .bus, .ferry, .shipOrBoat, .train,
     .motorBike]
  | .outdoor =>
    [.unspecifiedOutdoor, .muniMeshNetwork, .cityPark, .restArea, .trafficControl, .busStop,
     .kiosk]
  | .reserved => []

def name : VenueType → String
  | .unspecified => "UNSPECIFIED"
  | .unspecifiedAssembly => "UNSPECIFIED_ASSEMBLY"
  | .arena => "ARENA"
  | .stadium => "STADIUM"
  | .passengerTerminal => "PASSENGER_TERMINAL"
  | .amphitheater => "AMPHITHEATER"
  | .amusementPark => "AMUSEMENT_PARK"
  | .placeOfWorship => "PLACE_OF_WORSHIP"
  | .conventionCenter => "CONVENTION_CENTER"
  | .library => "LIBRARY"
  | .museum => "MUSEUM"
  | .restaurant => "RESTAURANT"
  | .theater => "THEATER"
  | .bar => "BAR"
  | .coffeeShop => "COFFEE_SHOP"
  | .zooOrAquarium => "ZOO_OR_AQUARIUM"
  | .emergencyCoordinationCenter => "EMERGENCY_COORDINATION_CENTER"
  | .unspecifiedBusiness => "UNSPECIFIED_BUSINESS"
  | .doctorOrDentistOffice => "DOCTOR_OR_DENTIST_OFFICE"
  | .bank => "BANK"
  | .fireStation => "FIRE_STATION"
  | .policeStation => "POLICE_STATION"
  | .postOffice => "POST_OFFICE"
  | .professionalOffice => "PROFESSIONAL_OFFICE"
  | .researchAndDevelopmentFacility => "RESEARCH_AND_DEVELOPMENT_FACILITY"
  | .attorneyOffice => "ATTORNEY_OFFICE"
  | .unspecifiedEducational => "UNSPECIFIED_EDUCATIONAL"
  | .schoolPrimary => "SCHOOL_PRIMARY"
  | .schoolSecondary => "SCHOOL_SECONDARY"
  | .universityOrCollege => "UNIVERSITY_OR_COLLEGE"
  | .unspecifiedFactoryIndustrial => "UNSPECIFIED_FACTORY_INDUSTRIAL"
  | .factory => "FACTORY"
  | .unspecifiedInstitutional => "UNSPECIFIED_INSTITUTIONAL"
  | .hospital => "HOSPITAL"
  | .longTermCareFacility => "LONG_TERM_CARE_FACILITY"
  | .alcoholAndDrugRehabilitationCenter => "ALCOHOL_AND_DRUG_REHABILITATION_CENTER"
  | .groupHome => "GROUP_HOME"
  | .prisonOrJail => "PRISON_OR_JAIL"
  | .unspecifiedMercantile => "UNSPECIFIED_MERCANTILE"
  | .retailStore => "RETAIL_STORE"
  | .groceryMarket => "GROCERY_MARKET"
  | .automotiveServiceStation => "AUTOMOTIVE_SERVICE_STATION"
  | .shoppingMall => "SHOPPING_MALL"
  | .gasStation => "GAS_STATION"
  | .unspecifiedResidential => "UNSPECIFIED_RESIDENTIAL"
  | .privateResidence => "PRIVATE_RESIDENCE"
  | .hotelOrMotel => "HOTEL_OR_MOTEL"
  | .dormitory => "DORMITORY"
  | .boardingHouse => "BOARDING_HOUSE"
  | .unspecifiedStorage => "UNSPECIFIED_STORAGE"
  | .unspecifiedUtilityMiscellaneous => "UNSPECIFIED_UTILITY_MISCELLANEOUS"
  | .unspecifiedVehicular => "UNSPECIFIED_VEHICULAR"
  | .automobileOrTruck => "AUTOMOBILE_OR_TRUCK"
  | .airplane => "AIRPLANE"
  | .bus => "BUS"
  | .ferry => "FERRY"
  | .shipOrBoat => "SHIP_OR_BOAT"
  | .train => "TRAIN"
  | .motorBike => "MOTOR_BIKE"
  | .unspecifiedOutdoor => "UNSPECIFIED_OUTDOOR"
  | .muniMeshNetwork => "MUNI_MESH_NETWORK"
  | .cityPark => "CITY_PARK"
  | .restArea => "REST_AREA"
  | .trafficControl => "TRAFFIC_CONTROL"
  | .busStop => "BUS_STOP"
  | .kiosk => "KIOSK"
  | .reserved => "RESERVED"

def all : List VenueType := VenueGroup.coded.flatMap ofGroup

def ofName? (name : String) : Option VenueType := (.reserved :: all).find? fun t => t.name = name

/-- The venue with a pair of codes. -/
def ofCode (group code : Int) : VenueType :=
  if code < 0 then .reserved else (ofGroup (.ofCode group)).getD code.toNat .reserved

end VenueType

/-- A decoded venue field. -/
structure Venue where
  group : VenueGroup
  kind : VenueType
  deriving DecidableEq, Repr

/-- The venue with two codes. -/
def Venue.ofCodes (group code : UInt8) : Venue :=
  ⟨.ofCode group.toNat, .ofCode group.toNat code.toNat⟩

/-- The venue in the first two octets of a field. -/
def Venue.ofField? : List UInt8 → Option Venue
  | group :: code :: _ => some (.ofCodes group code)
  | _ => none

end Passpoint
