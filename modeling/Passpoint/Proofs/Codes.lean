import Mathlib.Tactic.IntervalCases
import Passpoint.AccessNetwork
import Passpoint.Venue

/-! The codes of the tables, written out. The lookups go by position in a list; here each constant
has its code, and a lookup is shown to find exactly the constant with the code it is given. A code
that no constant has gives `reserved`. -/

namespace Passpoint

/-! ## Access -/

/-- The four bits of a kind of access. -/
def AccessNetwork.code : AccessNetwork → Nat
  | .privateOnly => 0
  | .privateWithGuests => 1
  | .chargeablePublic => 2
  | .freePublic => 3
  | .personal => 4
  | .emergencyOnly => 5
  | .reserved6 => 6
  | .reserved7 => 7
  | .reserved8 => 8
  | .reserved9 => 9
  | .reserved10 => 10
  | .reserved11 => 11
  | .reserved12 => 12
  | .reserved13 => 13
  | .experimental => 14
  | .wildcard => 15

theorem AccessNetwork.code_lt (a : AccessNetwork) : a.code < 16 := by
  cases a <;> decide

/-- Only the last four bits count. -/
theorem AccessNetwork.ofCode_code_add (a : AccessNetwork) (n : Nat) :
    ofCode ((a.code + 16 * n : Nat) : Int) = a := by
  have hm : (((a.code + 16 * n : Nat) : Int) % 16).toNat = a.code := by
    have := a.code_lt
    omega
  rw [ofCode, hm]
  cases a <;> rfl

/-! ## Venues -/

def VenueGroup.code : VenueGroup → Int
  | .unspecified => 0
  | .assembly => 1
  | .business => 2
  | .educational => 3
  | .factoryIndustrial => 4
  | .institutional => 5
  | .mercantile => 6
  | .residential => 7
  | .storage => 8
  | .utilityMiscellaneous => 9
  | .vehicular => 10
  | .outdoor => 11
  | .reserved => -1

/-- The codes of a venue: that of its group, and its own within the group. -/
def VenueType.codes : VenueType → Int × Int
  | .unspecified => (0, 0)
  | .unspecifiedAssembly => (1, 0)
  | .arena => (1, 1)
  | .stadium => (1, 2)
  | .passengerTerminal => (1, 3)
  | .amphitheater => (1, 4)
  | .amusementPark => (1, 5)
  | .placeOfWorship => (1, 6)
  | .conventionCenter => (1, 7)
  | .library => (1, 8)
  | .museum => (1, 9)
  | .restaurant => (1, 10)
  | .theater => (1, 11)
  | .bar => (1, 12)
  | .coffeeShop => (1, 13)
  | .zooOrAquarium => (1, 14)
  | .emergencyCoordinationCenter => (1, 15)
  | .unspecifiedBusiness => (2, 0)
  | .doctorOrDentistOffice => (2, 1)
  | .bank => (2, 2)
  | .fireStation => (2, 3)
  | .policeStation => (2, 4)
  | .postOffice => (2, 6)
  | .professionalOffice => (2, 7)
  | .researchAndDevelopmentFacility => (2, 8)
  | .attorneyOffice => (2, 9)
  | .unspecifiedEducational => (3, 0)
  | .schoolPrimary => (3, 1)
  | .schoolSecondary => (3, 2)
  | .universityOrCollege => (3, 3)
  | .unspecifiedFactoryIndustrial => (4, 0)
  | .factory => (4, 1)
  | .unspecifiedInstitutional => (5, 0)
  | .hospital => (5, 1)
  | .longTermCareFacility => (5, 2)
  | .alcoholAndDrugRehabilitationCenter => (5, 3)
  | .groupHome => (5, 4)
  | .prisonOrJail => (5, 5)
  | .unspecifiedMercantile => (6, 0)
  | .retailStore => (6, 1)
  | .groceryMarket => (6, 2)
  | .automotiveServiceStation => (6, 3)
  | .shoppingMall => (6, 4)
  | .gasStation => (6, 5)
  | .unspecifiedResidential => (7, 0)
  | .privateResidence => (7, 1)
  | .hotelOrMotel => (7, 2)
  | .dormitory => (7, 3)
  | .boardingHouse => (7, 4)
  | .unspecifiedStorage => (8, 0)
  | .unspecifiedUtilityMiscellaneous => (9, 0)
  | .unspecifiedVehicular => (10, 0)
  | .automobileOrTruck => (10, 1)
  | .airplane => (10, 2)
  | .bus => (10, 3)
  | .ferry => (10, 4)
  | .shipOrBoat => (10, 5)
  | .train => (10, 6)
  | .motorBike => (10, 7)
  | .unspecifiedOutdoor => (11, 0)
  | .muniMeshNetwork => (11, 1)
  | .cityPark => (11, 2)
  | .restArea => (11, 3)
  | .trafficControl => (11, 4)
  | .busStop => (11, 5)
  | .kiosk => (11, 6)
  | .reserved => (-1, -1)

/-- The group with a code, found by its code. -/
def VenueGroup.withCode (code : Int) : VenueGroup :=
  (coded.find? (·.code = code)).getD .reserved

/-- The venue with two codes, found by its codes. -/
def VenueType.withCodes (group code : Int) : VenueType :=
  (all.find? (·.codes = (group, code))).getD .reserved

theorem VenueGroup.ofCode_code (g : VenueGroup) : ofCode g.code = g := by
  cases g <;> rfl

theorem VenueGroup.ofCode_eq_reserved {code : Int} (h : code < 0 ∨ 12 ≤ code) :
    ofCode code = .reserved := by
  rw [ofCode]
  split
  · rfl
  · have hl : coded.length ≤ code.toNat := by
      simp only [coded, List.length_cons, List.length_nil]
      omega
    rw [List.getD_eq_getElem?_getD, List.getElem?_eq_none hl, Option.getD_none]

/-- A group other than `reserved` is found under its own code only. -/
theorem VenueGroup.code_ofCode {code : Int} (h : ofCode code ≠ .reserved) :
    (ofCode code).code = code := by
  have hr : 0 ≤ code ∧ code < 12 := by
    by_contra hn
    exact h (ofCode_eq_reserved (by omega))
  obtain ⟨h0, h12⟩ := hr
  interval_cases code <;> rfl

theorem VenueGroup.ofCode_eq_withCode (code : Int) : ofCode code = withCode code := by
  rw [withCode]
  cases hf : coded.find? (·.code = code) with
  | some g =>
    have hc : g.code = code := by simpa using List.find?_some hf
    rw [← hc, ofCode_code, Option.getD_some]
  | none =>
    -- Only `reserved` is not in the list, and any other group would have been found.
    by_contra hn
    have hm : ofCode code ∈ coded := by
      cases ho : ofCode code with
      | reserved => exact absurd ho hn
      | _ => decide
    simpa [code_ofCode hn] using List.find?_eq_none.mp hf _ hm

theorem VenueType.ofCode_codes (t : VenueType) : ofCode t.codes.1 t.codes.2 = t := by
  cases t <;> rfl

theorem VenueType.length_ofGroup_le (g : VenueGroup) : (ofGroup g).length ≤ 16 := by
  cases g <;> decide

theorem VenueType.ofCode_eq_reserved {group code : Int}
    (h : (group < 0 ∨ 12 ≤ group) ∨ code < 0 ∨ 16 ≤ code) : ofCode group code = .reserved := by
  rw [ofCode]
  split
  · rfl
  rcases h with h | h
  · rw [VenueGroup.ofCode_eq_reserved h]
    rfl
  · have hl : (ofGroup (.ofCode group)).length ≤ code.toNat := by
      have := length_ofGroup_le (.ofCode group)
      omega
    rw [List.getD_eq_getElem?_getD, List.getElem?_eq_none hl, Option.getD_none]

/-- Within the range of the tables every entry but `reserved` has the codes it is looked up by. -/
theorem VenueType.codes_ofCode_nat : ∀ group < 12, ∀ code < 16,
    ofCode (group : Nat) (code : Nat) ≠ .reserved →
      (ofCode (group : Nat) (code : Nat)).codes = ((group : Int), (code : Int)) := by
  decide

/-- A venue other than `reserved` is found under its own codes only. -/
theorem VenueType.codes_ofCode {group code : Int} (h : ofCode group code ≠ .reserved) :
    (ofCode group code).codes = (group, code) := by
  have hr : (0 ≤ group ∧ group < 12) ∧ 0 ≤ code ∧ code < 16 := by
    by_contra hn
    exact h (ofCode_eq_reserved (by omega))
  obtain ⟨⟨hg, hg'⟩, hc, hc'⟩ := hr
  lift group to Nat using hg
  lift code to Nat using hc
  exact codes_ofCode_nat group (by omega) code (by omega) h

theorem VenueType.ofCode_eq_withCodes (group code : Int) :
    ofCode group code = withCodes group code := by
  rw [withCodes]
  cases hf : all.find? (·.codes = (group, code)) with
  | some t =>
    have hc : t.codes = (group, code) := by simpa using List.find?_some hf
    calc ofCode group code = ofCode t.codes.1 t.codes.2 := by rw [hc]
      _ = t := ofCode_codes t
  | none =>
    by_contra hn
    have hm : ofCode group code ∈ all := by
      cases ho : ofCode group code with
      | reserved => exact absurd ho hn
      | _ => decide
    simpa [codes_ofCode hn] using List.find?_eq_none.mp hf _ hm

end Passpoint
