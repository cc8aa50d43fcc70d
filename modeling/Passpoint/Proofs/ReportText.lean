import Mathlib.Data.List.Basic
import Passpoint.Network.Report
import Passpoint.Proofs.AddressText
import Passpoint.Proofs.JsonText

/-! What the JSON of a network tells. Every field is written so that its value can be read off: a
constant by its name, an address by its octets, null for what is absent and for a set identifier of
zero. Only addresses of more than 48 bits are cut. -/

namespace Passpoint

/-! ## Names

No two constants have one name, since a name is read back as its constant. -/

theorem AccessNetwork.ofName?_name (a : AccessNetwork) : ofName? a.name = some a := by
  cases a <;> decide

theorem VenueGroup.ofName?_name (g : VenueGroup) : ofName? g.name = some g := by
  cases g <;> decide

theorem VenueType.ofName?_name (t : VenueType) : ofName? t.name = some t := by
  cases t <;> decide

theorem Anqp.Kind.ofName?_name (k : Anqp.Kind) : ofName? k.name = some k := by
  cases k <;> decide

/-- A text from which a value is read back is no other's. -/
theorem injective_of_reads {α : Type} {write : α → String} {read : String → Option α}
    (h : ∀ a, read (write a) = some a) : Function.Injective write := by
  intro a b he
  have ha := h a
  rw [he, h b] at ha
  exact (Option.some.inj ha).symm

theorem Release.label_injective : Function.Injective label := by
  intro a b h
  cases a <;> cases b <;> first | rfl | exact absurd h (by decide)

/-! ## Fields -/

namespace Network

open Report (Json)

/-- Neither an absent value nor a present one is written like another. -/
theorem ofOption_injective {α : Type} {f : α → Json} (hf : Function.Injective f)
    (hn : ∀ a, f a ≠ .null) : Function.Injective (Json.ofOption f) := by
  intro o o' h
  cases o with
  | none =>
    cases o' with
    | none => rfl
    | some a => exact absurd h.symm (hn a)
  | some a =>
    cases o' with
    | none => exact absurd h (hn a)
    | some a' => rw [hf h]

theorem textOrNull_injective {α : Type} {f : α → String} (hf : Function.Injective f) :
    Function.Injective (textOrNull f) :=
  ofOption_injective (fun _ _ h => hf (Json.text.inj h)) (fun _ h => Json.noConfusion h)

theorem identifiersJson_injective :
    Function.Injective (Json.ofOption fun ns : List Int => .list (ns.map fun i =>
      .text (identifierText i))) := by
  refine ofOption_injective (fun ns ns' h => ?_) (fun _ h => Json.noConfusion h)
  have hi : Function.Injective fun i => Json.text (identifierText i) := fun _ _ h =>
    Text.hexOfInt_injective (by decide) (Json.text.inj h)
  exact List.map_injective_iff.mpr hi (Json.list.inj h)

theorem answerJson_injective : Function.Injective answerJson := by
  intro a b h
  simp only [answerJson, Json.object.injEq, List.cons.injEq, Prod.mk.injEq, Json.text.injEq] at h
  obtain ⟨⟨-, hkind⟩, -, ⟨-, hpayload⟩, -⟩ := h
  have kind := injective_of_reads Anqp.Kind.ofName?_name hkind
  have payload := Text.hexOfOctets_injective hpayload
  cases a
  cases b
  rw [Anqp.Answer.mk.injEq]
  exact ⟨kind, payload⟩

theorem answersJson_injective :
    Function.Injective fun as : Anqp.Answers => as.toList.map answerJson := by
  intro as as' h
  have hl := List.map_injective_iff.mpr answerJson_injective h
  cases as
  cases as'
  rw [Anqp.Answers.mk.injEq]
  exact hl

/-- Zero is written as null, and no other set identifier is. -/
theorem hessidJson_injOn {m n : Int} (hm : 0 ≤ m ∧ m < 2 ^ 48) (hn : 0 ≤ n ∧ n < 2 ^ 48)
    (h : (if m = 0 then Json.null else .text (Address.format m)) =
      if n = 0 then Json.null else .text (Address.format n)) : m = n := by
  by_cases hm0 : m = 0
  · by_cases hn0 : n = 0
    · rw [hm0, hn0]
    · rw [if_pos hm0, if_neg hn0] at h
      cases h
  · by_cases hn0 : n = 0
    · rw [if_neg hm0, if_pos hn0] at h
      cases h
    · rw [if_neg hm0, if_neg hn0] at h
      exact Address.format_injOn hm hn (Json.text.inj h)

/-! ## Networks -/

/-- Both addresses have 48 bits. -/
structure Addressed (n : Network) : Prop where
  bssid : 0 ≤ n.bssid ∧ n.bssid < 2 ^ 48
  hessid : 0 ≤ n.hessid ∧ n.hessid < 2 ^ 48

variable {a b : Network}

theorem toJson_injOn (ha : a.Addressed) (hb : b.Addressed) (h : a.toJson = b.toJson) : a = b := by
  simp only [toJson, Json.object.injEq, List.cons.injEq, Prod.mk.injEq, Json.text.injEq,
    Json.int.injEq, Json.bool.injEq, Json.list.injEq, true_and, and_true] at h
  -- What is announced about the name follows from the capabilities.
  obtain ⟨hssid, hbssid, hhessid, stations, utilization, capacity, haccess, internet, hgroup, htype,
    hrelease, domain, queryable, hidentifiers, hcapabilities, -, hanswers⟩ := h
  have ssid := textOrNull_injective Function.injective_id hssid
  have bssid := Address.format_injOn ha.bssid hb.bssid hbssid
  have hessid := hessidJson_injOn ha.hessid hb.hessid hhessid
  have access := textOrNull_injective (injective_of_reads AccessNetwork.ofName?_name) haccess
  have venueGroup := textOrNull_injective (injective_of_reads VenueGroup.ofName?_name) hgroup
  have venueType := textOrNull_injective (injective_of_reads VenueType.ofName?_name) htype
  have release := textOrNull_injective Release.label_injective hrelease
  have identifiers := identifiersJson_injective hidentifiers
  have hmark : '-' ∉ "0x".toList := by decide
  have capabilities := textOrNull_injective (Text.hexOfInt_injective hmark) hcapabilities
  have answers := answersJson_injective hanswers
  cases a
  cases b
  rw [Network.mk.injEq]
  exact ⟨ssid, bssid, hessid, stations, utilization, capacity, access, internet, venueGroup,
    venueType, release, domain, queryable, identifiers, capabilities, answers⟩

/-- **The JSON of a network tells all of it.** Whatever the indentation, two networks with addresses
of 48 bits have one text exactly if they agree in every field, the answers and their order
included. -/
theorem jsonText_inj (indent : Option Json.Indent) (ha : a.Addressed) (hb : b.Addressed) :
    a.jsonText indent = b.jsonText indent ↔ a = b := by
  constructor
  · intro h
    exact toJson_injOn ha hb (Json.render_injective indent h)
  · rintro rfl
    rfl

/-- A network named `null` with an empty list of identifiers, beside one without either. -/
theorem jsonText_inj_null :
    let a : Network :=
      { ssid := some "null", bssid := 0xFFFFFFFFFFFF, hessid := 1, identifiers := some [] }
    let b : Network := { ssid := none, bssid := 0xFFFFFFFFFFFF, hessid := 1 }
    a.Addressed ∧ b.Addressed ∧ a.jsonText (some (.spaces 2)) ≠ b.jsonText (some (.spaces 2)) := by
  intro a b
  have ha : a.Addressed := ⟨by decide, by decide⟩
  have hb : b.Addressed := ⟨by decide, by decide⟩
  refine ⟨ha, hb, fun h => ?_⟩
  have he := (jsonText_inj (some (.spaces 2)) ha hb).mp h
  revert he
  decide

end Network

end Passpoint
