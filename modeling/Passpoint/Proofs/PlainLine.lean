import Passpoint.Network.Report
import Passpoint.Proofs.AddressText
import Passpoint.Proofs.PlainOutput

/-! Control sequences in the line of a network. All of it but the name is written by the program, in
digits and words, so a control sequence can start in it only if one can start in the name; and one
that stands in the name stands in the line. -/

namespace Passpoint

open Text.Terminal (HoldsSequence IsPlain)

/-! ## Plain texts -/

/-- The characters of a literal are known to be those it is made of, and are not read off its
octets. -/
theorem isPlain_ofList {cs : List Char} (h : IsPlain cs) : IsPlain (String.ofList cs).toList := by
  rwa [String.toList_ofList]

theorem isPlain_append {s t : String} :
    IsPlain (s ++ t).toList ↔ IsPlain s.toList ∧ IsPlain t.toList := by
  unfold IsPlain
  rw [String.toList_append, List.mem_append, not_or]

theorem isPlain_intercalate {sep : String} (hs : IsPlain sep.toList) {parts : List String}
    (h : ∀ s ∈ parts, IsPlain s.toList) : IsPlain (sep.intercalate parts).toList := by
  induction parts with
  | nil => exact isPlain_ofList nofun
  | cons s parts ih =>
    obtain ⟨hs', hp⟩ := List.forall_mem_cons.mp h
    cases parts with
    | nil => rwa [String.intercalate_singleton]
    | cons t parts =>
      rw [String.intercalate_cons_cons, isPlain_append, isPlain_append]
      exact ⟨⟨hs', hs⟩, ih hp⟩

theorem isPlain_toString (n : Int) : IsPlain (toString n).toList := by
  intro h
  have hw := Report.Json.allWritten_int n _ h
  revert hw
  decide

theorem isPlain_hexOfInt (n : Int) : IsPlain (Text.hexOfInt "" n).toList := by
  have hn : ∀ m, IsPlain (Text.hexOfNat m).toList := by
    intro m h
    rw [Text.hexOfNat, String.toList_ofList] at h
    have hd := Text.isSome_hexValue?_of_mem_toDigits h
    revert hd
    decide
  have hl : IsPlain "".toList ∧ IsPlain ("-" ++ "").toList := by decide
  cases n with
  | ofNat n => exact isPlain_append.mpr ⟨hl.1, hn n⟩
  | negSucc n => exact isPlain_append.mpr ⟨hl.2, hn (n + 1)⟩

namespace Network

/-! ## Fields -/

theorem isPlain_orNone {α : Type} {f : α → String} (h : ∀ a, IsPlain (f a).toList) (o : Option α) :
    IsPlain (orNone (o.map f)).toList := by
  cases o with
  | none => exact isPlain_ofList (by decide)
  | some a => exact h a

theorem isPlain_truthText (b : Bool) : IsPlain (truthText b).toList := by
  cases b <;> exact isPlain_ofList (by decide)

theorem isPlain_identifiersText (o : Option (List Int)) : IsPlain (identifiersText o).toList := by
  cases o with
  | none => exact isPlain_ofList (by decide)
  | some ns =>
    have hi : IsPlain (", ".intercalate (ns.map identifierText)).toList := by
      refine isPlain_intercalate (by decide) fun s hs => ?_
      obtain ⟨n, -, rfl⟩ := List.mem_map.mp hs
      exact isPlain_hexOfInt n
    exact isPlain_append.mpr ⟨isPlain_append.mpr ⟨by decide, hi⟩, by decide⟩

theorem isPlain_accessName (a : AccessNetwork) : IsPlain a.name.toList := by
  cases a <;> exact isPlain_ofList (by decide)

theorem isPlain_groupName (g : VenueGroup) : IsPlain g.name.toList := by
  cases g <;> exact isPlain_ofList (by decide)

theorem isPlain_typeName (t : VenueType) : IsPlain t.name.toList := by
  cases t <;> exact isPlain_ofList (by decide)

theorem isPlain_releaseName (r : Release) : IsPlain r.name.toList := by
  cases r <;> exact isPlain_ofList (by decide)

theorem isPlain_field {name : List Char} {value : String} (hn : IsPlain name)
    (hv : IsPlain value.toList) : IsPlain (String.ofList name ++ "=" ++ value).toList :=
  isPlain_append.mpr ⟨isPlain_append.mpr ⟨isPlain_ofList hn, by decide⟩, hv⟩

/-! ## The line -/

/-- A line is the name with plain text on both sides. -/
theorem exists_line_eq (n : Network) :
    ∃ front back : String, IsPlain front.toList ∧ IsPlain back.toList ∧
      n.line = front ++ n.nameText ++ back := by
  obtain ⟨rest, hl, hr⟩ : ∃ rest : List String,
      n.line = "NetworkInfo\x7b" ++
        ", ".intercalate (("SSID" ++ "=" ++ ("'" ++ n.nameText ++ "'")) :: rest) ++ "\x7d" ∧
      ∀ s ∈ rest, IsPlain s.toList := by
    refine ⟨_, rfl, List.forall_mem_map.mpr ?_⟩
    simp only [List.forall_mem_cons, List.not_mem_nil, false_imp_iff, implies_true, and_true]
    exact ⟨isPlain_field (by decide) (isPlain_hexOfInt n.hessid),
      isPlain_field (by decide) (isPlain_hexOfInt n.bssid),
      isPlain_field (by decide) (isPlain_toString n.stations),
      isPlain_field (by decide) (isPlain_toString n.utilization),
      isPlain_field (by decide) (isPlain_toString n.capacity),
      isPlain_field (by decide) (isPlain_orNone isPlain_accessName n.access),
      isPlain_field (by decide) (isPlain_truthText n.internet),
      isPlain_field (by decide) (isPlain_orNone isPlain_groupName n.venueGroup),
      isPlain_field (by decide) (isPlain_orNone isPlain_typeName n.venueType),
      isPlain_field (by decide) (isPlain_orNone isPlain_releaseName n.release),
      isPlain_field (by decide) (isPlain_toString n.domain),
      isPlain_field (by decide) (isPlain_toString n.queryable),
      isPlain_field (by decide) (isPlain_identifiersText n.identifiers)⟩
  have hb : IsPlain (", ".intercalate ("'" :: rest)).toList :=
    isPlain_intercalate (by decide) (List.forall_mem_cons.mpr ⟨isPlain_ofList (by decide), hr⟩)
  have hi : ", ".intercalate (("SSID" ++ "=" ++ ("'" ++ n.nameText ++ "'")) :: rest) =
      "SSID" ++ "=" ++ "'" ++ n.nameText ++ ", ".intercalate ("'" :: rest) := by
    cases rest <;> simp only [String.intercalate_singleton, String.intercalate_cons_cons,
      String.append_assoc]
  refine ⟨"NetworkInfo\x7b" ++ ("SSID" ++ "=" ++ "'"), ", ".intercalate ("'" :: rest) ++ "\x7d",
    by decide, isPlain_append.mpr ⟨hb, by decide⟩, ?_⟩
  rw [hl, hi]
  simp only [String.append_assoc]

/-- **Nothing but the name brings a control sequence into the line of a network.** -/
theorem isPlain_line_iff {n : Network} : IsPlain n.line.toList ↔ IsPlain n.nameText.toList := by
  obtain ⟨front, back, hf, hb, hl⟩ := exists_line_eq n
  rw [hl, isPlain_append, isPlain_append, and_iff_left hb, and_iff_right hf]

/-- A control sequence in the name stands in the line. -/
theorem holdsSequence_line {n : Network} (h : HoldsSequence n.nameText.toList) :
    HoldsSequence n.line.toList := by
  obtain ⟨front, back, -, -, hl⟩ := exists_line_eq n
  obtain ⟨s, hs, hin⟩ := h
  refine ⟨s, hs, hin.trans ⟨front.toList, back.toList, ?_⟩⟩
  rw [hl, String.toList_append, String.toList_append]

end Network

end Passpoint
