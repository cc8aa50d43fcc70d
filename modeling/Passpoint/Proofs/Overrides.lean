import Passpoint.Proofs.Mappings
import Passpoint.Proofs.UsableSettings

/-! Settings with some of their values replaced. What comes of it is up to the values that override
those of the settings, and not to the order or the layers in which they are given: each value is
judged by itself, and unknown names are told in one order. So replacing values twice is replacing
them once, by the first values with the second put over them. -/

namespace Passpoint.Settings

open Document (Atom Cells Plain Value)

variable {name : String} {v : Value} {cells : Cells}

/-! ## Layers -/

/-- Values that are put over those of settings, each under a name of its own. -/
structure Overrides where
  entries : List (String × Value)
  nodup : (entries.map (·.1)).Nodup
  free : ∀ e ∈ entries, e.1 ≠ reservedName

namespace Overrides

variable {o p : Overrides}

/-- The value for a name, unless it is null. -/
def value? (o : Overrides) (name : String) : Option Value := override? o.entries name

theorem value?_eq_some_iff : o.value? name = some v ↔ (name, v) ∈ o.entries ∧ isNull v = false :=
  override?_eq_some_iff o.nodup

theorem names_overlaid (o p : Overrides) :
    (o.entries.map (fun e => (e.1, (p.value? e.1).getD e.2)) ++
      p.entries.filter fun e => !isNull e.2 && e.1 ∉ o.entries.map (·.1)).map (·.1) =
    o.entries.map (·.1) ++
      (p.entries.filter fun e => !isNull e.2 && e.1 ∉ o.entries.map (·.1)).map (·.1) := by
  rw [List.map_append, List.map_map]
  rfl

/-- Overrides with the values of others put over them: a name that is there keeps its place and
takes the other value unless that is null, and the names that it lacks follow. -/
def overlaid (o p : Overrides) : Overrides where
  entries := o.entries.map (fun e => (e.1, (p.value? e.1).getD e.2)) ++
    p.entries.filter fun e => !isNull e.2 && e.1 ∉ o.entries.map (·.1)
  nodup := by
    rw [names_overlaid]
    refine List.nodup_append.mpr ⟨o.nodup, ?_, fun n hn n' hn' he => ?_⟩
    · exact p.nodup.sublist (List.filter_sublist.map _)
    · obtain ⟨e, hm, rfl⟩ := List.mem_map.mp hn'
      have := (List.mem_filter.mp hm).2
      simp [← he, hn] at this
  free := by
    intro e he
    rcases List.mem_append.mp he with h | h
    · obtain ⟨e', hm, rfl⟩ := List.mem_map.mp h
      exact o.free e' hm
    · exact p.free e (List.mem_filter.mp h).1

theorem mem_overlaid {e : String × Value} :
    e ∈ (o.overlaid p).entries ↔
      (∃ v, (e.1, v) ∈ o.entries ∧ (p.value? e.1).getD v = e.2) ∨
      e ∈ p.entries ∧ isNull e.2 = false ∧ ∀ v, (e.1, v) ∉ o.entries := by
  obtain ⟨n, w⟩ := e
  simp [overlaid]

/-- A name has the value of the upper layer, and that of the lower one if the upper has none. -/
theorem value?_overlaid (o p : Overrides) (name : String) :
    (o.overlaid p).value? name = (p.value? name).or (o.value? name) := by
  ext v
  rw [value?_eq_some_iff, mem_overlaid]
  cases hp : p.value? name with
  | none =>
    have hn : ¬ ((name, v) ∈ p.entries ∧ isNull v = false) :=
      fun h => nomatch hp.symm.trans (value?_eq_some_iff.mpr h)
    rw [Option.none_or, value?_eq_some_iff]
    constructor
    · rintro ⟨⟨w, hm, rfl⟩ | ⟨hm, hv, -⟩, hw⟩
      · exact ⟨hm, hw⟩
      · exact absurd ⟨hm, hv⟩ hn
    · rintro ⟨hm, hv⟩
      exact ⟨.inl ⟨v, hm, rfl⟩, hv⟩
  | some w =>
    obtain ⟨hm, hw⟩ := value?_eq_some_iff.mp hp
    rw [Option.some_or, Option.some.injEq]
    constructor
    · rintro ⟨⟨u, -, rfl⟩ | ⟨hv, hv', -⟩, -⟩
      · rfl
      · exact Option.some.inj (hp.symm.trans (value?_eq_some_iff.mpr ⟨hv, hv'⟩))
    · rintro rfl
      refine ⟨?_, hw⟩
      by_cases ho : ∃ u, (name, u) ∈ o.entries
      · obtain ⟨u, hu⟩ := ho
        exact .inl ⟨u, hu, rfl⟩
      · exact .inr ⟨hm, hw, not_exists.mp ho⟩

end Overrides

/-! ## Settings and what is put over them -/

variable {s s' : Settings} {o p : Overrides}

theorem merged_eq (s : Settings) (o : Overrides) (cells : Cells) :
    s.merged o.entries cells = ofMapping cells (overlay s.toMapping o.entries) := by
  rw [merged, if_neg]
  simpa only [List.any_eq_true, decide_eq_true_eq, not_exists, not_and] using o.free

theorem keys_toMapping (s : Settings) : keys s.toMapping = names.map .text := rfl

theorem nodup_keys_toMapping (s : Settings) : (keys s.toMapping).Nodup := by
  simp [keys_toMapping, names]

theorem given_overlay (m : Mapping) (o : Overrides) (name : String) :
    given (overlay m o.entries) name = (o.value? name).getD (given m name) :=
  lookup_overlay o.nodup m name _

/-- A mapping that was written name by name has what was written. -/
theorem lookup_written {ns : List String} (hn : name ∈ ns) (f : String → Value) (v : Value) :
    lookup (ns.map fun n => (.text n, f n)) name v = f name := by
  induction ns with
  | nil => cases hn
  | cons n ns ih =>
    rw [List.map_cons]
    by_cases he : n = name
    · rw [he, lookup_cons_self]
    · rw [lookup_cons_of_ne (by simpa using he), ih (List.mem_of_ne_of_mem (Ne.symm he) hn)]

/-- The keys that are no names of settings come from the overrides. -/
theorem mem_strangers_overlay {a : Atom} :
    a ∈ strangers (overlay s.toMapping o.entries) ↔
      ∃ name, (o.value? name).isSome ∧ name ∉ names ∧ a = .text name := by
  rw [mem_strangers, mem_keys_overlay, keys_toMapping, List.mem_map]
  constructor
  · rintro ⟨⟨name, hn, rfl⟩ | ⟨e, he, hv, rfl⟩, hk⟩
    · simp [isKnown, hn] at hk
    · have := Overrides.value?_eq_some_iff.mpr ⟨he, hv⟩
      exact ⟨e.1, by simp [this], by simpa [isKnown] using hk, rfl⟩
  · rintro ⟨name, hv, hn, rfl⟩
    obtain ⟨v, hv⟩ := Option.isSome_iff_exists.mp hv
    obtain ⟨he, hv⟩ := Overrides.value?_eq_some_iff.mp hv
    exact ⟨.inr ⟨(name, v), he, hv, rfl⟩, by simpa [isKnown] using hn⟩

theorem isSome_codes_of_mem_keys_overlay {a : Atom}
    (h : a ∈ keys (overlay s.toMapping o.entries)) : a.codes?.isSome := by
  rw [mem_keys_overlay, keys_toMapping, List.mem_map] at h
  rcases h with ⟨name, -, rfl⟩ | ⟨e, -, -, rfl⟩ <;> rfl

theorem value_of_merged (h : s.merged o.entries cells = .ok s') :
    s'.toMapping = names.map fun name =>
      (.text name, (o.value? name).getD (given s.toMapping name)) := by
  rw [merged_eq] at h
  rw [toMapping_of_ofMapping h]
  exact List.map_congr_left fun name _ => by rw [given_overlay]

theorem mem_names_of_merged (h : s.merged o.entries cells = .ok s')
    (hv : (o.value? name).isSome) : name ∈ names := by
  rw [merged_eq] at h
  by_contra hn
  have hm : Atom.text name ∈ strangers (overlay s.toMapping o.entries) :=
    mem_strangers_overlay.mpr ⟨name, hv, hn, rfl⟩
  cases hc : checkKeys (overlay s.toMapping o.entries) with
  | error f => cases h.symm.trans (ofMapping_of_checkKeys cells hc)
  | ok _ =>
    obtain ⟨hm, hk⟩ := mem_strangers.mp hm
    obtain ⟨e, he, ha⟩ := List.mem_map.mp hm
    cases (checkKeys_eq_ok_iff.mp hc e he).symm.trans (ha ▸ hk)

/-- What is put over settings with overrides could have been put over the overrides. -/
theorem merged_merged (h : s.merged o.entries cells = .ok s') (p : Overrides) (cells' : Cells) :
    s'.merged p.entries cells' = s.merged (o.overlaid p).entries cells' := by
  rw [merged_eq, merged_eq]
  apply ofMapping_congr
  · refine checkKeys_congr (nodup_keys_overlay (nodup_keys_toMapping s'))
      (nodup_keys_overlay (nodup_keys_toMapping s)) ?_ ?_ ?_
    · exact fun a ha => isSome_codes_of_mem_keys_overlay ha
    · exact fun a ha => isSome_codes_of_mem_keys_overlay ha
    · intro a
      rw [mem_strangers_overlay, mem_strangers_overlay]
      refine exists_congr fun name => ?_
      rw [Overrides.value?_overlaid, Option.isSome_or, Bool.or_eq_true]
      -- An unknown name of the lower layer would have been a fault of that layer.
      constructor
      · rintro ⟨hv, hn⟩
        exact ⟨.inl hv, hn⟩
      · rintro ⟨hv, hn, ha⟩
        exact ⟨hv.resolve_right fun ho => hn (mem_names_of_merged h ho), hn, ha⟩
  · intro name hn
    rw [given_overlay, given_overlay, Overrides.value?_overlaid, Option.getD_or,
      value_of_merged h, given, lookup_written hn]

/-! ## Values that are refused -/

/-- The values of valid settings suit their names. -/
theorem suits_of_valid (hs : s.Valid) (hn : name ∈ names) :
    suits name (given s.toMapping name) :=
  suits_given (fun _ he => allowed_of_mem_toMapping hs he) hn

/-- Values are put over settings exactly if each of them is allowed by its name. -/
theorem exists_merged_iff (hs : s.Valid) :
    (∃ s', s.merged o.entries cells = .ok s') ↔
      ∀ name v, o.value? name = some v → Allowed name v := by
  constructor
  · rintro ⟨s', h⟩ name v hv
    have hn : name ∈ names := mem_names_of_merged h (by simp [hv])
    have hm : (Atom.text name, v) ∈ s'.toMapping := by
      rw [value_of_merged h]
      exact List.mem_map.mpr ⟨name, hn, by rw [hv, Option.getD_some]⟩
    have hs' : s'.Valid := valid_of_ofMapping (merged_eq s o cells ▸ h)
    obtain ⟨name', hk, ha⟩ := allowed_of_mem_toMapping hs' hm
    cases hk
    exact ha
  · intro h
    have hk : ∀ e ∈ overlay s.toMapping o.entries, isKnown e.1 := by
      intro e he
      by_contra hu
      have hm := mem_strangers.mpr ⟨List.mem_map_of_mem he, by simpa using hu⟩
      obtain ⟨name, hv, hn, -⟩ := mem_strangers_overlay.mp hm
      obtain ⟨v, hv⟩ := Option.isSome_iff_exists.mp hv
      exact hn (h name v hv).mem_names
    have hu : unsuited? (overlay s.toMapping o.entries) names = none := by
      rw [unsuited?, List.find?_eq_none]
      intro name hn
      rw [given_overlay]
      cases hv : o.value? name with
      | none => simpa using suits_of_valid hs hn
      | some v => simpa using (h name v hv).suits
    obtain ⟨s', h', -⟩ := ofMapping_of_suited cells hk hu
    exact ⟨s', (merged_eq s o cells).trans h'⟩

theorem merged_eq_error_iff (hs : s.Valid) :
    (∃ f, s.merged o.entries cells = .error f) ↔
      ∃ e ∈ o.entries, isNull e.2 = false ∧ (e.1 ∉ names ∨ ¬ Allowed e.1 e.2) := by
  have hr : (∃ f, s.merged o.entries cells = .error f) ↔
      ¬ ∃ s', s.merged o.entries cells = .ok s' := by
    cases s.merged o.entries cells <;> simp
  rw [hr, exists_merged_iff hs]
  constructor
  · intro h
    push Not at h
    obtain ⟨name, v, hv, ha⟩ := h
    obtain ⟨he, hn⟩ := Overrides.value?_eq_some_iff.mp hv
    exact ⟨(name, v), he, hn, .inr ha⟩
  · rintro ⟨e, he, hv, hu⟩ h
    have ha := h e.1 e.2 (Overrides.value?_eq_some_iff.mpr ⟨he, hv⟩)
    exact hu.elim (absurd ha.mem_names) (absurd ha)

/-- Whatever is wrong with values as JSON has them, the user is told of it. -/
theorem isReported_of_merged (hs : s.Valid)
    (hp : ∀ e ∈ o.entries, Plain Document.Nesting.shown e.2) {f : Fault}
    (h : s.merged o.entries cells = .error f) : f.isReported := by
  rw [merged_eq] at h
  by_contra hf
  have hu := ofMapping_unreported_iff.mp ⟨f, h, by simpa using hf⟩
  cases hu with
  | key he hn =>
    have := isSome_codes_of_mem_keys_overlay (List.mem_map_of_mem he)
    simp [hn] at this
  | @value name _ _ hu _ hf =>
    rw [given_overlay] at hf
    -- A value that does not suit is one of the overrides: those of valid settings all do.
    cases hv : o.value? name with
    | none =>
      have hn := List.mem_of_find?_eq_some hu
      have := List.find?_some hu
      rw [given_overlay, hv, Option.getD_none, suits_of_valid hs hn] at this
      cases this
    | some v =>
      obtain ⟨text, ht⟩ := (hp _ (Overrides.value?_eq_some_iff.mp hv).1).exists_shownAt cells []
      rw [hv, Option.getD_some] at hf
      cases ht.symm.trans hf

/-- **Values can be put over settings layer by layer or all at once.** Overrides that are all null
change nothing. Settings that come of overrides have their values, and those of the settings before
for every name that has none or null; and whatever is put over them comes to the same settings or
the same fault as the first overrides with the second put over them. There are no settings exactly
if a value other than null has an unknown name or is not allowed by its name; and if the values are
such as JSON has, the fault is one that the user is told of. -/
theorem merged_in_layers {s : Settings} (hs : s.Valid) (o : Overrides) (cells : Cells) :
    ((∀ e ∈ o.entries, isNull e.2) → s.merged o.entries cells = .ok s) ∧
    (∀ s', s.merged o.entries cells = .ok s' →
      s'.toMapping = (names.map fun name =>
        (.text name, (o.value? name).getD (given s.toMapping name))) ∧
      ∀ (p : Overrides) (cells' : Cells),
        s'.merged p.entries cells' = s.merged (o.overlaid p).entries cells') ∧
    ((∃ f, s.merged o.entries cells = .error f) ↔
      ∃ e ∈ o.entries, isNull e.2 = false ∧ (e.1 ∉ names ∨ ¬ Allowed e.1 e.2)) ∧
    ((∀ e ∈ o.entries, Plain Document.Nesting.shown e.2) →
      ∀ f, s.merged o.entries cells = .error f → f.isReported) := by
  refine ⟨fun h => ?_, fun s' h => ⟨value_of_merged h, merged_merged h⟩,
    merged_eq_error_iff hs, fun hp f h => isReported_of_merged hs hp h⟩
  rw [merged_eq, overlay_of_nulls h, ofMapping_toMapping cells hs]

/-- A level with a dotless i and a null for no setting, and then values for two such names. -/
theorem merged_in_layers_unknown :
    let o : Overrides :=
      ⟨[("log_level", .text "\u0131nfo"), ("speed", .null), ("passpoint_only", .atom (.bool true))],
        by decide, by simp [reservedName]⟩
    let p : Overrides :=
      ⟨[("passpoint_only", .null), ("speed", .atom (.int 5)), ("deep", .list [])],
        by decide, by simp [reservedName]⟩
    let s : Settings := { logLevel := "\u0131nfo", passpointOnly := true }
    let f : Fault := .unknownNames ["deep".toList.map Char.toNat, "speed".toList.map Char.toNat]
    Valid {} ∧ ({} : Settings).merged o.entries = .ok s ∧ s.merged p.entries = .error f ∧
      ({} : Settings).merged (o.overlaid p).entries = .error f ∧ f.isReported := by
  intro o p s f
  have h := merged_in_layers valid_usual o #[]
  have ho : ({} : Settings).merged o.entries = .ok s := rfl
  have hp : s.merged p.entries = .error f := by
    rw [merged_eq]
    apply ofMapping_of_checkKeys
    rw [checkKeys_of_texts fun a ha => isSome_codes_of_mem_keys_overlay ha]
    have hs : strangers (overlay s.toMapping p.entries) = [.text "speed", .text "deep"] := rfl
    rw [hs, if_neg (List.cons_ne_nil _ _)]
    have hd : Text.inOrder (Text.codesOf "deep".toList) (Text.codesOf "speed".toList) := by decide
    refine congrArg (Except.error ∘ Fault.unknownNames) (?_ : List.mergeSort [_, _] _ = _)
    rw [Text.mergeSort_inOrder_eq (.swap _ _ _)]
    exact List.mergeSort_of_pairwise (by simpa using hd)
  have hl := (h.2.1 s ho).2 p #[]
  exact ⟨valid_usual, ho, hp, hl ▸ hp, rfl⟩

end Passpoint.Settings
