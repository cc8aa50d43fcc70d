import Mathlib.Data.List.Basic
import Passpoint.Settings.Basic

/-! What a mapping of settings comes to. Keys are looked at first, and then the values one by one: a
value suits its name or is refused, whatever the others are. So if all keys are known, the first
value that does not suit decides the fault, and a mapping without one gives valid settings. A fault
goes unreported only over a key that is no text, or over a value that cannot be shown. -/

namespace Passpoint.Settings

open Document (Atom Cells ShowFault Shown Value)

/-! ## Keys -/

theorem isSome_codes_of_isKnown {a : Atom} (h : isKnown a) : a.codes?.isSome := by
  cases a with
  | text s => rfl
  | _ => cases h

/-- Only texts can be put in order with a text. -/
theorem orderFault?_eq_none_iff {a first : Atom} (h : first.codes?.isSome) :
    orderFault? a first = none ↔ a.codes?.isSome := by
  cases first with
  | text s => cases a <;> simp [orderFault?, Atom.codes?, Atom.number?]
  | brokenText codes => cases a <;> simp [orderFault?, Atom.codes?, Atom.number?]
  | _ => cases h

/-- Unknown keys are reported exactly if they are all texts. -/
theorem isReported_unknownFault_iff (first : Atom) (rest : List Atom) :
    (unknownFault first rest).isReported ↔ ∀ a ∈ first :: rest, a.codes?.isSome := by
  rw [unknownFault]
  cases ho : rest.findSome? (orderFault? · first) with
  | some f =>
    obtain ⟨a, ha, hf⟩ := List.exists_of_findSome?_eq_some ho
    constructor
    · intro h
      cases h
    · intro h
      have hn := (orderFault?_eq_none_iff (h first (by simp))).mpr (h a (by simp [ha]))
      cases hn.symm.trans hf
  | none =>
    rw [List.findSome?_eq_none_iff] at ho
    by_cases hs : first.codes?.isSome
    · simp only [hs, if_true, Fault.isReported, true_iff, List.forall_mem_cons, true_and]
      exact fun a ha => (orderFault?_eq_none_iff hs).mp (ho a ha)
    · simp [hs, Fault.isReported]

theorem checkKeys_eq_ok_iff {m : Mapping} : checkKeys m = .ok () ↔ ∀ e ∈ m, isKnown e.1 := by
  rw [checkKeys]
  split
  · rename_i h
    simpa using h
  · rename_i first rest h
    have hm : first ∈ (m.map (·.1)).filter (!isKnown ·) := by simp [h]
    obtain ⟨ha, hu⟩ := List.mem_filter.mp hm
    obtain ⟨e, he, rfl⟩ := List.mem_map.mp ha
    simp only [reduceCtorEq, false_iff, not_forall]
    exact ⟨e, he, by simpa using hu⟩

/-- A fault of the keys is reported exactly if they are all texts. -/
theorem isReported_of_checkKeys {m : Mapping} {f : Fault} (h : checkKeys m = .error f) :
    f.isReported ↔ ∀ e ∈ m, e.1.codes?.isSome := by
  rw [checkKeys] at h
  split at h
  · cases h
  · rename_i first rest hu
    cases h
    rw [isReported_unknownFault_iff, ← hu]
    constructor
    · intro ha e he
      by_cases hk : isKnown e.1
      · exact isSome_codes_of_isKnown hk
      · exact ha e.1 (List.mem_filter.mpr ⟨List.mem_map_of_mem he, by simpa using hk⟩)
    · intro he a ha
      obtain ⟨e, hm, rfl⟩ := List.mem_map.mp (List.mem_filter.mp ha).1
      exact he e hm

/-! ## Values -/

/-- The names of the settings that are on or off. -/
def switches : List String := ["include_probe_responses", "passpoint_only", "skip_malformed"]

/-- Whether a value is one that the setting of this name can have. -/
def suits (name : String) : Value → Bool
  | .atom .null => name = "max_packets"
  | .atom (.int n) => name = "max_packets" && 0 < n
  | .atom (.bool _) => switches.contains name
  | .atom (.text s) =>
    name = "output_format" && (s = "text" || s = "json") || name = "log_level" && isLogLevel s
  | _ => false

/-- The value of a name in a mapping, and the usual one if the mapping lacks it. -/
def given (m : Mapping) (name : String) : Value :=
  lookup m name (lookup (toMapping {}) name .null)

/-- What is said of a value of this name that does not suit; no value of a switch is shown. -/
def refused (cells : Cells) (name : String) (v : Value) : Fault :=
  if switches.contains name then .switch name
  else refusal (v.shown cells) <|
    if name = "max_packets" then .maxPackets
    else if name = "output_format" then .format
    else .logLevel

theorem isReported_refused_iff {cells : Cells} {name : String} {v : Value} :
    (refused cells name v).isReported = false ↔
      name ∉ switches ∧ ∃ f, v.shown cells = .error f := by
  rw [refused]
  by_cases hs : name ∈ switches
  · simp [hs, Fault.isReported]
  · rw [if_neg (by simpa using hs)]
    cases v.shown cells with
    | error f => simp [hs, refusal, Fault.isReported]
    | ok text =>
      simp only [hs, refusal, not_false_eq_true, true_and, reduceCtorEq, exists_false, iff_false]
      split_ifs <;> simp [Fault.isReported]

/-- A reader of one value goes well exactly if the value suits, and refuses it otherwise. -/
def Judges {α : Type} (cells : Cells) (name : String) (v : Value) (r : Except Fault α) : Prop :=
  if suits name v then ∃ a, r = .ok a else r = .error (refused cells name v)

theorem judges_maxPackets (cells : Cells) (v : Value) :
    Judges cells "max_packets" v (readMaxPackets cells v) := by
  rw [Judges]
  split
  · rename_i h
    match v, h with
    | .atom .null, _ => exact ⟨none, rfl⟩
    | .atom (.int n), h => exact ⟨some n.toNat, if_pos (by simpa [suits] using h)⟩
  · rename_i h
    have hr : refused cells "max_packets" v = refusal (v.shown cells) .maxPackets := rfl
    rw [hr]
    unfold readMaxPackets
    split
    · exact absurd rfl h
    · rename_i n
      rw [if_neg (by simpa [suits] using h)]
    · rfl

/-- Only a truth value suits a switch. -/
theorem suits_switch_iff {name : String} (hn : name ∈ switches) {v : Value} :
    suits name v ↔ ∃ b, v = .atom (.bool b) := by
  have hm : name ≠ "max_packets" := by rintro rfl; revert hn; decide
  have hf : name ≠ "output_format" := by rintro rfl; revert hn; decide
  have hl : name ≠ "log_level" := by rintro rfl; revert hn; decide
  cases v with
  | atom a => cases a <;> simp [suits, hn, hm, hf, hl]
  | _ => simp [suits]

theorem judges_switch (cells : Cells) {name : String} (hn : name ∈ switches) (v : Value) :
    Judges cells name v (readSwitch name v) := by
  rw [Judges]
  split
  · rename_i h
    obtain ⟨b, rfl⟩ := (suits_switch_iff hn).mp h
    exact ⟨b, rfl⟩
  · rename_i h
    rw [refused, if_pos (by simpa using hn)]
    unfold readSwitch
    split
    · rename_i b
      exact absurd ((suits_switch_iff hn).mpr ⟨b, rfl⟩) h
    · rfl

theorem judges_format (cells : Cells) (v : Value) :
    Judges cells "output_format" v (readFormat cells v) := by
  rw [Judges]
  split
  · rename_i h
    match v, h with
    | .atom (.text s), h =>
      obtain rfl | rfl : s = "text" ∨ s = "json" := by simpa [suits] using h
      · exact ⟨.text, rfl⟩
      · exact ⟨.json, rfl⟩
  · rename_i h
    have hr : refused cells "output_format" v = refusal (v.shown cells) .format := rfl
    rw [hr]
    unfold readFormat
    split
    · exact absurd (by decide) h
    · exact absurd (by decide) h
    · rfl

theorem judges_logLevel (cells : Cells) (v : Value) :
    Judges cells "log_level" v (readLogLevel cells v) := by
  rw [Judges]
  split
  · rename_i h
    match v, h with
    | .atom (.text s), h => exact ⟨s, if_pos (by simpa [suits] using h)⟩
  · rename_i h
    have hr : refused cells "log_level" v = refusal (v.shown cells) .logLevel := rfl
    rw [hr]
    unfold readLogLevel
    split
    · rw [if_neg (by simpa [suits] using h)]
    · rfl

/-! ## Values that were read -/

theorem eq_of_readMaxPackets {cells : Cells} {v : Value} {n? : Option Nat}
    (h : readMaxPackets cells v = .ok n?) :
    v = n?.elim .null (fun n => .atom (.int n)) ∧ ∀ n, n? = some n → 0 < n := by
  unfold readMaxPackets at h
  split at h
  · cases h
    exact ⟨rfl, nofun⟩
  · rename_i k
    split at h
    · rename_i hk
      cases h
      obtain ⟨n, rfl⟩ := Int.eq_ofNat_of_zero_le (Int.le_of_lt hk)
      exact ⟨rfl, fun _ hn => by cases hn; omega⟩
    · cases h
  · cases h

theorem eq_of_readSwitch {name : String} {v : Value} {b : Bool} (h : readSwitch name v = .ok b) :
    v = .atom (.bool b) := by
  unfold readSwitch at h
  split at h <;> cases h
  rfl

theorem eq_of_readFormat {cells : Cells} {v : Value} {f : OutputFormat}
    (h : readFormat cells v = .ok f) : v = .text f.name := by
  unfold readFormat at h
  split at h <;> cases h <;> rfl

theorem eq_of_readLogLevel {cells : Cells} {v : Value} {s : String}
    (h : readLogLevel cells v = .ok s) : v = .text s ∧ isLogLevel s := by
  unfold readLogLevel at h
  split at h
  · split at h
    · rename_i hs
      cases h
      exact ⟨rfl, hs⟩
    · cases h
  · cases h

/-! ## Mappings -/

/-- The first of some names whose value does not suit. -/
def unsuited? (m : Mapping) (todo : List String) : Option String :=
  todo.find? fun name => !suits name (given m name)

/-- The usual value of every setting suits. -/
theorem suits_usual : ∀ name ∈ names, suits name (lookup (toMapping {}) name .null) := by
  decide +kernel

theorem lookup_eq_or_mem (m : Mapping) (name : String) (v : Value) :
    lookup m name v = v ∨ ∃ e ∈ m, e.2 = lookup m name v := by
  rw [lookup]
  cases hf : m.find? fun e => e.1.sameKey (.text name) with
  | none => exact .inl rfl
  | some e => exact .inr ⟨e, List.mem_of_find?_eq_some hf, rfl⟩

/-- A value that does not suit stands in the mapping. -/
theorem exists_mem_of_unsuited {m : Mapping} {name : String}
    (hu : unsuited? m names = some name) : ∃ e ∈ m, e.2 = given m name := by
  have hn := suits_usual name (List.mem_of_find?_eq_some hu)
  have hs := List.find?_some hu
  refine (lookup_eq_or_mem m name _).resolve_left fun he => ?_
  rw [given, he, hn] at hs
  cases hs

/-- What reading the values of some names comes to, after those of the others have been read: the
first that does not suit is refused, and otherwise there are valid settings, with the given
values. -/
def Verdict (cells : Cells) (m : Mapping) (todo : List String) (r : Except Fault Settings) : Prop :=
  match unsuited? m todo with
  | some name => r = .error (refused cells name (given m name))
  | none => ∃ s : Settings, r = .ok s ∧ s.Valid ∧
      s.toMapping = names.map fun name => (.text name, given m name)

/-- The verdict on one more name is that of its reader, or of what comes next. -/
theorem Verdict.step {α : Type} {cells : Cells} {m : Mapping} {name : String} {todo : List String}
    {r : Except Fault α} {next : α → Except Fault Settings}
    (h : Judges cells name (given m name) r)
    (hn : ∀ a, r = .ok a → Verdict cells m todo (next a)) :
    Verdict cells m (name :: todo) (r >>= next) := by
  by_cases hs : suits name (given m name)
  · rw [Judges, if_pos hs] at h
    obtain ⟨a, rfl⟩ := h
    have hu : unsuited? m (name :: todo) = unsuited? m todo :=
      List.find?_cons_of_neg (by simp [hs])
    rw [Verdict, hu]
    exact hn a rfl
  · rw [Judges, if_neg hs] at h
    have hu : unsuited? m (name :: todo) = some name := List.find?_cons_of_pos (by simp [hs])
    rw [Verdict, hu, h]
    rfl

/-- The values of a mapping with known keys are judged in the order of the names. -/
theorem verdict_ofMapping (cells : Cells) {m : Mapping} (h : ∀ e ∈ m, isKnown e.1) :
    Verdict cells m names (ofMapping cells m) := by
  rw [ofMapping, checkKeys_eq_ok_iff.mpr h]
  change Verdict cells m names (readMaxPackets cells (given m "max_packets") >>= _)
  refine .step (judges_maxPackets ..) fun maxPackets hm => ?_
  refine .step (judges_switch cells (by decide) _) fun probeResponses hp => ?_
  refine .step (judges_switch cells (by decide) _) fun passpointOnly ho => ?_
  refine .step (judges_switch cells (by decide) _) fun skipMalformed hs => ?_
  refine .step (judges_format ..) fun format hf => ?_
  refine .step (judges_logLevel ..) fun logLevel hl => ?_
  obtain ⟨hm, hpos⟩ := eq_of_readMaxPackets hm
  have hp : given m "include_probe_responses" = _ := eq_of_readSwitch hp
  have ho : given m "passpoint_only" = _ := eq_of_readSwitch ho
  have hs : given m "skip_malformed" = _ := eq_of_readSwitch hs
  have hf : given m "output_format" = _ := eq_of_readFormat hf
  obtain ⟨hl, hlevel⟩ : given m "log_level" = _ ∧ _ := eq_of_readLogLevel hl
  refine ⟨_, rfl, ⟨hpos, hlevel⟩, ?_⟩
  simp only [toMapping, names, List.map_cons, List.map_nil, hm, hp, ho, hs, hf, hl]

theorem ofMapping_of_unsuited {cells : Cells} {m : Mapping} {name : String}
    (hk : ∀ e ∈ m, isKnown e.1) (hu : unsuited? m names = some name) :
    ofMapping cells m = .error (refused cells name (given m name)) := by
  have hv := verdict_ofMapping cells hk
  rwa [Verdict, hu] at hv

theorem ofMapping_of_suited {m : Mapping} (cells : Cells) (hk : ∀ e ∈ m, isKnown e.1)
    (hu : unsuited? m names = none) :
    ∃ s : Settings, ofMapping cells m = .ok s ∧ s.Valid ∧
      s.toMapping = names.map fun name => (.text name, given m name) := by
  have hv := verdict_ofMapping cells hk
  rwa [Verdict, hu] at hv

theorem ofMapping_of_checkKeys {m : Mapping} {f : Fault} (cells : Cells)
    (h : checkKeys m = .error f) : ofMapping cells m = .error f := by
  rw [ofMapping, h]
  rfl

/-- The settings of a mapping are valid. -/
theorem valid_of_ofMapping {cells : Cells} {m : Mapping} {s : Settings}
    (h : ofMapping cells m = .ok s) : s.Valid := by
  cases hc : checkKeys m with
  | error f => cases h.symm.trans (ofMapping_of_checkKeys cells hc)
  | ok _ =>
    have hk := checkKeys_eq_ok_iff.mp hc
    cases hu : unsuited? m names with
    | some name => cases h.symm.trans (ofMapping_of_unsuited hk hu)
    | none =>
      obtain ⟨_, hs, hv, -⟩ := ofMapping_of_suited cells hk hu
      cases h.symm.trans hs
      exact hv

/-- What a user is not told of: a key that is no text, and the first value that does not suit if it
has to be shown but cannot be. -/
inductive UnreportedMapping (cells : Cells) (m : Mapping) : Prop
  | key {e : Atom × Value} (he : e ∈ m) (hn : e.1.codes? = none)
  | value {name : String} {f : ShowFault} (hk : ∀ e ∈ m, isKnown e.1)
      (hu : unsuited? m names = some name) (hs : name ∉ switches)
      (hf : (given m name).shown cells = .error f)

/-- **Only a key that is no text, or a value that cannot be shown, makes an unreported fault.** -/
theorem ofMapping_unreported_iff {cells : Cells} {m : Mapping} :
    (∃ f, ofMapping cells m = .error f ∧ f.isReported = false) ↔ UnreportedMapping cells m := by
  cases hc : checkKeys m with
  | error f =>
    have hm := ofMapping_of_checkKeys cells hc
    have hr : f.isReported = false ↔ ∃ e ∈ m, e.1.codes? = none := by
      rw [← Bool.not_eq_true, isReported_of_checkKeys hc]
      simp
    constructor
    · rintro ⟨f', hf, h⟩
      cases hf.symm.trans hm
      obtain ⟨e, he, hn⟩ := hr.mp h
      exact .key he hn
    · intro h
      cases h with
      | key he hn => exact ⟨f, hm, hr.mpr ⟨_, he, hn⟩⟩
      | value hk => cases hc.symm.trans (checkKeys_eq_ok_iff.mpr hk)
  | ok _ =>
    have hk := checkKeys_eq_ok_iff.mp hc
    constructor
    · rintro ⟨f, hf, h⟩
      cases hu : unsuited? m names with
      | none =>
        obtain ⟨_, hs, -⟩ := ofMapping_of_suited cells hk hu
        cases hf.symm.trans hs
      | some name =>
        cases hf.symm.trans (ofMapping_of_unsuited hk hu)
        obtain ⟨hs, _, hf⟩ := isReported_refused_iff.mp h
        exact .value hk hu hs hf
    · intro h
      cases h with
      | key he hn => cases hn ▸ isSome_codes_of_isKnown (hk _ he)
      | value _ hu hs hf =>
        exact ⟨_, ofMapping_of_unsuited hk hu, isReported_refused_iff.mpr ⟨hs, _, hf⟩⟩

end Passpoint.Settings
