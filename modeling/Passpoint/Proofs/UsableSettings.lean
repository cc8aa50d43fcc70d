import Passpoint.Proofs.SettingsFile

/-! What any settings can be used for. However they were obtained - as the usual ones, from a
document, from a file, or from others by replacing values - each value is one that its name allows,
writing them out and reading them again gives the same settings, and the log can be cut off at their
level. And a mapping that gives known names values that they allow is always read. -/

namespace Passpoint.Settings

open Document (Atom Cells Value)

/-! ## What the names allow -/

/-- `Allowed name v`: the setting of this name can have this value. -/
inductive Allowed : (name : String) → Value → Prop
  | unlimited : Allowed "max_packets" .null
  | limit {n : Int} (h : 0 < n) : Allowed "max_packets" (.atom (.int n))
  | switch {name : String} (h : name ∈ switches) (b : Bool) : Allowed name (.atom (.bool b))
  | format {s : String} (h : s ∈ ["text", "json"]) : Allowed "output_format" (.text s)
  | level {s : String} (h : Log.upperName s ∈ ["DEBUG", "INFO", "WARNING", "ERROR"]) :
      Allowed "log_level" (.text s)

theorem isLogLevel_iff {s : String} :
    isLogLevel s ↔ Log.upperName s ∈ ["DEBUG", "INFO", "WARNING", "ERROR"] := by
  simp [isLogLevel, logLevels]

variable {name : String} {v : Value}

theorem Allowed.suits (h : Allowed name v) : suits name v := by
  cases h with
  | unlimited => rfl
  | limit h => simpa [Settings.suits] using h
  | switch h b => exact (suits_switch_iff h).mpr ⟨b, rfl⟩
  | format h => simpa [Settings.suits, Value.text] using h
  | level h => simpa [Settings.suits, Value.text] using isLogLevel_iff.mpr h

theorem Allowed.mem_names (h : Allowed name v) : name ∈ names := by
  cases h with
  | switch h => revert h; revert name; decide
  | _ => decide

theorem isKnown_of_allowed {e : Atom × Value} (h : ∃ name, e.1 = .text name ∧ Allowed name e.2) :
    isKnown e.1 := by
  obtain ⟨name, hk, ha⟩ := h
  rw [hk]
  simpa [isKnown] using ha.mem_names

/-! ## Settings as a mapping -/

theorem allowed_of_mem_toMapping {s : Settings} (h : s.Valid) {e : Atom × Value}
    (he : e ∈ s.toMapping) : ∃ name, e.1 = .text name ∧ Allowed name e.2 := by
  simp only [toMapping, List.mem_cons, List.not_mem_nil, or_false] at he
  rcases he with rfl | rfl | rfl | rfl | rfl | rfl
  · refine ⟨_, rfl, ?_⟩
    cases hm : s.maxPackets with
    | none => exact .unlimited
    | some n => exact .limit (Int.natCast_pos.mpr (h.maxPackets_pos n hm))
  · exact ⟨_, rfl, .switch (by decide) _⟩
  · exact ⟨_, rfl, .switch (by decide) _⟩
  · exact ⟨_, rfl, .switch (by decide) _⟩
  · exact ⟨_, rfl, .format (by cases s.format <;> decide)⟩
  · exact ⟨_, rfl, .level (isLogLevel_iff.mp h.logLevel_known)⟩

/-! ## Written out and read again -/

theorem readMaxPackets_written (cells : Cells) {n? : Option Nat} (h : ∀ n, n? = some n → 0 < n) :
    readMaxPackets cells (n?.elim .null fun n => .atom (.int n)) = .ok n? := by
  cases n? with
  | none => rfl
  | some n =>
    have hn : (0 : Int) < n := Int.natCast_pos.mpr (h n rfl)
    rw [Option.elim_some, readMaxPackets, if_pos hn, Int.toNat_natCast]

theorem readFormat_written (cells : Cells) (f : OutputFormat) :
    readFormat cells (.text f.name) = .ok f := by
  cases f <;> rfl

theorem readLogLevel_written (cells : Cells) {s : String} (h : isLogLevel s) :
    readLogLevel cells (.text s) = .ok s :=
  if_pos h

theorem ofMapping_toMapping (cells : Cells) {s : Settings} (h : s.Valid) :
    ofMapping cells s.toMapping = .ok s := by
  have hk : ∀ e ∈ s.toMapping, isKnown e.1 :=
    fun e he => isKnown_of_allowed (allowed_of_mem_toMapping h he)
  rw [ofMapping, checkKeys_eq_ok_iff.mpr hk]
  change (readMaxPackets cells (s.maxPackets.elim .null fun n => .atom (.int n)) >>= _) = _
  rw [readMaxPackets_written cells h.maxPackets_pos]
  change (readFormat cells (.text s.format.name) >>= _) = _
  rw [readFormat_written]
  change (readLogLevel cells (.text s.logLevel) >>= _) = _
  rw [readLogLevel_written cells h.logLevel_known]
  rfl

/-! ## Mappings that are read -/

theorem text_eq_of_sameKey {name' : String} (h : Atom.sameKey (.text name') (.text name)) :
    name' = name :=
  eq_of_beq h

theorem suits_given {m : Mapping} (h : ∀ e ∈ m, ∃ name, e.1 = .text name ∧ Allowed name e.2)
    (hn : name ∈ names) : suits name (given m name) := by
  rw [given, lookup]
  cases hf : m.find? fun e => e.1.sameKey (.text name) with
  | none => exact suits_usual name hn
  | some e =>
    obtain ⟨name', hk, ha⟩ := h e (List.mem_of_find?_eq_some hf)
    have hs := List.find?_some hf
    rw [hk] at hs
    rw [← text_eq_of_sameKey hs]
    exact ha.suits

theorem unsuited?_eq_none {m : Mapping}
    (h : ∀ e ∈ m, ∃ name, e.1 = .text name ∧ Allowed name e.2) : unsuited? m names = none := by
  rw [unsuited?, List.find?_eq_none]
  intro name hn
  simp [suits_given h hn]

theorem ofDocument_of_map {d : Document} {m : Mapping} (h : d.top = .map m) :
    ofDocument d = ofMapping d.cells m := by
  rw [ofDocument, h]

/-- Settings have the values of the mapping that they were read from, unchanged. -/
theorem toMapping_of_ofMapping {cells : Cells} {m : Mapping} {s : Settings}
    (h : ofMapping cells m = .ok s) :
    s.toMapping = names.map fun name => (.text name, given m name) := by
  cases hc : checkKeys m with
  | error f => cases h.symm.trans (ofMapping_of_checkKeys cells hc)
  | ok _ =>
    have hk := checkKeys_eq_ok_iff.mp hc
    cases hu : unsuited? m names with
    | some name => cases h.symm.trans (ofMapping_of_unsuited hk hu)
    | none =>
      obtain ⟨_, hs, -, hm⟩ := ofMapping_of_suited cells hk hu
      cases h.symm.trans hs
      exact hm

/-! ## All settings that can be obtained -/

/-- Settings that some sequence of readings and replacements ends in. -/
inductive Obtained : Settings → Prop
  | usual : Obtained {}
  | document {d : Document} {s : Settings} (h : ofDocument d = .ok s) : Obtained s
  | merged {s s' : Settings} {overrides : List (String × Value)} {cells : Cells}
      (hs : Obtained s) (h : s.merged overrides cells = .ok s') : Obtained s'
  | file {folder : Folder} {path : String} {s : Settings} (h : load folder path = .ok s) :
      Obtained s

theorem Obtained.valid {s : Settings} (h : Obtained s) : s.Valid := by
  cases h with
  | usual => exact valid_usual
  | document h => exact valid_of_ofDocument h
  | merged _ h =>
    rw [Settings.merged] at h
    split at h
    · cases h
    · exact valid_of_ofMapping h
  | file h => exact valid_of_load h

/-- The levels that settings can name, and the weights at which they cut off a log. -/
def cutoffs : List (String × Nat) := [("DEBUG", 10), ("INFO", 20), ("WARNING", 30), ("ERROR", 40)]

/-- What settings are good for. -/
structure Usable (s : Settings) : Prop where
  /-- Every value is one that its name allows. -/
  allowed : ∀ e ∈ s.toMapping, ∃ name, e.1 = .text name ∧ Allowed name e.2
  /-- Any document that the settings are written to gives them back. -/
  reread : ∀ d : Document, d.top = .map s.toMapping → ofDocument d = .ok s
  /-- The log can be cut off at the level, which in capital letters has the name of its weight. -/
  cutoff : ∃ level ∈ cutoffs, Log.upperName s.logLevel = level.1 ∧
    Log.threshold? s.logLevel = some level.2

theorem exists_cutoff {s : String} (h : isLogLevel s) :
    ∃ level ∈ cutoffs, Log.upperName s = level.1 ∧ Log.threshold? s = some level.2 := by
  have all : ∀ level ∈ cutoffs, Log.thresholds.lookup level.1 = some level.2 := by decide
  have hn : Log.upperName s ∈ cutoffs.map (·.1) := isLogLevel_iff.mp h
  obtain ⟨level, hl, he⟩ := List.mem_map.mp hn
  exact ⟨level, hl, he.symm, by rw [Log.threshold?, ← he, all level hl]⟩

theorem Valid.usable {s : Settings} (h : s.Valid) : s.Usable where
  allowed _ he := allowed_of_mem_toMapping h he
  reread d hd := (ofDocument_of_map hd).trans (ofMapping_toMapping d.cells h)
  cutoff := exists_cutoff h.logLevel_known

/-- **All settings are usable, and all usable values make settings.** Whatever the settings were
obtained from, each of their values is one that its name allows, they are read back from where they
are written to, and the log can be cut off at the level that they name. What was read from a mapping
has the values of the mapping, and the usual values for the names that it lacks; and a mapping is
read if all of its keys are names with values that they allow. -/
theorem usable_of_obtained :
    (∀ s, Obtained s → Usable s) ∧
    ∀ (d : Document) (m : Mapping), d.top = .map m →
      (∀ s, ofDocument d = .ok s →
        s.toMapping = names.map fun name => (.text name, given m name)) ∧
      ((∀ e ∈ m, ∃ name, e.1 = .text name ∧ Allowed name e.2) → ∃ s, ofDocument d = .ok s) := by
  refine ⟨fun s h => h.valid.usable, fun d m hd => ?_⟩
  rw [ofDocument_of_map hd]
  refine ⟨fun s h => toMapping_of_ofMapping h, fun h => ?_⟩
  obtain ⟨s, hs, -⟩ :=
    ofMapping_of_suited d.cells (fun e he => isKnown_of_allowed (h e he)) (unsuited?_eq_none h)
  exact ⟨s, hs⟩

/-- A level with a dotless i is in capital letters one of the four, and the log is cut off there. -/
theorem usable_of_obtained_dotless :
    let m : Mapping := [(.text "log_level", .text "\u0131nfo"), (.text "max_packets", .atom (.int 3))]
    (∀ e ∈ m, ∃ name, e.1 = .text name ∧ Allowed name e.2) ∧
    ∃ s, ofDocument { root := .map m } = .ok s ∧ Obtained s ∧ Usable s ∧
      s.maxPackets = some 3 ∧ s.skipMalformed = true ∧ Log.threshold? s.logLevel = some 20 := by
  intro m
  have ha : ∀ e ∈ m, ∃ name, e.1 = .text name ∧ Allowed name e.2 := by
    intro e he
    simp only [m, List.mem_cons, List.not_mem_nil, or_false] at he
    rcases he with rfl | rfl
    · exact ⟨_, rfl, .level (by decide +kernel)⟩
    · exact ⟨_, rfl, .limit (by decide)⟩
  have h := usable_of_obtained.2 { root := .map m } m rfl
  obtain ⟨s, hs⟩ := h.2 ha
  have hv : ofDocument { root := .map m } = .ok { maxPackets := some 3, logLevel := "\u0131nfo" } :=
    rfl
  cases hs.symm.trans hv
  have ho : Obtained _ := .document hs
  exact ⟨ha, _, hs, ho, usable_of_obtained.1 _ ho, rfl, rfl, by decide +kernel⟩

end Passpoint.Settings
