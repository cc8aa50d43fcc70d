import Passpoint.Proofs.JsonDocument
import Passpoint.Proofs.SettingValues
import Passpoint.Proofs.Utf8
import Passpoint.Settings.File

/-! What a settings file comes to. The settings in it are valid, and most of its faults are told to
the user. Those that are not are a path that no file can have, octets that are not UTF-8, a text
that its reader gives up on, and a YAML mapping with a key that is no text, or with a value that has
to be shown and cannot be; no mapping of a JSON text is among them. -/

namespace Passpoint.Settings

open Document (Atom Cells Plain Value)
open Text (uniformBreaks)

/-! ## Documents -/

theorem not_unreportedMapping_nil (cells : Cells) : ¬ UnreportedMapping cells [] := by
  intro h
  cases h with
  | key he => cases he
  | value _ hu =>
    obtain ⟨e, he, -⟩ := exists_mem_of_unsuited hu
    cases he

theorem not_unreportedMapping_of_plain {cells : Cells} {m : Mapping}
    (hk : ∀ e ∈ m, e.1.codes?.isSome) (hv : ∀ e ∈ m, Plain Document.Nesting.shown e.2) :
    ¬ UnreportedMapping cells m := by
  intro h
  cases h with
  | key he hn => cases hn ▸ hk _ he
  | value _ hu _ hf =>
    obtain ⟨e, he, hg⟩ := exists_mem_of_unsuited hu
    obtain ⟨text, ht⟩ := (hv e he).exists_shownAt cells []
    rw [hg] at ht
    cases ht.symm.trans hf

theorem valid_of_ofDocument {d : Document} {s : Settings} (h : ofDocument d = .ok s) : s.Valid := by
  rw [ofDocument] at h
  split at h
  · exact valid_of_ofMapping h
  · cases h

theorem ofDocument_unreported_iff {d : Document} :
    (∃ f, ofDocument d = .error f ∧ f.isReported = false) ↔
      ∃ m, d.top = .map m ∧ UnreportedMapping d.cells m := by
  rw [ofDocument]
  split
  · rename_i m hm
    rw [ofMapping_unreported_iff]
    constructor
    · exact fun h => ⟨m, hm, h⟩
    · rintro ⟨m', hm', h⟩
      cases hm.symm.trans hm'
      exact h
  · rename_i hm
    constructor
    · rintro ⟨f, hf, h⟩
      cases hf
      cases h
    · rintro ⟨m, h, -⟩
      exact absurd h (hm m)

/-! ## Texts -/

/-- The settings that a text with uniform line breaks holds. -/
def ofText (path : String) (cs : List Char) : Except FileFault Settings := do
  let d ← readDocument path cs
  if d.top.isEmpty then return {}
  (ofDocument d).mapError .settings

/-- What a user is not told of in a text. -/
inductive UnreportedText (path : String) (cs : List Char) : Prop
  | tooDeep {stop : Document.Json.Stop} (hy : isYamlPath path = false)
      (hd : Document.Json.document cs = .error stop) (ht : stop.isTooDeep)
  | unforeseen {f : Document.Yaml.Unforeseen} (hy : isYamlPath path)
      (hd : Document.Yaml.document cs = .error (.unforeseen f))
  | mapping {d : Document} {m : Mapping} (hy : isYamlPath path)
      (hd : Document.Yaml.document cs = .ok d) (hm : d.top = .map m)
      (hu : UnreportedMapping d.cells m)

theorem ofText_of_readDocument {path : String} {cs : List Char} {d : Document}
    (h : readDocument path cs = .ok d) :
    ofText path cs = if d.top.isEmpty then .ok {} else (ofDocument d).mapError .settings := by
  rw [ofText, h]
  rfl

theorem ofText_of_error {path : String} {cs : List Char} {f : FileFault}
    (h : readDocument path cs = .error f) : ofText path cs = .error f := by
  rw [ofText, h]
  rfl

theorem valid_usual : Valid {} := ⟨nofun, by decide +kernel⟩

theorem valid_of_ofText {path : String} {cs : List Char} {s : Settings}
    (h : ofText path cs = .ok s) : s.Valid := by
  cases hd : readDocument path cs with
  | error f => cases h.symm.trans (ofText_of_error hd)
  | ok d =>
    rw [ofText_of_readDocument hd] at h
    split at h
    · cases h
      exact valid_usual
    · cases ho : ofDocument d with
      | error f => rw [ho] at h; cases h
      | ok s' =>
        rw [ho] at h
        cases h
        exact valid_of_ofDocument ho

theorem ofText_unreported_iff_of_error {path : String} {cs : List Char} {g : FileFault}
    (h : readDocument path cs = .error g) :
    (∃ f, ofText path cs = .error f ∧ f.isReported = false) ↔ g.isReported = false := by
  rw [ofText_of_error h]
  constructor
  · rintro ⟨f, hf, hr⟩
    cases hf
    exact hr
  · exact fun hr => ⟨g, rfl, hr⟩

theorem ofText_unreported_iff_of_readDocument {path : String} {cs : List Char} {d : Document}
    (h : readDocument path cs = .ok d) :
    (∃ f, ofText path cs = .error f ∧ f.isReported = false) ↔
      ∃ m, d.top = .map m ∧ UnreportedMapping d.cells m := by
  rw [ofText_of_readDocument h]
  split
  · rename_i he
    constructor
    · rintro ⟨f, hf, -⟩
      cases hf
    · rintro ⟨m, hm, hu⟩
      rw [hm] at he
      cases List.isEmpty_iff.mp he
      exact absurd hu (not_unreportedMapping_nil _)
  · rw [← ofDocument_unreported_iff]
    constructor
    · rintro ⟨f, hf, hr⟩
      cases ho : ofDocument d with
      | ok s => rw [ho] at hf; cases hf
      | error g =>
        rw [ho] at hf
        cases hf
        exact ⟨g, rfl, hr⟩
    · rintro ⟨f, hf, hr⟩
      exact ⟨.settings f, by rw [hf]; rfl, hr⟩

/-- No mapping of a JSON text is among those that make an unreported fault. -/
theorem not_unreportedMapping_of_json {cs : List Char} {v : Value}
    (h : Document.Json.document cs = .ok v) :
    ¬ ∃ m, Document.top ⟨v, #[]⟩ = .map m ∧ UnreportedMapping #[] m := by
  rintro ⟨m, hm, hu⟩
  have hp := Document.Json.plain_of_document h
  cases hp with
  | atom => cases hm
  | list => cases hm
  | map hk hv =>
    cases hm
    -- As many levels of JSON are read as are shown.
    exact not_unreportedMapping_of_plain hk hv hu

theorem unreportedText_iff_of_json {path : String} {cs : List Char}
    (hy : isYamlPath path = false) :
    UnreportedText path cs ↔ ∃ stop, Document.Json.document cs = .error stop ∧ stop.isTooDeep := by
  constructor
  · intro h
    cases h with
    | tooDeep _ hd ht => exact ⟨_, hd, ht⟩
    | unforeseen hy' => cases hy.symm.trans hy'
    | mapping hy' => cases hy.symm.trans hy'
  · rintro ⟨stop, hd, ht⟩
    exact .tooDeep hy hd ht

theorem unreportedText_iff_of_yaml {path : String} {cs : List Char} (hy : isYamlPath path) :
    UnreportedText path cs ↔
      (∃ f, Document.Yaml.document cs = .error (.unforeseen f)) ∨
      ∃ d m, Document.Yaml.document cs = .ok d ∧ d.top = .map m ∧
        UnreportedMapping d.cells m := by
  constructor
  · intro h
    cases h with
    | tooDeep hy' => cases hy.symm.trans hy'
    | unforeseen _ hd => exact .inl ⟨_, hd⟩
    | mapping _ hd hm hu => exact .inr ⟨_, _, hd, hm, hu⟩
  · rintro (⟨f, hd⟩ | ⟨d, m, hd, hm, hu⟩)
    · exact .unforeseen hy hd
    · exact .mapping hy hd hm hu

theorem ofText_unreported_iff_of_json {path : String} {cs : List Char}
    (hy : isYamlPath path = false) :
    (∃ f, ofText path cs = .error f ∧ f.isReported = false) ↔ UnreportedText path cs := by
  rw [unreportedText_iff_of_json hy]
  cases hd : Document.Json.document cs with
  | ok v =>
    have hr : readDocument path cs = .ok { root := v } := by rw [readDocument, hy, hd]; rfl
    rw [ofText_unreported_iff_of_readDocument hr]
    exact iff_of_false (not_unreportedMapping_of_json hd) nofun
  | error stop =>
    have hr : readDocument path cs = .error (if stop.isTooDeep then .tooDeep (stop.message cs)
        else .syntactic path (some (stop.message cs))) := by
      rw [readDocument, hy, hd, apply_ite Except.error]
      rfl
    rw [ofText_unreported_iff_of_error hr]
    cases ht : stop.isTooDeep <;> simp [FileFault.isReported, ht]

theorem ofText_unreported_iff_of_yaml {path : String} {cs : List Char} (hy : isYamlPath path) :
    (∃ f, ofText path cs = .error f ∧ f.isReported = false) ↔ UnreportedText path cs := by
  rw [unreportedText_iff_of_yaml hy]
  cases hd : Document.Yaml.document cs with
  | ok d =>
    have hr : readDocument path cs = .ok d := by rw [readDocument, hy, hd]; rfl
    rw [ofText_unreported_iff_of_readDocument hr]
    simp
  | error f =>
    cases f with
    | form =>
      have hr : readDocument path cs = .error (.syntactic path none) := by
        rw [readDocument, hy, hd]; rfl
      rw [ofText_unreported_iff_of_error hr]
      simp [FileFault.isReported]
    | value f =>
      have hr : readDocument path cs = .error (.syntactic path (some f.message)) := by
        rw [readDocument, hy, hd]; rfl
      rw [ofText_unreported_iff_of_error hr]
      simp [FileFault.isReported]
    | unforeseen f =>
      have hr : readDocument path cs = .error (.unforeseen f) := by
        rw [readDocument, hy, hd]; rfl
      rw [ofText_unreported_iff_of_error hr]
      simp [FileFault.isReported]

theorem ofText_unreported_iff {path : String} {cs : List Char} :
    (∃ f, ofText path cs = .error f ∧ f.isReported = false) ↔ UnreportedText path cs := by
  cases hy : isYamlPath path with
  | false => exact ofText_unreported_iff_of_json hy
  | true => exact ofText_unreported_iff_of_yaml hy

/-! ## Files -/

/-- What a user is not told of in the octets of a file. -/
inductive UnreportedOctets (path : String) (octets : Octets) : Prop
  | encoding (h : ∀ cs, octets ≠ Text.Utf8.encode cs)
  | text {cs : List Char} (ho : octets = Text.Utf8.encode cs)
      (h : UnreportedText path (uniformBreaks cs))

theorem ofOctets_encode (path : String) (cs : List Char) :
    ofOctets path (Text.Utf8.encode cs) = ofText path (uniformBreaks cs) := by
  rw [ofOctets, decodeText, Text.Utf8.decode_eq_ok_iff.mpr rfl]
  rfl

theorem exists_encoding_of_ofOctets {octets : Octets} (path : String)
    (h : ∀ cs, octets ≠ Text.Utf8.encode cs) :
    ∃ f, ofOctets path octets = .error (.encoding f) := by
  cases hd : Text.Utf8.decode octets with
  | ok cs => exact absurd (Text.Utf8.decode_eq_ok_iff.mp hd) (h cs)
  | error f => exact ⟨f, by rw [ofOctets, decodeText, hd]; rfl⟩

theorem valid_of_ofOctets {path : String} {octets : Octets} {s : Settings}
    (h : ofOctets path octets = .ok s) : s.Valid := by
  by_cases ho : ∃ cs, octets = Text.Utf8.encode cs
  · obtain ⟨cs, rfl⟩ := ho
    exact valid_of_ofText (ofOctets_encode path cs ▸ h)
  · obtain ⟨f, hf⟩ := exists_encoding_of_ofOctets path (not_exists.mp ho)
    cases h.symm.trans hf

theorem ofOctets_unreported_iff {path : String} {octets : Octets} :
    (∃ f, ofOctets path octets = .error f ∧ f.isReported = false) ↔
      UnreportedOctets path octets := by
  by_cases ho : ∃ cs, octets = Text.Utf8.encode cs
  · obtain ⟨cs, rfl⟩ := ho
    rw [ofOctets_encode, ofText_unreported_iff]
    constructor
    · exact .text rfl
    · intro h
      cases h with
      | encoding h => exact absurd rfl (h cs)
      | text ho h => rwa [Text.Utf8.encode_injective ho]
  · obtain ⟨f, hf⟩ := exists_encoding_of_ofOctets path (not_exists.mp ho)
    exact iff_of_true ⟨_, hf, rfl⟩ (.encoding (not_exists.mp ho))

theorem load_of_nameless {path : String} (folder : Folder) (h : Path.isNameless path) :
    load folder path = .error .nameless := by
  rw [load, if_pos h]
  rfl

theorem load_of_unreadable {folder : Folder} {path : String} {f : ReadFault}
    (hn : ¬ Path.isNameless path) (h : folder.read path = .error f) :
    load folder path = .error (.unreadable path f) := by
  rw [load, if_neg hn, h]
  rfl

theorem load_of_readable {folder : Folder} {path : String} {octets : Octets}
    (hn : ¬ Path.isNameless path) (h : folder.read path = .ok octets) :
    load folder path = ofOctets path octets := by
  rw [load, if_neg hn, h]
  rfl

theorem valid_of_load {folder : Folder} {path : String} {s : Settings}
    (h : load folder path = .ok s) : s.Valid := by
  by_cases hn : Path.isNameless path
  · cases h.symm.trans (load_of_nameless folder hn)
  · cases hr : folder.read path with
    | error f => cases h.symm.trans (load_of_unreadable hn hr)
    | ok octets => exact valid_of_ofOctets ((load_of_readable hn hr).symm.trans h)

theorem load_unreported_iff {folder : Folder} {path : String} :
    (∃ f, load folder path = .error f ∧ f.isReported = false) ↔
      Path.isNameless path ∨
        ∃ octets, folder.read path = .ok octets ∧ UnreportedOctets path octets := by
  by_cases hn : Path.isNameless path
  · exact iff_of_true ⟨_, load_of_nameless folder hn, rfl⟩ (.inl hn)
  · rw [or_iff_right hn]
    cases hr : folder.read path with
    | error f =>
      rw [load_of_unreadable hn hr]
      refine iff_of_false ?_ nofun
      rintro ⟨g, hg, hf⟩
      cases hg
      cases hf
    | ok octets =>
      rw [load_of_readable hn hr, ofOctets_unreported_iff]
      constructor
      · exact fun h => ⟨octets, rfl, h⟩
      · rintro ⟨_, ho, h⟩
        cases ho
        exact h

/-- **A settings file gives valid settings, or a fault that the user is told of, but for the faults
named here.** These are a path that no file can have; octets that are not UTF-8; a JSON text nested
too deeply, or a YAML text with a part that no rule of its reader speaks of; and in a YAML text a
mapping with a key that is no text, or with a value that does not suit its name and cannot be
shown. -/
theorem load_valid_or_reported (folder : Folder) (path : String) :
    (∀ s, load folder path = .ok s → s.Valid) ∧
    ((∃ f, load folder path = .error f ∧ f.isReported = false) ↔
      Path.isNameless path ∨
        ∃ octets, folder.read path = .ok octets ∧ UnreportedOctets path octets) :=
  ⟨fun _ h => valid_of_load h, load_unreported_iff⟩

/-- A file of one octet that no UTF-8 holds gives neither settings nor a fault that the user is told
of. -/
theorem load_valid_or_reported_not_utf8 :
    ¬ ∀ (folder : Folder) (path : String),
      (∃ s, load folder path = .ok s ∧ s.Valid) ∨
      ∃ f, load folder path = .error f ∧ f.isReported := by
  intro h
  let folder := ({} : Folder).put "config.json" (.file [0xFF])
  have hr : folder.read "config.json" = .ok [0xFF] := by rfl
  have he : ∀ cs, [0xFF] ≠ Text.Utf8.encode cs := by
    intro cs hc
    have hd : Text.Utf8.decode [0xFF] = .error ⟨0, .badStart, [0xFF]⟩ := by decide +kernel
    cases hd.symm.trans (Text.Utf8.decode_eq_ok_iff.mpr hc)
  obtain ⟨f, hf, hu⟩ := load_unreported_iff.mpr (.inr ⟨_, hr, .encoding he⟩)
  rcases h folder "config.json" with ⟨s, hs, -⟩ | ⟨g, hg, ht⟩
  · cases hf.symm.trans hs
  · cases hf.symm.trans hg
    cases hu.symm.trans ht

end Passpoint.Settings
