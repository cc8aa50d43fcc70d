import Mathlib.Algebra.BigOperators.Group.List.Basic
import Passpoint.Proofs.AddressText
import Passpoint.Proofs.Output

/-! How many lines a text report has. Besides its heading it has a text for each network, and one
for frames that were passed over; each of these arrives as one line unless a name in it has line
feeds, and then as one line more for each. Names are sent by the networks themselves, so the lines of
a report tell how many networks there are only if no name has a line feed. -/

namespace Passpoint

open Text (IsLines breaks)

/-! ## Texts without line feeds -/

theorem Text.breaks_eq_zero_iff {s : String} : breaks s = 0 ↔ '\n' ∉ s.toList :=
  List.count_eq_zero

theorem Text.breaks_toString (n : Nat) : breaks (toString n) = 0 := by
  refine breaks_eq_zero_iff.mpr fun h => ?_
  have hd : '\n'.isDigit = true :=
    Nat.isDigit_of_mem_toDigits (b := 10) (n := n) (by decide) (by decide) (by simpa using h)
  cases hd

theorem Text.breaks_intercalate {sep : String} (hs : breaks sep = 0) {parts : List String}
    (h : ∀ s ∈ parts, breaks s = 0) : breaks (sep.intercalate parts) = 0 := by
  induction parts with
  | nil => rfl
  | cons s parts ih =>
    rw [List.forall_mem_cons] at h
    cases parts with
    | nil => simpa using h.1
    | cons t parts =>
      rw [String.intercalate_cons_cons, breaks_append, breaks_append, h.1, hs, ih h.2]

theorem Address.breaks_format (n : Int) : breaks (format n) = 0 := by
  have all : ∀ k : Fin 16, Text.hexDigit k ≠ '\n' := by decide
  refine Text.breaks_intercalate rfl fun s hs => ?_
  obtain ⟨i, -, rfl⟩ := List.mem_map.mp hs
  rw [Text.breaks_eq_zero_iff, String.toList_ofList]
  intro h
  obtain ⟨k, hk⟩ := Text.exists_hexDigit_of_mem_octetDigits h
  exact all k hk.symm

namespace Network

theorem breaks_flags {n : Network} {flag : String} (h : flag ∈ n.flags) : breaks flag = 0 := by
  rw [flags, List.mem_append, List.mem_append] at h
  rcases h with (h | h) | h
  · obtain ⟨r, -, rfl⟩ := Option.map_eq_some_iff.mp (Option.mem_toList.mp h)
    cases r <;> decide
  · obtain ⟨a, -, rfl⟩ := Option.map_eq_some_iff.mp (Option.mem_toList.mp h)
    cases a <;> decide
  · split at h
    · cases List.mem_singleton.mp h
      decide
    · cases h

/-- The text of a network in a report has the line feeds of its name. -/
theorem breaks_summary (n : Network) : breaks n.summary = breaks n.nameText := by
  have hk : breaks n.keyText = breaks n.nameText := by
    have h : n.keyText = "'" ++ n.nameText ++ "':" ++ Address.format n.bssid := rfl
    have hq : breaks "'" = 0 ∧ breaks "':" = 0 := ⟨rfl, rfl⟩
    rw [h, Text.breaks_append, Text.breaks_append, Text.breaks_append, Address.breaks_format, hq.1,
      hq.2]
    omega
  have hf : breaks (if n.flags.isEmpty then "" else "  [" ++ ", ".intercalate n.flags ++ "]") = 0 := by
    split
    · rfl
    · have hb : breaks "  [" = 0 ∧ breaks "]" = 0 := ⟨rfl, rfl⟩
      rw [Text.breaks_append, Text.breaks_append, hb.1, hb.2,
        Text.breaks_intercalate rfl fun _ h => breaks_flags h]
  have hs : breaks "  " = 0 := rfl
  rw [summary, Text.breaks_append, Text.breaks_append, hs, hk, hf]
  omega

end Network

namespace Command

/-! ## The report -/

/-- The texts of a report behind its heading and the networks. -/
def skippedTexts (t : Capture.Tally) : List String :=
  if t.malformed = 0 then [] else [s!"Malformed frames skipped: {t.malformed}"]

/-- The texts of a report, each of which should be one line. -/
def reportTexts (networks : List Network) (t : Capture.Tally) : List String :=
  s!"Networks found: {networks.length}" :: networks.map Network.summary ++ skippedTexts t

theorem printed_textReport (networks : List Network) (t : Capture.Tally) :
    printed (textReport networks t) = String.join ((reportTexts networks t).map printed) :=
  printed_intercalate _ _

theorem sum_map_succ {α : Type} (f : α → Nat) (as : List α) :
    (as.map fun a => f a + 1).sum = as.length + (as.map f).sum := by
  rw [List.sum_map_add, List.map_const', List.sum_replicate_nat, Nat.mul_one, Nat.add_comm]

/-- How many lines a report has if each of its texts is one. -/
def lineCount (networks : List Network) (t : Capture.Tally) : Nat :=
  1 + networks.length + if t.malformed = 0 then 0 else 1

theorem sum_breaks_reportTexts (networks : List Network) (t : Capture.Tally) :
    ((reportTexts networks t).map fun s => breaks s + 1).sum =
      lineCount networks t + (networks.map fun n => breaks n.nameText).sum := by
  have hh : breaks s!"Networks found: {networks.length}" = 0 :=
    (Text.breaks_append ..).trans (by rw [Text.breaks_toString]; rfl)
  have hm : breaks s!"Malformed frames skipped: {t.malformed}" = 0 :=
    (Text.breaks_append ..).trans (by rw [Text.breaks_toString]; rfl)
  have hs : ((skippedTexts t).map fun s => breaks s + 1).sum =
      if t.malformed = 0 then 0 else 1 := by
    rw [skippedTexts]
    split
    · rfl
    · rw [List.map_singleton, List.sum_singleton, hm]
  have hn : (networks.map Network.summary).map (fun s => breaks s + 1) =
      networks.map fun n => breaks n.nameText + 1 := by
    rw [List.map_map]
    exact List.map_congr_left fun n _ => congrArg (· + 1) (Network.breaks_summary n)
  rw [reportTexts, List.cons_append, List.map_cons, List.map_append, List.sum_cons, List.sum_append,
    hh, hn, sum_map_succ, hs, lineCount]
  omega

/-- A printed report is made of as many lines as it has texts, and one more for each line feed in a
name. -/
theorem isLines_textReport (networks : List Network) (t : Capture.Tally) :
    IsLines (lineCount networks t + (networks.map fun n => breaks n.nameText).sum)
      (printed (textReport networks t)) := by
  rw [printed_textReport, ← sum_breaks_reportTexts]
  exact Text.isLines_join fun s _ => isLines_printed s

theorem isLines_textReport_iff {networks : List Network} {t : Capture.Tally} :
    IsLines (lineCount networks t) (printed (textReport networks t)) ↔
      ∀ n ∈ networks, '\n' ∉ n.nameText.toList := by
  have hl := isLines_textReport networks t
  constructor
  · intro h n hn
    have hz : (networks.map fun n => breaks n.nameText).sum = 0 := by
      have := h.breaks_eq.symm.trans hl.breaks_eq
      omega
    exact Text.breaks_eq_zero_iff.mp
      (List.sum_eq_zero_iff_forall_eq_nat.mp hz _ (List.mem_map_of_mem hn))
  · intro h
    have hz : (networks.map fun n => breaks n.nameText).sum = 0 := by
      refine List.sum_eq_zero_iff_forall_eq_nat.mpr fun k hk => ?_
      obtain ⟨n, hn, rfl⟩ := List.mem_map.mp hk
      exact Text.breaks_eq_zero_iff.mpr (h n hn)
    rwa [hz, Nat.add_zero] at hl

/-! ## Runs -/

theorem scanCapture_of_result {folder : Folder} {s s' : Settings}
    {overrides : List (String × Document.Value)} {path : String} {networks : List Network}
    (hm : s.merged overrides = .ok s')
    (hl : (Capture.load s' folder path {}).result = .ok networks) :
    scanCapture folder s overrides path =
      success (report s' path networks (Capture.load s' folder path {}).tally) := by
  rw [scanCapture, hm]
  simp only [hl]

/-- A run that ends well has listed the networks of the capture. -/
theorem exists_networks_of_done {folder : Folder} {s s' : Settings}
    {overrides : List (String × Document.Value)} {path output errors : String}
    (hm : s.merged overrides = .ok s')
    (h : scanCapture folder s overrides path = .done 0 output errors) :
    ∃ networks, (Capture.load s' folder path {}).result = .ok networks ∧
      output = printed (report s' path networks (Capture.load s' folder path {}).tally) := by
  cases hl : (Capture.load s' folder path {}).result with
  | error f =>
    rw [scanCapture, hm] at h
    simp only [hl, failure] at h
    cases h
  | ok networks =>
    rw [scanCapture_of_result hm hl] at h
    cases h
    exact ⟨networks, rfl, rfl⟩

/-- **The lines of a text report are the networks only if no name has a line feed.** A run that ends
well prints a heading, a text for each network that was listed, in their order, and one for frames
that were passed over. Each text is one line, and the whole report as many lines as there are texts,
but for the line feeds in names: each adds a line to the text of its network. -/
theorem scanCapture_lines {folder : Folder} {s s' : Settings}
    {overrides : List (String × Document.Value)} {path output errors : String}
    (hm : s.merged overrides = .ok s') (hf : s'.format = .text)
    (h : scanCapture folder s overrides path = .done 0 output errors) :
    ∃ networks, (Capture.load s' folder path {}).result = .ok networks ∧
      let t := (Capture.load s' folder path {}).tally
      output = printed s!"Networks found: {networks.length}" ++
        String.join (networks.map fun n => printed n.summary) ++
        String.join ((skippedTexts t).map printed) ∧
      (∀ n ∈ networks, IsLines (1 + breaks n.nameText) (printed n.summary)) ∧
      IsLines (lineCount networks t + (networks.map fun n => breaks n.nameText).sum) output ∧
      (IsLines (lineCount networks t) output ↔ ∀ n ∈ networks, '\n' ∉ n.nameText.toList) := by
  obtain ⟨networks, hl, ho⟩ := exists_networks_of_done hm h
  rw [report, hf] at ho
  subst ho
  refine ⟨networks, hl, ?_, ?_, isLines_textReport _ _, isLines_textReport_iff⟩
  · rw [printed_textReport, reportTexts, List.cons_append, List.map_cons, List.map_append,
      String.join_cons, String.join_append, List.map_map, ← String.append_assoc]
    rfl
  · intro n _
    rw [← Network.breaks_summary, Nat.add_comm]
    exact isLines_printed n.summary

/-- A name that ends like the text of another network, with a line feed and the start of a text
behind it; and a frame that is passed over. -/
def forgingFrames : List Capture.Frame :=
  [⟨.beacon, some "66:77:88:99:aa:bb",
    [0, 25, 0x61, 0x27, 0x3A, 0x30, 0x30, 0x3A, 0x31, 0x31, 0x3A, 0x32, 0x32, 0x3A, 0x33, 0x33, 0x3A,
      0x34, 0x34, 0x3A, 0x35, 0x35, 0x0A, 0x20, 0x20, 0x27, 0x62]⟩,
   ⟨.beacon, some "cc:cc:cc:cc:cc:cc", [0, 1, 0x63, 11, 1, 0]⟩]

def forgingFolder : Folder := ({} : Folder).put "c.pcap" (.capture forgingFrames)

/-- The only network in them. -/
def forger : Network := { ssid := some "a':00:11:22:33:44:55\n  'b", bssid := 0x66778899AABB }

theorem result_load_forging :
    (Capture.load {} forgingFolder "c.pcap" {}).result = .ok [forger] := by
  decide +kernel

theorem malformed_load_forging : (Capture.load {} forgingFolder "c.pcap" {}).tally.malformed = 1 := by
  decide +kernel

/-- One network and one frame passed over take four lines with the heading. -/
theorem scanCapture_lines_four :
    ∃ output, ({} : Settings).merged [] = .ok {} ∧ ({} : Settings).format = .text ∧
      scanCapture forgingFolder {} [] "c.pcap" = .done 0 output "" ∧ IsLines 4 output ∧
      ¬ IsLines 3 output := by
  have hm : ({} : Settings).merged [] = .ok {} := rfl
  have hd := scanCapture_of_result hm result_load_forging
  obtain ⟨networks, hl, -, -, hlines, hiff⟩ := scanCapture_lines hm rfl hd
  cases result_load_forging.symm.trans hl
  have hc : lineCount [forger] (Capture.load {} forgingFolder "c.pcap" {}).tally = 3 := by
    rw [lineCount, malformed_load_forging]
    rfl
  rw [hc] at hlines hiff
  refine ⟨_, hm, rfl, hd, hlines, fun h => ?_⟩
  exact absurd (hiff.mp h forger List.mem_cons_self) (by decide +kernel)

/-- It is not so that a report always has one line for each network: a name can hold the text of a
second one. -/
theorem scanCapture_lines_forged :
    ¬ ∀ (folder : Folder) (s s' : Settings) (overrides : List (String × Document.Value))
      (path output errors : String) (networks : List Network),
      s.merged overrides = .ok s' → s'.format = .text →
      scanCapture folder s overrides path = .done 0 output errors →
      (Capture.load s' folder path {}).result = .ok networks →
      IsLines (lineCount networks (Capture.load s' folder path {}).tally) output := by
  intro h
  have hm : ({} : Settings).merged [] = .ok {} := rfl
  have hd := scanCapture_of_result hm result_load_forging
  have hl := h _ _ _ _ _ _ _ _ hm rfl hd result_load_forging
  exact absurd (isLines_textReport_iff.mp hl forger List.mem_cons_self) (by decide +kernel)

end Command

end Passpoint
