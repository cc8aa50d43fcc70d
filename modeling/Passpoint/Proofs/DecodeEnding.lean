import Passpoint.Proofs.LineEnds
import Passpoint.Proofs.ScanResult

/-! How `decode` ends. If there is no file of answers, or one that is a text, it ends in one of two
ways: with the network on its output, if the two texts are sound, and if not, with what is first at
fault with them behind the words that decoding failed. A file that is no text stops the program
before the two texts are looked at. -/

namespace Passpoint.Command

open Network (AtFault Describes Sound)

/-! ## Inputs -/

/-- What `decode` works on. -/
structure DecodeInput where
  bssid : String
  elements : String
  json : Bool
  /-- What the file of answers holds, if there is one. -/
  octets : Option Octets

/-- `Gives folder args i`: the arguments are read as these texts and this form of output, and name
no file or one with these octets. -/
inductive Gives (folder : Folder) (args : List String) : DecodeInput → Prop
  | alone {given : Given DecodeOption} {bssid elements : String}
      (hargs : readArguments decodeFlags true args = some (given, [bssid, elements]))
      (hhelp : isGiven given .help = false) (hpath : valueOf? given .answers = none) :
      Gives folder args ⟨bssid, elements, isGiven given .json, none⟩
  | file {r : DecodeRequest} {octets : Octets} (ha : Asks args r)
      (hf : Readable folder r.path octets) :
      Gives folder args ⟨r.bssid, r.elements, r.json, some octets⟩

/-- Every input can be given. -/
theorem exists_gives (i : DecodeInput) : ∃ folder args, Gives folder args i := by
  obtain ⟨bssid, elements, json, octets⟩ := i
  cases octets with
  | none =>
    have hargs := readArguments_texts json bssid elements
    cases json <;> exact ⟨{}, _, .alone hargs rfl rfl⟩
  | some octets =>
    have hf : Readable (({} : Folder).put "a.txt" (.file octets)) "a.txt" octets :=
      readable_put (by decide) (by decide) (by decide) (by decide) (by decide) {} octets
    exact ⟨_, _, .file (asks_args ⟨"a.txt", json, bssid, elements⟩) hf⟩

/-- The lines of the file of answers, if there is one; it has to be a text. -/
inductive ReadAs : Option Octets → Option (List String) → Prop
  | none : ReadAs none none
  | text (cs : List Char) :
      ReadAs (some (Text.Utf8.encode cs)) (some (linesOf (Text.uniformBreaks cs)))

variable {folder : Folder} {line args : List String} {i : DecodeInput}

theorem Gives.runDecode_of_readAs {lines : Option (List String)} (h : Gives folder args i)
    (hl : ReadAs i.octets lines) :
    runDecode folder args =
      described i.json (Network.ofScanText i.bssid i.elements (.ofLines? lines)) := by
  cases h with
  | @alone given bssid elements hargs hhelp hpath =>
    cases hl
    have hn : (none : Option String).mapM (answerLines folder) = .ok none := rfl
    rw [runDecode, hargs]
    simp only [hhelp, hpath, Option.bind_none, hn, Bool.false_eq_true, if_false]
    cases Network.ofScanText bssid elements (.ofLines? none) <;> rfl
  | file ha hf =>
    cases hl
    rw [runDecode_of_asks ha hf, decodeText_encode]

/-- Octets that are no text stop the program. -/
theorem Gives.runDecode_of_broken {octets : Octets} (h : Gives folder args i)
    (hi : i.octets = some octets) (hb : ∀ cs, octets ≠ Text.Utf8.encode cs) :
    ∃ f, Text.Utf8.decode octets = .error f ∧ runDecode folder args = .crashed (.encoding f) := by
  cases h with
  | alone => cases hi
  | file ha hf =>
    cases hi
    cases hd : Text.Utf8.decode octets with
    | ok cs => exact absurd (Text.Utf8.decode_eq_ok_iff.mp hd) (hb cs)
    | error f =>
      have ht : Settings.decodeText octets = .error f := by
        rw [Settings.decodeText, hd]
        rfl
      exact ⟨f, rfl, by rw [runDecode_of_asks ha hf, ht]⟩

/-! ## Endings -/

/-- The two ways in which a run may end: it prints the network, as it does if and only if both texts
are sound; or it says what is first at fault with them, and prints nothing. -/
structure Concludes (i : DecodeInput) (answers : Anqp.Answers) (e : Ending) : Prop where
  done_iff : (∃ output errors, e = .done 0 output errors) ↔ Sound i.bssid i.elements
  ways : (∃ n, Describes i.bssid i.elements answers n ∧ e = .done 0 (arrived i.json n) "") ∨
    ∃ f, AtFault i.bssid i.elements f ∧ e = .done 1 "" ("Decode failed: " ++ printed f.message)

theorem concludes_described (i : DecodeInput) (answers : Anqp.Answers) :
    Concludes i answers
      (described i.json (Network.ofScanText i.bssid i.elements answers)) := by
  rcases Network.describes_or_atFault i.bssid i.elements answers with ⟨n, hn⟩ | ⟨f, hf⟩
  · rw [hn.ofScanText_eq, described_ok]
    have hs := (Network.exists_describes_iff answers).mp ⟨n, hn⟩
    exact ⟨iff_of_true ⟨_, _, rfl⟩ hs, .inl ⟨n, hn, rfl⟩⟩
  · rw [hf.ofScanText_eq, described_error]
    exact ⟨iff_of_false nofun hf.not_sound, .inr ⟨f, hf, rfl⟩⟩

/-- **A run of `decode` prints a network or says why there is none, unless its file is no text.**
All texts and all octets can be given. Whatever options stand in front of the command: without a
file, or with one that is a text, the run ends with zero if and only if the address has twelve
digits and the elements are the digits of a buffer that is accepted; then the network of the two
texts and the answers is its output, and nothing else is printed. If not, the run ends with one,
has no output, and says that decoding failed and what is first at fault. Octets that are no text in
UTF-8 stop the program with the fault of their reader, and nothing is said of the two texts. -/
theorem run_decode_concludes (i : DecodeInput) :
    (∃ folder args, Gives folder args i) ∧
    ∀ (folder : Folder) (line args : List String), Reaches folder line args → Gives folder args i →
      (∀ lines, ReadAs i.octets lines → Concludes i (.ofLines? lines) (run folder line)) ∧
      ∀ octets, i.octets = some octets → (∀ cs, octets ≠ Text.Utf8.encode cs) →
        ∃ f, Text.Utf8.decode octets = .error f ∧ run folder line = .crashed (.encoding f) := by
  refine ⟨exists_gives i, ?_⟩
  intro folder line args hr hg
  rw [hr.run_eq]
  constructor
  · intro lines hl
    rw [hg.runDecode_of_readAs hl]
    exact concludes_described i _
  · intro octets hi hb
    exact hg.runDecode_of_broken hi hb

/-- An answer, and a line that says nothing. -/
def answerText : List Char := "anqp_3gpp=0a\r\nother".toList

/-- A file that is a text, and one with an octet that no text has. -/
def answerFiles : Folder :=
  (({} : Folder).put "b.txt" (.file [0x3D, 0xFF])).put "a.txt"
    (.file (Text.Utf8.encode answerText))

/-- What is asked for in these files, with a level of the log in front of the command. -/
def levelled (path bssid : String) : List String :=
  "--log-level" :: "ERROR" :: "decode" :: (DecodeRequest.mk path true bssid "x= 000161").args

/-- Two sound texts; a text that is no address; and a file that is no text. -/
theorem run_decode_concludes_levelled :
    let args := fun path bssid => (DecodeRequest.mk path true bssid "x= 000161").args
    let input := fun bssid octets => DecodeInput.mk bssid "x= 000161" true (some octets)
    (∀ path bssid, Reaches answerFiles (levelled path bssid) (args path bssid)) ∧
    (∀ bssid, Gives answerFiles (args "a.txt" bssid) (input bssid (Text.Utf8.encode answerText))) ∧
    (∀ bssid, Gives answerFiles (args "b.txt" bssid) (input bssid [0x3D, 0xFF])) ∧
    ReadAs (some (Text.Utf8.encode answerText)) (some ["anqp_3gpp=0a", "other"]) ∧
    (∀ cs, [0x3D, 0xFF] ≠ Text.Utf8.encode cs) ∧
    (∃ n : Network, n.ssid = some "a" ∧ n.answers.toList = [⟨.cellularNetwork, [0x0A]⟩] ∧
      run answerFiles (levelled "a.txt" "-61:04:08:62:12:05") =
        .done 0 (n.jsonText (some (.spaces 2)) ++ "\n") "") ∧
    run answerFiles (levelled "a.txt" "610408") =
      .done 1 "" "Decode failed: Bad MAC address: '610408'\n" ∧
    ∃ f, run answerFiles (levelled "b.txt" "-61:04:08:62:12:05") = .crashed (.encoding f) := by
  intro args input
  have hr : ∀ path bssid, Reaches answerFiles (levelled path bssid) (args path bssid) :=
    fun _ _ => reaches_logLevel _ _ (by decide)
  have hreadable : Readable answerFiles "a.txt" (Text.Utf8.encode answerText) ∧
      Readable answerFiles "b.txt" [0x3D, 0xFF] :=
    ⟨⟨by decide +kernel, by decide +kernel⟩, ⟨by decide +kernel, by decide +kernel⟩⟩
  have ha : ∀ bssid, Gives answerFiles (args "a.txt" bssid)
      (input bssid (Text.Utf8.encode answerText)) :=
    fun _ => .file (asks_args _) hreadable.1
  have hb : ∀ bssid, Gives answerFiles (args "b.txt" bssid) (input bssid [0x3D, 0xFF]) :=
    fun _ => .file (asks_args _) hreadable.2
  have hl : ReadAs (some (Text.Utf8.encode answerText)) (some ["anqp_3gpp=0a", "other"]) :=
    .text answerText
  have hbroken : ∀ cs, [0x3D, 0xFF] ≠ Text.Utf8.encode cs :=
    Text.Utf8.ne_encode_of_decode (f := ⟨1, .badStart, [0xFF]⟩) (by decide +kernel)
  refine ⟨hr, ha, hb, hl, hbroken, ?sound, ?address, ?broken⟩
  case sound =>
    have hv : Network.ofScanText (some "-61:04:08:62:12:05") (some "x= 000161")
        (.ofLines? (some ["anqp_3gpp=0a", "other"])) =
        .ok { ssid := some "a", bssid := 0x610408621205,
              answers := ⟨[⟨.cellularNetwork, [0x0A]⟩], by decide⟩ } := by
      decide +kernel
    have hends := ((run_decode_concludes _).2 _ _ _ (hr _ _) (ha "-61:04:08:62:12:05")).1 _ hl
    rcases hends.ways with ⟨n, hn, hrun⟩ | ⟨f, hf, -⟩
    · cases hn.ofScanText_eq.symm.trans hv
      exact ⟨_, rfl, rfl, hrun⟩
    · cases hf.ofScanText_eq.symm.trans hv
  case address =>
    have hv : Network.ofScanText (some "610408") (some "x= 000161")
        (.ofLines? (some ["anqp_3gpp=0a", "other"])) = .error (.address (.digits "610408")) := by
      decide +kernel
    have hends := ((run_decode_concludes _).2 _ _ _ (hr _ _) (ha "610408")).1 _ hl
    rcases hends.ways with ⟨n, hn, -⟩ | ⟨f, hf, hrun⟩
    · cases hn.ofScanText_eq.symm.trans hv
    · cases hf.ofScanText_eq.symm.trans hv
      have hp : printed (Network.Fault.message (.address (.digits "610408"))) =
          "Bad MAC address: '610408'\n" := by
        decide +kernel
      rw [hrun, hp]
      rfl
  case broken =>
    obtain ⟨f, -, hf⟩ := ((run_decode_concludes _).2 _ _ _ (hr _ _) (hb _)).2 _ rfl hbroken
    exact ⟨f, hf⟩

/-- It is not so that a run always ends in one of the two ways: a file of one octet that no text has
stops it. -/
theorem run_decode_concludes_not_utf8 :
    ¬ ∀ (folder : Folder) (args : List String) (r : DecodeRequest) (octets : Octets),
      Asks args r → Readable folder r.path octets →
      (∃ output, run folder ("decode" :: args) = .done 0 output "") ∨
      ∃ message, run folder ("decode" :: args) = .done 1 "" ("Decode failed: " ++ message) := by
  intro h
  let r : DecodeRequest := ⟨"a.txt", false, "610408621205", "ie=000161"⟩
  have hf : Readable (({} : Folder).put "a.txt" (.file [0xFF])) r.path [0xFF] :=
    readable_put (by decide) (by decide) (by decide) (by decide) (by decide) {} [0xFF]
  have hb : ∀ cs, [0xFF] ≠ Text.Utf8.encode cs :=
    Text.Utf8.ne_encode_of_decode (f := ⟨0, .badStart, [0xFF]⟩) (by decide +kernel)
  obtain ⟨f, -, hrun⟩ := (Gives.file (asks_args r) hf).runDecode_of_broken rfl hb
  rw [← run_decode] at hrun
  rcases h _ _ _ _ (asks_args r) hf with ⟨_, hd⟩ | ⟨_, hd⟩
  · cases hrun.symm.trans hd
  · cases hrun.symm.trans hd

end Passpoint.Command
