import Passpoint.Proofs.Output
import Passpoint.Proofs.PlainOutput

/-! Command lines of `decode`. Every address, every element text and every path can be asked for:
two hyphens keep what follows them from being read as options. What a request comes to is then up to
the file of answers and to the two texts: the network is printed, JSON in full and a line without the
control sequences in it, or else what is at fault. -/

namespace Passpoint.Command

open Text.Terminal (HoldsSequence Stripped)

/-! ## Arguments -/

section Arguments

variable {α : Type} {flags : List (Flag α)} {mixed : Bool} {arg value : String}
variable {rest : List String} {given : Given α}

theorem readArguments_dashes : readArguments flags mixed ("--" :: rest) = some ([], rest) := by
  rw [readArguments.eq_def]
  exact if_pos rfl

theorem readArguments_flag (hd : arg ≠ "--") (ho : isOption arg)
    (hr : readOption flags arg = some (given, none)) :
    readArguments flags mixed (arg :: rest) =
      (readArguments flags mixed rest).map fun r => (given ++ r.1, r.2) := by
  rw [readArguments.eq_def]
  simp only [if_neg hd, if_pos ho, hr]

theorem readArguments_value {key : α} (hd : arg ≠ "--") (ho : isOption arg)
    (hr : readOption flags arg = some (given, some key)) :
    readArguments flags mixed (arg :: value :: rest) =
      (readArguments flags mixed rest).map fun r => (given ++ (key, value) :: r.1, r.2) := by
  rw [readArguments.eq_def]
  simp only [if_neg hd, if_pos ho, hr]

/-- Where options come first, another argument ends them. -/
theorem readArguments_other (hd : arg ≠ "--") (ho : isOption arg = false) :
    readArguments flags false (arg :: rest) = some ([], arg :: rest) := by
  rw [readArguments.eq_def]
  simp only [if_neg hd, ho, Bool.false_eq_true, if_false]

end Arguments

/-! ## Requests -/

/-- What `decode` can be asked for, with a file of answers. -/
structure DecodeRequest where
  path : String
  json : Bool
  bssid : String
  elements : String

/-- `Asks args r`: the arguments are read as this request, wherever its options stand. -/
def Asks (args : List String) (r : DecodeRequest) : Prop :=
  ∃ given, readArguments decodeFlags true args = some (given, [r.bssid, r.elements]) ∧
    isGiven given .help = false ∧ valueOf? given .answers = some r.path ∧
    isGiven given .json = r.json

/-- One way to ask: options first, and two hyphens in front of the texts. -/
def DecodeRequest.args (r : DecodeRequest) : List String :=
  "--anqp-file" :: r.path :: ((if r.json then ["--json"] else []) ++ ["--", r.bssid, r.elements])

/-- Two hyphens keep both texts from being read as options. -/
theorem readArguments_texts (json : Bool) (bssid elements : String) :
    readArguments decodeFlags true
      ((if json then ["--json"] else []) ++ ["--", bssid, elements]) =
      some (if json then [(.json, "")] else [], [bssid, elements]) := by
  cases json with
  | false => exact readArguments_dashes
  | true =>
    have ho : readOption decodeFlags "--json" = some ([(.json, "")], none) := by decide +kernel
    have hr : readArguments decodeFlags true ["--json", "--", bssid, elements] = _ :=
      readArguments_flag (by decide) (by decide +kernel) ho
    rw [readArguments_dashes] at hr
    exact hr

/-- Everything can be asked for. -/
theorem asks_args (r : DecodeRequest) : Asks r.args r := by
  have ho : readOption decodeFlags "--anqp-file" = some ([], some .answers) := by decide +kernel
  refine ⟨(.answers, r.path) :: (if r.json then [(.json, "")] else []), ?_, ?_, ?_, ?_⟩
  · rw [DecodeRequest.args, readArguments_value (by decide) (by decide +kernel) ho,
      readArguments_texts]
    rfl
  all_goals cases r.json <;> rfl

/-- A file with these octets stands at the path and can be read. -/
structure Readable (folder : Folder) (path : String) (octets : Octets) : Prop where
  accepted : refusePath folder path = none
  read_eq : folder.read path = .ok octets

/-- A file that is put at the path of a file can be read. -/
theorem readable_put {path : String} (h : path.utf8ByteSize ≤ Path.pathLimit)
    (hn : Path.isNameless path = false) (hp : path ≠ "") (ho : Path.endsOpen path = false)
    (hnormal : Path.normal path = path) (folder : Folder) (octets : Octets) :
    Readable (folder.put path (.file octets)) path octets := by
  have hf : (folder.put path (.file octets)).find? path = .ok (.file octets) := by
    rw [Folder.find?, if_neg (Nat.not_lt.mpr h), Folder.put, List.lookup_cons_self]
  have hh : (folder.put path (.file octets)).has path = true := by
    rw [Folder.has, hf, ho]
    simpa [Except.toOption] using hp
  constructor
  · rw [refusePath, hn, hh]
    rfl
  · rw [Folder.read, hnormal, hf]
    rfl

/-- The end of a run that describes a network, or says why there is none to describe. -/
def described (json : Bool) : Except Network.Fault Network → Ending
  | .ok n => success (if json then n.jsonText (some (.spaces 2)) else n.line)
  | .error f => failure s!"Decode failed: {f.message}"

/-- The lines of a text. -/
def linesOf (cs : List Char) : List String := (Text.splitLines cs).map String.ofList

theorem answerLines_of_text {folder : Folder} {path : String} {octets : Octets} {cs : List Char}
    (hr : folder.read path = .ok octets) (hd : Settings.decodeText octets = .ok cs) :
    answerLines folder path = .ok (linesOf cs) := by
  rw [answerLines, hr]
  change (Settings.decodeText octets).mapError _ >>= _ = _
  rw [hd]
  rfl

theorem answerLines_of_broken {folder : Folder} {path : String} {octets : Octets}
    {f : Text.Utf8.Fault} (hr : folder.read path = .ok octets)
    (hd : Settings.decodeText octets = .error f) :
    answerLines folder path = .error (.encoding f) := by
  rw [answerLines, hr]
  change (Settings.decodeText octets).mapError _ >>= _ = _
  rw [hd]
  rfl

/-- A request comes to what the lines of the file and the two texts come to, if the file is a
text. -/
theorem runDecode_of_asks {folder : Folder} {args : List String} {r : DecodeRequest}
    {octets : Octets} (ha : Asks args r) (hf : Readable folder r.path octets) :
    runDecode folder args =
      match Settings.decodeText octets with
      | .error f => .crashed (.encoding f)
      | .ok cs =>
        described r.json
          (Network.ofScanText r.bssid r.elements (.ofLines? (some (linesOf cs)))) := by
  obtain ⟨given, hargs, hhelp, hpath, hjson⟩ := ha
  rw [runDecode, hargs]
  simp only [hhelp, hpath, Option.bind_some, hf.accepted, hjson, Bool.false_eq_true, if_false,
    Option.mapM_some]
  cases hd : Settings.decodeText octets with
  | error f =>
    rw [answerLines_of_broken hf.read_eq hd]
    rfl
  | ok cs =>
    have hl : some <$> answerLines folder r.path = .ok (some (linesOf cs)) := by
      rw [answerLines_of_text hf.read_eq hd]
      rfl
    simp only [hl]
    cases Network.ofScanText r.bssid r.elements (.ofLines? (some (linesOf cs))) <;> rfl

/-! ## What is printed -/

/-- A network as it is printed: JSON in full, and the line without the control sequences that a name
may hold. -/
def arrived (json : Bool) (n : Network) : String :=
  if json then n.jsonText (some (.spaces 2)) ++ "\n" else printed n.line

theorem described_ok (json : Bool) (n : Network) :
    described json (.ok n) = .done 0 (arrived json n) "" := by
  cases json with
  | false => rfl
  | true =>
    have hp := printed_of_isPlain (Report.Json.isPlain_render 2 n.toJson)
    exact congrArg (Ending.done 0 · "") hp

theorem described_error (json : Bool) (f : Network.Fault) :
    described json (.error f) = .done 1 "" ("Decode failed: " ++ printed f.message) := by
  have hp := printed_append (s := "Decode failed: ") (by decide) f.message
  exact congrArg (Ending.done 1 "") hp

/-- `Prints json r e`: the run ends as it should for this form of output, with the network on its
output, or with what is at fault and no output. -/
inductive Prints (json : Bool) : Except Network.Fault Network → Ending → Prop
  /-- JSON is printed in full. -/
  | object {n : Network} (hj : json = true) :
      Prints json (.ok n) (.done 0 (n.jsonText (some (.spaces 2)) ++ "\n") "")
  /-- The line of a network is printed without its control sequences. -/
  | line {n : Network} {cs : List Char} (hj : json = false) (hs : Stripped n.line.toList cs) :
      Prints json (.ok n) (.done 0 (String.ofList cs ++ "\n") "")
  | fault {f : Network.Fault} {cs : List Char} (hs : Stripped f.message.toList cs) :
      Prints json (.error f) (.done 1 "" ("Decode failed: " ++ (String.ofList cs ++ "\n")))

/-- There is one way for a run to end as it should. -/
theorem prints_iff {json : Bool} {r : Except Network.Fault Network} {e : Ending} :
    Prints json r e ↔ e = described json r := by
  constructor
  · intro h
    cases h with
    | object hj =>
      rw [described_ok, hj]
      rfl
    | @line n cs hj hs =>
      have hp : printed n.line = String.ofList cs ++ "\n" := printed_eq_iff.mpr ⟨cs, hs, rfl⟩
      rw [described_ok, hj, ← hp]
      rfl
    | @fault f cs hs =>
      have hp : printed f.message = String.ofList cs ++ "\n" := printed_eq_iff.mpr ⟨cs, hs, rfl⟩
      rw [described_error, hp]
  · rintro rfl
    cases r with
    | ok n =>
      rw [described_ok]
      cases json with
      | false => exact .line rfl (Text.Terminal.strip_eq_iff.mp rfl)
      | true => exact .object rfl
    | error f =>
      rw [described_error]
      exact .fault (Text.Terminal.strip_eq_iff.mp rfl)

/-- The line of a network is printed in full if and only if there is no control sequence in it. -/
theorem described_line_iff {n : Network} :
    described false (.ok n) = .done 0 (n.line ++ "\n") "" ↔ ¬ HoldsSequence n.line.toList := by
  rw [described_ok, ← printed_eq_self_iff, Ending.done.injEq]
  exact ⟨fun h => h.2.1, fun h => ⟨rfl, h, rfl⟩⟩

/-! ## The command in a line -/

/-- `Reaches folder line args`: the options in front of the command are in order, if there are any,
and `decode` has these arguments. -/
def Reaches (folder : Folder) (line args : List String) : Prop :=
  ∃ given loaded s, readArguments globalFlags false line = some (given, "decode" :: args) ∧
    isGiven given .help = false ∧ refuseGiven folder given = none ∧
    (valueOf? given .settings).mapM (Settings.load folder) = .ok loaded ∧
    (loaded.getD {}).merged [("log_level", (valueOf? given .logLevel).elim .null .text)] = .ok s

/-- What stands in front of the command has no part in what it comes to. -/
theorem Reaches.run_eq {folder : Folder} {line args : List String} (h : Reaches folder line args) :
    run folder line = runDecode folder args := by
  obtain ⟨given, loaded, s, hline, hhelp, hgiven, hloaded, hs⟩ := h
  have hname : Name.ofText? "decode" = some .decode := rfl
  rw [run, hline]
  simp only [hhelp, hgiven, hname, hloaded, hs, Bool.false_eq_true, if_false]
  rfl

theorem reaches_decode (folder : Folder) (args : List String) :
    Reaches folder ("decode" :: args) args :=
  ⟨[], none, {}, readArguments_other (by decide) (by decide +kernel), rfl, rfl, rfl, rfl⟩

/-- A level of the log may stand in front of the command. -/
theorem reaches_logLevel (folder : Folder) (args : List String) {level : String}
    (h : level ∈ Settings.logLevels) :
    Reaches folder ("--log-level" :: level :: "decode" :: args) args := by
  have ho : readOption globalFlags "--log-level" = some ([], some .logLevel) := by decide +kernel
  have hline : readArguments globalFlags false ("--log-level" :: level :: "decode" :: args) =
      some ([(.logLevel, level)], "decode" :: args) := by
    rw [readArguments_value (by decide) (by decide +kernel) ho,
      readArguments_other (by decide) (by decide +kernel)]
    rfl
  have hgiven : refuseGiven folder [(.logLevel, level)] = none := by
    simpa [refuseGiven, valueOf?, refuseGlobal, refuseUnless] using h
  have hs : ∃ s, ({} : Settings).merged [("log_level", .text level)] = .ok s := by
    simp only [Settings.logLevels, List.mem_cons, List.not_mem_nil, or_false] at h
    rcases h with rfl | rfl | rfl | rfl <;> exact ⟨_, rfl⟩
  obtain ⟨s, hs⟩ := hs
  exact ⟨_, none, s, hline, rfl, hgiven, rfl, hs⟩

/-- Without options in front of it, the command runs by itself. -/
theorem run_decode (folder : Folder) (args : List String) :
    run folder ("decode" :: args) = runDecode folder args :=
  (reaches_decode folder args).run_eq

end Passpoint.Command
