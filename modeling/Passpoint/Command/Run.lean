import Passpoint.Capture.Survey
import Passpoint.Command.Options
import Passpoint.Settings.File
import Passpoint.Text.Number
import Passpoint.Text.Terminal

/-!
The command line. Options for all commands stand in front of the command: the settings file and
the level of the log. `decode` describes the network of one scan result, `scan` lists the networks
of a capture, and `version` names the program.

A command line that cannot be read is refused. Settings are loaded before the arguments of the
command are read, so that bad settings win over bad arguments.

What is printed goes to a file or a pipe. Help is one line for each command, and `version` says
nothing of the packages that the program runs with.
-/

namespace Passpoint.Command

open Report (Json)
open Document (Value)
open Text (Codes)

/-- A fault that stops the program instead of being told. -/
inductive Crash where
  | settings (f : Settings.FileFault)
  /-- The file of answers is not UTF-8. -/
  | encoding (f : Text.Utf8.Fault)
  /-- The file of answers is a folder. -/
  | folder (path : String)
  /-- No file can have the name that is given for one. -/
  | nameless

def Crash.message : Crash → String
  | .settings f => f.message
  | .encoding f => f.message
  | .folder path => ReadFault.message path .isFolder
  | .nameless => Path.namelessMessage

/-- How a run ends. -/
inductive Ending where
  /-- The command line is refused. -/
  | usage
  | done (code : Nat) (output errors : String)
  | crashed (c : Crash)

/-- What is printed of a text: all but its control sequences, and a line feed. -/
def printed (s : String) : String := String.ofList (Text.Terminal.strip s.toList) ++ "\n"

def success (output : String) : Ending := .done 0 (printed output) ""

def failure (message : String) : Ending := .done 1 "" (printed message)

/-- What a value of an option, or an argument, ends a run with, if it does. -/
abbrev Refusal := Option Ending

def refuseUnless (good : Bool) : Refusal := if good then none else some .usage

/-- A path at which nothing stands is refused. -/
def refusePath (folder : Folder) (path : String) : Refusal :=
  if Path.isNameless path then some (.crashed .nameless) else refuseUnless (folder.has path)

/-! ### Decoding one scan result -/

inductive DecodeOption where
  | answers
  | json
  | help
  deriving DecidableEq

def decodeFlags : List (Flag DecodeOption) :=
  [{ key := .answers, spellings := ["--anqp-file"], valued := true },
   { key := .json, spellings := ["--json"] },
   { key := .help, spellings := ["--help"] }]

def decodeHelp : String := "Usage: decode [--anqp-file PATH] [--json] BSSID INFO_ELEMENTS"

/-- The lines of a file of answers. -/
def answerLines (folder : Folder) (path : String) : Except Crash (List String) := do
  let octets ← (folder.read path).mapError fun _ => .folder path
  let cs ← (Settings.decodeText octets).mapError .encoding
  return (Text.splitLines cs).map String.ofList

def runDecode (folder : Folder) (args : List String) : Ending :=
  match readArguments decodeFlags true args with
  | none => .usage
  | some (given, others) =>
    if isGiven given .help then success decodeHelp
    else
      let path := valueOf? given .answers
      match path.bind (refusePath folder), others with
      | some ending, _ => ending
      | none, [bssid, elements] =>
        match path.mapM (answerLines folder) with
        | .error c => .crashed c
        | .ok lines =>
          match Network.ofScanText bssid elements (.ofLines? lines) with
          | .error f => failure s!"Decode failed: {f.message}"
          | .ok n => success (if isGiven given .json then n.jsonText (some (.spaces 2)) else n.line)
      | none, _ => .usage

/-! ### Listing the networks of a capture -/

inductive ScanOption where
  | maxPackets
  | passpointOnly
  | noProbeResponses
  | strict
  | format
  | help
  deriving DecidableEq

def scanFlags : List (Flag ScanOption) :=
  [{ key := .maxPackets, spellings := ["--max-packets"], valued := true },
   { key := .passpointOnly, spellings := ["--passpoint-only"] },
   { key := .noProbeResponses, spellings := ["--no-probe-responses"] },
   { key := .strict, spellings := ["--strict"] },
   { key := .format, spellings := ["--format", "-f"], valued := true },
   { key := .help, spellings := ["--help"] }]

def scanHelp : String :=
  "Usage: scan [--max-packets NUMBER] [--passpoint-only] [--no-probe-responses] [--strict] " ++
    "[--format text|json] PCAP_FILE"

def formats : List String := ["text", "json"]

/-- The settings that options of `scan` replace; null leaves a setting as it is. -/
def scanOverrides (given : Given ScanOption) (maxPackets : Option Int) : List (String × Value) :=
  let switch := fun (o : ScanOption) (b : Bool) =>
    if isGiven given o then Value.atom (.bool b) else .null
  [("max_packets", maxPackets.elim .null fun n => .atom (.int n)),
   ("passpoint_only", switch .passpointOnly true),
   ("include_probe_responses", switch .noProbeResponses false),
   ("skip_malformed", switch .strict false),
   ("output_format", (valueOf? given .format).elim .null .text)]

/-- The list of networks as text: one line for each, and one for frames that were passed over. -/
def textReport (networks : List Network) (t : Capture.Tally) : String :=
  let skipped := if t.malformed = 0 then [] else [s!"Malformed frames skipped: {t.malformed}"]
  "\n".intercalate
    (s!"Networks found: {networks.length}" :: networks.map Network.summary ++ skipped)

def jsonReport (path : String) (networks : List Network) (t : Capture.Tally) : Json :=
  .object
    [("pcap_file", .text path),
     ("networks", .list (networks.map Network.toJson)),
     ("stats", t.toJson)]

def report (s : Settings) (path : String) (networks : List Network) (t : Capture.Tally) : String :=
  match s.format with
  | .text => textReport networks t
  | .json => (jsonReport path networks t).render (some (.spaces 2))

/-- Lists the networks of a capture under settings that options may replace. -/
def scanCapture (folder : Folder) (s : Settings) (overrides : List (String × Value))
    (path : String) : Ending :=
  match s.merged overrides with
  | .error f => failure s!"Scan failed: {f.message}"
  | .ok s =>
    let o := Capture.load s folder path {}
    match o.result with
    | .error f => failure s!"Scan failed: {f.message}"
    | .ok networks => success (report s path networks o.tally)

/-- An option that must be a whole number, if it is given. -/
def numberOf? (value : Option String) : Option (Option Int) :=
  match value with
  | none => some none
  | some v => (Text.integer? 10 v.toList).map some

def runScan (folder : Folder) (s : Settings) (args : List String) : Ending :=
  match readArguments scanFlags true args with
  | none => .usage
  | some (given, others) =>
    if isGiven given .help then success scanHelp
    else if (valueOf? given .format).any (!formats.contains ·) then .usage
    else match numberOf? (valueOf? given .maxPackets), others with
      | some maxPackets, path :: more =>
        match (refusePath folder path).or (refuseUnless more.isEmpty) with
        | some ending => ending
        | none => scanCapture folder s (scanOverrides given maxPackets) path
      | _, _ => .usage

/-! ### All commands -/

def versionText : String := "Hotspot Beacon Analyzer\nVersion: 0.1.0"

inductive VersionOption where
  | help
  deriving DecidableEq

def versionFlags : List (Flag VersionOption) := [{ key := .help, spellings := ["--help"] }]

def runVersion (args : List String) : Ending :=
  match readArguments versionFlags true args with
  | none => .usage
  | some (given, others) =>
    if isGiven given .help then success "Usage: version"
    else if others.isEmpty then success versionText
    else .usage

inductive GlobalOption where
  | logLevel
  | settings
  | help
  deriving DecidableEq

def globalFlags : List (Flag GlobalOption) :=
  [{ key := .logLevel, spellings := ["--log-level"], valued := true },
   { key := .settings, spellings := ["--config-file"], valued := true },
   { key := .help, spellings := ["--help"] }]

def globalHelp : String :=
  "Usage: [--log-level DEBUG|INFO|WARNING|ERROR] [--config-file PATH] decode|scan|version ..."

inductive Name where
  | decode
  | scan
  | version
  deriving DecidableEq

def Name.ofText? : String → Option Name
  | "decode" => some .decode
  | "scan" => some .scan
  | "version" => some .version
  | _ => none

def runCommand (folder : Folder) (s : Settings) (args : List String) : Name → Ending
  | .decode => runDecode folder args
  | .scan => runScan folder s args
  | .version => runVersion args

/-- The value of an option in front of the command is refused. -/
def refuseGlobal (folder : Folder) (value : String) : GlobalOption → Refusal
  | .logLevel => refuseUnless (Settings.logLevels.contains value)
  | .settings => refusePath folder value
  | .help => none

/-- Options are checked in the order in which they first came, each by its last value. -/
def refuseGiven (folder : Folder) (given : Given GlobalOption) : Refusal :=
  given.findSome? fun g => (valueOf? given g.1).bind fun value => refuseGlobal folder value g.1

/-- Runs a command line in a folder. -/
def run (folder : Folder) (args : List String) : Ending :=
  match readArguments globalFlags false args with
  | none => .usage
  | some (given, others) =>
    if isGiven given .help then success globalHelp
    else match refuseGiven folder given, others with
      | some ending, _ => ending
      | none, [] => .usage
      | none, command :: args =>
        match Name.ofText? command with
        | none => .usage
        | some name =>
          match (valueOf? given .settings).mapM (Settings.load folder) with
          | .error f =>
            if f.isReported then failure s!"Error loading config file: {f.message}"
            else .crashed (.settings f)
          | .ok loaded =>
            let s := loaded.getD {}
            match s.merged [("log_level", (valueOf? given .logLevel).elim .null .text)] with
            | .error f => failure s!"Error loading config file: {f.message}"
            | .ok s => runCommand folder s args name

end Passpoint.Command
