import Passpoint.Document.Shown
import Passpoint.Log

/-!
The settings of a scan. They come from mappings of names to values: every name must be known, and
each value of the right kind. Merging writes the settings out as such a mapping, puts the values
given over them, and reads the result, so that it refuses just what reading refuses.
-/

namespace Passpoint

open Document (Atom Cells ShowFault Shown Value)
open Text (Codes codesOf)

inductive OutputFormat where
  | text
  | json
  deriving DecidableEq, Repr

def OutputFormat.name : OutputFormat → String
  | .text => "text"
  | .json => "json"

structure Settings where
  /-- How many frames of a capture are read; all if nothing is said. -/
  maxPackets : Option Nat := none
  probeResponses : Bool := true
  passpointOnly : Bool := false
  skipMalformed : Bool := true
  format : OutputFormat := .text
  /-- A level of the log, in any case. -/
  logLevel : String := "INFO"
  deriving DecidableEq, Repr

namespace Settings

/-- Why keys cannot be put in order. -/
inductive OrderFault where
  | kinds (first second : String)
  /-- A moment and a day. -/
  | momentAndDay
  /-- Moments of which only some know their distance from universal time. -/
  | offsets
  deriving DecidableEq, Repr

def OrderFault.message : OrderFault → String
  | .kinds first second => s!"'<' not supported between instances of '{first}' and '{second}'"
  | .momentAndDay => "can't compare datetime.datetime to datetime.date"
  | .offsets => "can't compare offset-naive and offset-aware datetimes"

/-- Why a mapping has no settings. -/
inductive Fault where
  | notMapping
  | unknownNames (names : List Codes)
  /-- Unknown keys are no texts; the first of them in order is of this kind. -/
  | keyKind (kind : String)
  | keyOrder (f : OrderFault)
  /-- A value given for the name that stands for the settings themselves. -/
  | ownName
  /-- The value of a setting, as it is shown. -/
  | maxPackets (shown : String)
  | switch (name : String)
  | format (shown : String)
  | logLevel (shown : String)
  /-- The value of a setting cannot even be shown. -/
  | unshown (f : ShowFault)
  deriving DecidableEq, Repr

/-- The message as code points; names may hold lone surrogates. -/
def Fault.codes : Fault → Codes
  | .unknownNames names =>
    codesOf "Unknown configuration keys: ".toList ++ (codesOf [',', ' ']).intercalate names
  | .notMapping => codesOf "Configuration must be a mapping".toList
  | .keyKind kind => codesOf s!"sequence item 0: expected str instance, {kind} found".toList
  | .keyOrder f => codesOf f.message.toList
  | .ownName =>
    codesOf "ScanConfig.merged() got multiple values for argument 'self'".toList
  | .maxPackets shown => codesOf s!"max_packets must be a positive integer: {shown}".toList
  | .switch name => codesOf s!"{name} must be true or false".toList
  | .format shown => codesOf s!"Unknown output format: {shown}".toList
  | .logLevel shown => codesOf s!"Invalid log level: {shown}".toList
  | .unshown f => codesOf f.message.toList

def Fault.message (f : Fault) : String := Text.escapeSurrogates f.codes

/-- Whether the fault is one that a user is told of; any other stops the program. -/
def Fault.isReported : Fault → Bool
  | .keyKind _ | .keyOrder _ | .ownName | .unshown _ => false
  | _ => true

/-- The names of the settings. -/
def names : List String :=
  ["max_packets", "include_probe_responses", "passpoint_only", "skip_malformed", "output_format",
   "log_level"]

/-- The levels of the log. -/
def logLevels : List String := ["DEBUG", "INFO", "WARNING", "ERROR"]

def isLogLevel (name : String) : Bool := logLevels.contains (Log.upperName name)

/-- What reading a mapping promises. -/
structure Valid (s : Settings) : Prop where
  maxPackets_pos : ∀ n, s.maxPackets = some n → 0 < n
  logLevel_known : isLogLevel s.logLevel = true

abbrev Mapping := List (Atom × Value)

/-- The value of a name. -/
def lookup (m : Mapping) (name : String) (default : Value) : Value :=
  ((m.find? fun e => e.1.sameKey (.text name)).map (·.2)).getD default

def isKnown : Atom → Bool
  | .text name => names.contains name
  | _ => false

/-! ### Unknown keys -/

/-- Why one key cannot be put in order with another; nothing if it can. -/
def orderFault? (a b : Atom) : Option OrderFault :=
  match a, b with
  | .day _, .day _ | .octets _, .octets _ => none
  | .moment m, .moment n => if m.offset.isSome = n.offset.isSome then none else some .offsets
  | .moment _, .day _ | .day _, .moment _ => some .momentAndDay
  | .notNumber _, .notNumber _ => none
  | .notNumber _, b => if b.number?.isSome then none else some (.kinds a.kind b.kind)
  | a, .notNumber _ => if a.number?.isSome then none else some (.kinds a.kind b.kind)
  | a, b =>
    if a.number?.isSome && b.number?.isSome || a.codes?.isSome && b.codes?.isSome then none
    else some (.kinds a.kind b.kind)

/-- Whether a key comes before another by its value as a number. -/
def isLess (a b : Atom) : Bool :=
  match a.number?, b.number? with
  | some m, some n => m.compare n = .lt
  | _, _ => false

/-- The first key in the order of numbers. -/
def least (first : Atom) (rest : List Atom) : Atom :=
  rest.foldl (fun a b => if isLess b a then b else a) first

/-- The fault that unknown keys make. Keys that are all texts are listed in the order of their code
points. -/
def unknownFault (first : Atom) (rest : List Atom) : Fault :=
  match rest.findSome? (orderFault? · first) with
  | some f => .keyOrder f
  | none =>
    if first.codes?.isSome then
      .unknownNames (((first :: rest).filterMap Atom.codes?).mergeSort Text.inOrder)
    else .keyKind (least first rest).kind

/-- Every key must be a known name. -/
def checkKeys (m : Mapping) : Except Fault Unit :=
  match (m.map (·.1)).filter (!isKnown ·) with
  | [] => .ok ()
  | first :: rest => .error (unknownFault first rest)

/-! ### Values -/

/-- The fault of a value that has to be shown. -/
def refusal (shown : Shown) (fault : String → Fault) : Fault :=
  match shown with
  | .ok text => fault text
  | .error f => .unshown f

variable (cells : Cells)

def readMaxPackets (v : Value) : Except Fault (Option Nat) :=
  match v with
  | .atom .null => .ok none
  | .atom (.int n) =>
    if 0 < n then .ok (some n.toNat) else .error (refusal (v.shown cells) .maxPackets)
  | v => .error (refusal (v.shown cells) .maxPackets)

def readSwitch (name : String) : Value → Except Fault Bool
  | .atom (.bool b) => .ok b
  | _ => .error (.switch name)

def readFormat (v : Value) : Except Fault OutputFormat :=
  match v with
  | .atom (.text "text") => .ok .text
  | .atom (.text "json") => .ok .json
  | v => .error (refusal (v.shown cells) .format)

def readLogLevel (v : Value) : Except Fault String :=
  match v with
  | .atom (.text s) =>
    if isLogLevel s then .ok s else .error (refusal (v.shown cells) .logLevel)
  | v => .error (refusal (v.shown cells) .logLevel)

/-- The settings as a mapping. -/
def toMapping (s : Settings) : Mapping :=
  [(.text "max_packets", s.maxPackets.elim .null fun n => .atom (.int n)),
   (.text "include_probe_responses", .atom (.bool s.probeResponses)),
   (.text "passpoint_only", .atom (.bool s.passpointOnly)),
   (.text "skip_malformed", .atom (.bool s.skipMalformed)),
   (.text "output_format", .text s.format.name),
   (.text "log_level", .text s.logLevel)]

/-- The settings in a mapping of a document with these collections; names that it lacks have their
usual values. -/
def ofMapping (m : Mapping) : Except Fault Settings := do
  checkKeys m
  let usual : Settings := {}
  let value := fun name => lookup m name (lookup usual.toMapping name .null)
  return {
    maxPackets := ← readMaxPackets cells (value "max_packets")
    probeResponses := ← readSwitch "include_probe_responses" (value "include_probe_responses")
    passpointOnly := ← readSwitch "passpoint_only" (value "passpoint_only")
    skipMalformed := ← readSwitch "skip_malformed" (value "skip_malformed")
    format := ← readFormat cells (value "output_format")
    logLevel := ← readLogLevel cells (value "log_level") }

/-- The settings that a document holds. -/
def ofDocument (d : Document) : Except Fault Settings :=
  match d.top with
  | .map m => ofMapping d.cells m
  | _ => .error .notMapping

/-- Whether a value leaves a setting as it is. -/
def isNull : Value → Bool
  | .atom .null => true
  | _ => false

/-- Values put over a mapping, but for those that are null. -/
def overlay (m : Mapping) (overrides : List (String × Value)) : Mapping :=
  overrides.foldl (fun m o => if isNull o.2 then m else Document.putEntry (.text o.1) o.2 m) m

/-- The name that no override can have. -/
def reservedName : String := "self"

/-- The settings with some of them replaced by values of a document with these collections. -/
def merged (s : Settings) (overrides : List (String × Value)) (cells : Cells := #[]) :
    Except Fault Settings :=
  if overrides.any fun o => o.1 = reservedName then .error .ownName
  else ofMapping cells (overlay s.toMapping overrides)

end Settings

end Passpoint
