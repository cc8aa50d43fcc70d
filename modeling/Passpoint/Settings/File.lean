import Passpoint.Document.Json
import Passpoint.Document.Yaml.Build
import Passpoint.Folder
import Passpoint.Settings.Basic
import Passpoint.Text.Lines

/-!
Settings from a file: YAML if its name ends so, JSON otherwise. A file that says nothing leaves the
usual settings.
-/

namespace Passpoint.Settings

/-- Why a file has no settings. -/
inductive FileFault where
  | unreadable (path : String) (f : ReadFault)
  /-- No file can have the name. -/
  | nameless
  /-- It is not UTF-8. -/
  | encoding (f : Text.Utf8.Fault)
  /-- It does not parse; what is wrong with the form of a YAML text is not told. -/
  | syntactic (path : String) (detail : Option String)
  /-- The lists and objects of a JSON text are nested too deeply. -/
  | tooDeep (message : String)
  | unforeseen (f : Document.Yaml.Unforeseen)
  | settings (f : Fault)

/-- The message as code points. -/
def FileFault.codes : FileFault → Text.Codes
  | .unreadable path f =>
    Text.codesOf s!"Cannot read config file {path}: {f.message (Path.normal path)}".toList
  | .nameless => Text.codesOf Path.namelessMessage.toList
  | .encoding f => Text.codesOf f.message.toList
  | .syntactic path none => Text.codesOf s!"Cannot parse config file {path}".toList
  | .syntactic path (some detail) =>
    Text.codesOf s!"Cannot parse config file {path}: {detail}".toList
  | .tooDeep message => Text.codesOf message.toList
  | .unforeseen f => Text.codesOf f.message.toList
  | .settings f => f.codes

def FileFault.message (f : FileFault) : String := Text.escapeSurrogates f.codes

/-- Whether the fault is one that a user is told of; any other stops the program. -/
def FileFault.isReported : FileFault → Bool
  | .nameless | .encoding _ | .tooDeep _ | .unforeseen _ => false
  | .settings f => f.isReported
  | _ => true

def isYamlPath (path : String) : Bool :=
  [".yaml", ".yml"].contains (Path.suffix path).toLower

/-- The text of a file with uniform line breaks. -/
def decodeText (octets : Octets) : Except Text.Utf8.Fault (List Char) :=
  (Text.Utf8.decode octets).map Text.uniformBreaks

/-- What the text of a settings file says. -/
def readDocument (path : String) (cs : List Char) : Except FileFault Document :=
  if isYamlPath path then
    match Document.Yaml.document cs with
    | .ok d => .ok d
    | .error .form => .error (.syntactic path none)
    | .error (.value f) => .error (.syntactic path (some f.message))
    | .error (.unforeseen f) => .error (.unforeseen f)
  else
    match Document.Json.document cs with
    | .ok v => .ok { root := v }
    | .error stop =>
      if stop.isTooDeep then .error (.tooDeep (stop.message cs))
      else .error (.syntactic path (some (stop.message cs)))

/-- The settings that the octets of a file hold. -/
def ofOctets (path : String) (octets : Octets) : Except FileFault Settings := do
  let cs ← (decodeText octets).mapError .encoding
  let d ← readDocument path cs
  if d.top.isEmpty then return {}
  (ofDocument d).mapError .settings

/-- The settings in the file at a path. -/
def load (folder : Folder) (path : String) : Except FileFault Settings := do
  if Path.isNameless path then throw .nameless
  ofOctets path (← (folder.read path).mapError (.unreadable path))

end Passpoint.Settings
