import Passpoint.Anqp.Answers
import Passpoint.Log
import Passpoint.Text.Blank
import Passpoint.Text.Hex
import Passpoint.Text.Quoted

/-!
Answers as a supplicant prints them, one to a line: a name, an equals sign, and the payload in
hexadecimal. White space around the three does not matter. Any other line is passed over with a
note, a blank one without.
-/

namespace Passpoint.Anqp

/-- Why a line is passed over. -/
inductive Note where
  | noSeparator (line : String)
  | unknownName (name : String)
  | badPayload (name : String)
  deriving DecidableEq, Repr

def Note.message : Note → String
  | .noSeparator line => s!"Skipping ANQP line without separator: {Text.quoted line}"
  | .unknownName name => s!"Skipping unrecognized ANQP key: {name}"
  | .badPayload name => s!"Skipping ANQP line with bad hex payload: {name}"

def Note.line (n : Note) : Log.Line := ⟨.warning, n.message⟩

/-- What one line says. -/
inductive Reading where
  | blank
  | answer (a : Answer)
  | skipped (n : Note)
  deriving DecidableEq, Repr

/-- The name of a line stands in notes with the white space in front of the equals sign. -/
def Reading.ofLine (line : String) : Reading :=
  let cs := Text.strip line.toList
  if cs.isEmpty then .blank
  else match Text.splitFirst '=' cs with
    | none => .skipped (.noSeparator (String.ofList cs))
    | some (name, value) =>
      match Kind.ofSupplicantName? (String.ofList (Text.strip name)) with
      | none => .skipped (.unknownName (String.ofList name))
      | some kind =>
        match Text.readOctets (Text.strip value) with
        | .error _ => .skipped (.badPayload (String.ofList name))
        | .ok payload => .answer ⟨kind, payload⟩

def Reading.answer? : Reading → Option Answer
  | .answer a => some a
  | _ => none

def Reading.note? : Reading → Option Note
  | .skipped n => some n
  | _ => none

/-- The answers in a run of lines. Of several answers of one kind the last counts. -/
def Answers.ofLines (lines : List String) : Answers :=
  .ofList (lines.filterMap fun l => (Reading.ofLine l).answer?)

/-- The notes on a run of lines. -/
def notesOfLines (lines : List String) : List Note :=
  lines.filterMap fun l => (Reading.ofLine l).note?

/-- The answers in lines that may be missing. -/
def Answers.ofLines? (lines : Option (List String)) : Answers := .ofLines (lines.getD [])

/-! ### Readers -/

/-- What turns lines, if there are any, into answers. It may have effects, and it may fail. -/
abbrev Reader (m : Type → Type) := Option (List String) → m Answers

namespace Reader

variable {m : Type → Type}

/-- The reader of the lines that a supplicant prints. -/
def supplicant [Pure m] : Reader m := fun lines => pure (.ofLines? lines)

/-- A reader whose calls are listed, each as the lines that it was given. -/
def listed [Monad m] (read : Reader m) : Reader (StateT (List (Option (List String))) m) :=
  fun lines => do
    modify (· ++ [lines])
    read lines

end Reader

end Passpoint.Anqp
