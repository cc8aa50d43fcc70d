import Passpoint.Text.Blank

/-!
Options on a command line. A long option takes its value from behind an equals sign or from the
next argument; short ones may share one argument, and one that takes a value ends it. Two hyphens
alone end the options. A name that no option has, a value too many and a value missing are faults.
-/

namespace Passpoint.Command

/-- An option and how it may be spelt, hyphens included. -/
structure Flag (α : Type) where
  key : α
  spellings : List String
  valued : Bool := false

/-- Options with their values; an option without one has the empty text. -/
abbrev Given (α : Type) := List (α × String)

variable {α : Type}

def findFlag? (flags : List (Flag α)) (spelling : String) : Option (Flag α) :=
  flags.find? fun f => f.spellings.contains spelling

/-- Short options in one argument. The last may wait for its value in the next argument. -/
def readCluster (flags : List (Flag α)) : List Char → Option (Given α × Option α)
  | [] => some ([], none)
  | c :: cs => do
    let f ← findFlag? flags (String.ofList ['-', c])
    if f.valued then
      return if cs.isEmpty then ([], some f.key) else ([(f.key, String.ofList cs)], none)
    else
      let (more, waiting) ← readCluster flags cs
      return ((f.key, "") :: more, waiting)

def isLong (arg : String) : Bool := arg.toList.take 2 = ['-', '-']

/-- An argument is an option if it starts with a hyphen and is longer than that. -/
def isOption (arg : String) : Bool := arg.toList.head? = some '-' && arg ≠ "-"

/-- One argument that is an option. -/
def readOption (flags : List (Flag α)) (arg : String) : Option (Given α × Option α) :=
  let (name, value) := match Text.splitFirst '=' arg.toList with
    | some (name, value) => (String.ofList name, some (String.ofList value))
    | none => (arg, none)
  match (findFlag? flags name).filter fun _ => isLong name, value with
  | some f, some v => if f.valued then some ([(f.key, v)], none) else none
  | some f, none => some (if f.valued then ([], some f.key) else ([(f.key, "")], none))
  | none, _ => if isLong arg then none else readCluster flags arg.toList.tail

/-- The options and the other arguments. Unless they may be mixed, the first other argument ends
the options. -/
def readArguments (flags : List (Flag α)) (mixed : Bool) :
    List String → Option (Given α × List String)
  | [] => some ([], [])
  | arg :: rest =>
    if arg = "--" then some ([], rest)
    else if isOption arg then
      match readOption flags arg, rest with
      | none, _ => none
      | some (given, none), rest =>
        (readArguments flags mixed rest).map fun (more, others) => (given ++ more, others)
      | some (_, some _), [] => none
      | some (given, some key), value :: rest =>
        (readArguments flags mixed rest).map fun (more, others) =>
          (given ++ (key, value) :: more, others)
    else if mixed then
      (readArguments flags mixed rest).map fun (given, others) => (given, arg :: others)
    else some ([], arg :: rest)

/-- The last value of an option. -/
def valueOf? [BEq α] (given : Given α) (key : α) : Option String :=
  given.foldl (fun v o => if o.1 == key then some o.2 else v) none

def isGiven [BEq α] (given : Given α) (key : α) : Bool := (valueOf? given key).isSome

end Passpoint.Command
