import Passpoint.Capture.Frame
import Passpoint.Text.Quoted

/-!
A working folder: what its files hold, by path. A path may have empty parts and single dots, which
say nothing, and double dots, which lead out of the folder before them.
-/

namespace Passpoint

/-- What stands at a path. -/
inductive Item where
  | file (octets : Octets)
  /-- A capture whose frames are known. -/
  | capture (frames : List Capture.Frame)
  | folder

def Item.isFolder : Item → Bool
  | .folder => true
  | _ => false

/-- Why nothing can be read at a path. -/
inductive ReadFault where
  | missing
  /-- A part of the path on the way is no folder. -/
  | notFolder
  | isFolder
  /-- A name on the path, or all of it, is longer than any can be. -/
  | tooLong
  deriving DecidableEq, Repr

def ReadFault.message (path : String) : ReadFault → String
  | .missing => s!"[Errno 2] No such file or directory: {Text.quoted path}"
  | .notFolder => s!"[Errno 20] Not a directory: {Text.quoted path}"
  | .isFolder => s!"[Errno 21] Is a directory: {Text.quoted path}"
  | .tooLong => s!"[Errno 36] File name too long: {Text.quoted path}"

namespace Path

/-- The names on a path, wherever it starts. -/
def names (path : String) : List String :=
  ((Text.splitAll '/' path.toList).map String.ofList).filter fun s => s ≠ "" && s ≠ "."

/-- The start of a path outside of the working folder. Two slashes stay two, more are one. -/
def root (path : String) : String :=
  match path.toList with
  | ['/', '/'] => "//"
  | '/' :: '/' :: c :: _ => if c = '/' then "/" else "//"
  | '/' :: _ => "/"
  | _ => ""

/-- A path without the parts that say nothing. -/
def normal (path : String) : String :=
  let text := root path ++ "/".intercalate (names path)
  if text = "" then "." else text

/-- The names to follow from the working folder; a slash in front leads to the outermost one. -/
def parts (path : String) : List String :=
  if root path = "" then names path else "/" :: names path

/-- Whether only a folder can stand at a path: it ends in a slash, or in a dot of its own. -/
def endsOpen (path : String) : Bool :=
  match (Text.splitAll '/' path.toList).getLast? with
  | some [] | some ['.'] => true
  | _ => false

/-- The last name on a path. -/
def name (path : String) : String := (names path).getLast?.getD ""

/-- The part of the last name from its last dot on. A dot at either end of the name does not
count. -/
def suffix (path : String) : String :=
  let cs := (name path).toList
  let after := cs.reverse.takeWhile (· ≠ '.')
  if after.isEmpty || cs.length ≤ after.length + 1 then "" else "." ++ String.ofList after.reverse

/-- The most octets that one name can have. -/
def nameLimit : Nat := 255

/-- The most octets that a path can have. -/
def pathLimit : Nat := 4095

/-- A path with a NUL, which nothing can stand at. -/
def isNameless (path : String) : Bool := path.toList.contains '\x00'

def namelessMessage : String := "embedded null byte"

end Path

structure Folder where
  /-- Later items stand in front of earlier ones with the same path. -/
  items : List (List String × Item) := []

namespace Folder

def put (f : Folder) (path : String) (item : Item) : Folder :=
  ⟨(Path.parts path, item) :: f.items⟩

/-- Whether names lead to a folder around the working folder. -/
def isOutside (names : List String) : Bool := names = ["/"] || names.all (· = "..")

/-- What stands behind some names, which hold no double dots unless they lead outside. Above every
item there are folders. -/
def itemAt (f : Folder) (names : List String) : Except ReadFault Item :=
  match f.items.lookup names with
  | some item => .ok item
  | none =>
    if isOutside names || f.items.any (fun i => names.isPrefixOf i.1) then .ok .folder
    else .error .missing

/-- The folder around the one behind some names; the outermost one is its own. -/
def outer (names : List String) : List String :=
  if names = ["/"] then names
  else if isOutside names then names ++ [".."]
  else names.dropLast

/-- Follows names one by one, after those in `done`. -/
def follow (f : Folder) (done : List String) : List String → Except ReadFault Item
  | [] => f.itemAt done
  | part :: parts =>
    match f.itemAt done with
    | .error e => .error e
    | .ok item =>
      if !item.isFolder then .error .notFolder
      else if part = ".." then follow f (outer done) parts
      else if Path.nameLimit < part.utf8ByteSize then .error .tooLong
      else follow f (done ++ [part]) parts

/-- What stands at a path that is spelt as it is. An item may have been put at a path with double
dots, and is found under the same one. -/
def find? (f : Folder) (path : String) : Except ReadFault Item :=
  if Path.pathLimit < path.utf8ByteSize then .error .tooLong
  else match f.items.lookup (Path.parts path) with
    | some item => .ok item
    | none => f.follow [] (Path.parts path)

/-- The octets of the file at a path. Of a capture with known frames only the start is given. -/
def read (f : Folder) (path : String) : Except ReadFault Octets := do
  match ← f.find? (Path.normal path) with
  | .file octets => return octets
  | .capture _ => return Capture.magic
  | .folder => throw .isFolder

/-- Whether anything stands at a path, spelt as it is. -/
def has (f : Folder) (path : String) : Bool :=
  path ≠ "" &&
    (f.find? path).toOption.any fun item => item.isFolder || !Path.endsOpen path

end Folder

end Passpoint
