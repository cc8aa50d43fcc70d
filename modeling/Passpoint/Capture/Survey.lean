import Passpoint.Capture.File
import Passpoint.Folder
import Passpoint.Network.Report
import Passpoint.Network.Roster
import Passpoint.Settings.Basic

/-!
Surveys: the networks that the frames of a capture announce, and a tally of what was read. Each
network is listed once, by name and address, with what its last frame told.

A frame that cannot be read is passed over with a note, or ends the survey if the settings say so.
-/

namespace Passpoint.Capture

/-- What has been read so far. -/
structure Tally where
  files : Nat := 0
  packets : Nat := 0
  beacons : Nat := 0
  probeResponses : Nat := 0
  malformed : Nat := 0
  networks : Nat := 0
  errors : List String := []
  deriving DecidableEq, Repr

/-- What is put up with on the way. -/
inductive Note where
  | skipped (index : Int) (bssid : String) (f : Network.Fault)
  | unreadable (message : String)
  deriving DecidableEq, Repr

def Note.line : Note → Log.Line
  | .skipped index bssid f =>
    ⟨.warning, s!"Skipping malformed frame #{index} from {bssid}: {f.message}"⟩
  | .unreadable message => ⟨.error, message⟩

/-- What a step gives: its result, the tally after it, and its notes. -/
structure Outcome (ε α : Type) where
  tally : Tally
  notes : List Note
  result : Except ε α

namespace Outcome

variable {ε α β : Type}

/-- A step that leaves nothing to note. -/
def quiet (t : Tally) (result : Except ε α) : Outcome ε α := ⟨t, [], result⟩

/-- Goes on from the tally of a step that went well. -/
def andThen (o : Outcome ε α) (next : α → Tally → Outcome ε β) : Outcome ε β :=
  match o.result with
  | .error e => ⟨o.tally, o.notes, .error e⟩
  | .ok a =>
    let o' := next a o.tally
    ⟨o'.tally, o.notes ++ o'.notes, o'.result⟩

def map (f : α → β) (o : Outcome ε α) : Outcome ε β := ⟨o.tally, o.notes, o.result.map f⟩

def mapFault {ε' : Type} (f : ε → ε') (o : Outcome ε α) : Outcome ε' α :=
  ⟨o.tally, o.notes, o.result.mapError f⟩

end Outcome

/-! ### Frames -/

/-- Whether the settings let frames of a kind count. -/
def FrameKind.counts (s : Settings) : FrameKind → Bool
  | .beacon => true
  | .probeResponse => s.probeResponses
  | .other => false

def Tally.count (s : Settings) (t : Tally) : FrameKind → Tally
  | .beacon => { t with beacons := t.beacons + 1 }
  | .probeResponse =>
    if s.probeResponses then { t with probeResponses := t.probeResponses + 1 } else t
  | .other => t

/-- The sender and the elements of a frame that counts and has a sender. -/
def source? (s : Settings) (f : Frame) : Option (String × Octets) :=
  if f.kind.counts s then
    (f.bssid.filter (· ≠ "")).map fun bssid => (bssid, f.elements)
  else none

/-- The network that a frame announces, if it announces one. -/
def readFrame (s : Settings) (index : Int) (f : Frame) (t : Tally) :
    Outcome Network.Fault (Option Network) :=
  let t := t.count s f.kind
  match source? s f with
  | none => .quiet t (.ok none)
  | some (bssid, data) =>
    match Network.ofOctets (some bssid) data .empty with
    | .ok n => .quiet t (.ok (some n))
    | .error e =>
      let t := { t with malformed := t.malformed + 1 }
      if s.skipMalformed then ⟨t, [.skipped index bssid e], .ok none⟩ else .quiet t (.error e)

/-- The networks that frames announce, each frame at most one; `index` is the number of the first
frame. -/
def readFrames (s : Settings) (index : Int) :
    List Frame → Tally → Outcome Network.Fault (List Network)
  | [], t => .quiet t (.ok [])
  | f :: fs, t =>
    (readFrame s index f t).andThen fun n t =>
      (readFrames s (index + 1) fs t).map (n.toList ++ ·)

/-- Whether the settings let a network be listed. -/
def isListed (s : Settings) (n : Network) : Bool := !s.passpointOnly || n.isPasspoint

/-! ### Files -/

inductive Fault where
  | missing (path : String)
  /-- The path is longer than any can be. -/
  | tooLong (path : String)
  | unreadable (message : String)
  | frame (f : Network.Fault)
  deriving DecidableEq, Repr

def Fault.message : Fault → String
  | .missing path => s!"PCAP file not found: {path}"
  | .tooLong path => ReadFault.message (Path.normal path) .tooLong
  | .unreadable message => message
  | .frame f => f.message

/-- What stands at the path of a capture. -/
def itemAt (folder : Folder) (path : String) : Except Fault Item :=
  match folder.find? (Path.normal path) with
  | .ok item => .ok item
  | .error .tooLong => .error (.tooLong path)
  | .error _ => .error (.missing path)

/-- The frames of an item, or a message about why there are none. -/
def framesIn (path : String) : Item → Except String (Reading Frame)
  | .folder => .error (ReadFault.message (Path.normal path) .isFolder)
  | .file octets => (framesOf octets).mapError FileFault.message
  | .capture frames => .ok ⟨frames, none⟩

/-- The frames of a capture that the settings let be read. What is wrong behind them is not met. -/
def admitted (s : Settings) (r : Reading Frame) : Except String (List Frame) :=
  let all := match r.fault with
    | none => .ok r.packets
    | some f => .error f.message
  match s.maxPackets with
  | none => all
  | some n => if n ≤ r.packets.length then .ok (r.packets.take n) else all

/-- The frames of the capture at a path. -/
def loadFrames (s : Settings) (folder : Folder) (path : String) (t : Tally) :
    Outcome Fault (List Frame) :=
  match itemAt folder path with
  | .error f => .quiet t (.error f)
  | .ok item =>
    match framesIn path item >>= admitted s with
    | .error why =>
      let message := s!"Scapy parsing error: {why}"
      let t := { t with errors := t.errors ++ [message] }
      ⟨t, [.unreadable message], .error (.unreadable message)⟩
    | .ok frames =>
      let t := { t with files := t.files + 1, packets := t.packets + frames.length }
      .quiet t (.ok frames)

/-- The networks to be listed, once each. -/
def listed (s : Settings) (ns : List Network) : List Network :=
  (Network.Roster.ofList (ns.filter (isListed s))).networks

/-- The networks in frames. They are counted when all frames have been read. -/
def survey (s : Settings) (frames : List Frame) (t : Tally) :
    Outcome Network.Fault (List Network) :=
  (readFrames s 0 frames t).andThen fun ns t =>
    let ns := listed s ns
    .quiet { t with networks := t.networks + ns.length } (.ok ns)

/-- The networks in the capture at a path. -/
def load (s : Settings) (folder : Folder) (path : String) (t : Tally) :
    Outcome Fault (List Network) :=
  (loadFrames s folder path t).andThen fun frames t => (survey s frames t).mapFault .frame

/-! ### The tally in reports -/

open Report (Json)

/-- The tally as a report shows it. Times are not kept, and stand as zero. -/
def Tally.toJson (t : Tally) : Json :=
  .object
    ([("files_loaded", .int t.files),
      ("total_packets_loaded", .int t.packets),
      ("beacon_frames", .int t.beacons),
      ("probe_responses", .int t.probeResponses),
      ("malformed_frames", .int t.malformed),
      ("descriptors_built", .int t.networks),
      ("total_loading_time", .int 0),
      ("errors", .list (t.errors.map .text))] ++
     (if t.files = 0 then [] else [("average_loading_time", .int 0)]))

end Passpoint.Capture
