import Passpoint.Capture.Survey

/-!
A surveyor keeps one tally under fixed settings. Captures can be surveyed or only loaded, frames can
be looked at one by one, and the tally can be asked for and begun anew.
-/

namespace Passpoint.Capture

/-- What a surveyor can be asked for. -/
inductive Request where
  /-- The networks in the capture at a path. -/
  | networks (folder : Folder) (path : String)
  /-- The frames of the capture at a path. -/
  | frames (folder : Folder) (path : String)
  /-- The network that a frame announces. The number of the frame stands in notes. -/
  | network (index : Int) (frame : Frame)
  /-- The sender and the elements of a frame. -/
  | source (frame : Frame)
  | tally
  /-- Begins the tally anew. -/
  | reset

inductive Answer where
  | networks (result : Except Fault (List Network))
  | frames (result : Except Fault (List Frame))
  | network (result : Except Network.Fault (Option Network))
  | source (found : Option (String × Octets))
  | tally (t : Tally)
  | done

/-- An answer, with the tally after it and what was put up with. -/
structure Reply where
  tally : Tally
  notes : List Note
  answer : Answer

def Outcome.reply {ε α : Type} (o : Outcome ε α) (answer : Except ε α → Answer) : Reply :=
  ⟨o.tally, o.notes, answer o.result⟩

def reply (s : Settings) (t : Tally) : Request → Reply
  | .networks folder path => (load s folder path t).reply .networks
  | .frames folder path => (loadFrames s folder path t).reply .frames
  | .network index f => (readFrame s index f t).reply .network
  | .source f => ⟨t.count s f.kind, [], .source (source? s f)⟩
  | .tally => ⟨t, [], .tally t⟩
  | .reset => ⟨{}, [], .done⟩

/-- The tally after some requests to a new surveyor. -/
def tallyAfter (s : Settings) (requests : List Request) : Tally :=
  requests.foldl (fun t r => (reply s t r).tally) {}

end Passpoint.Capture
