import Passpoint.Capture.Survey

/-!
Surveys by the clock. Together with the tally goes the time that surveys took. It is added once all
frames have been read, right before the networks are counted; steps that fail keep what was changed
up to there.
-/

namespace Passpoint.Capture

/-- A tally, and the time that surveys took. -/
structure Stats (τ : Type) extends Tally where
  time : τ

/-- Steps that change the stats, also if they fail. -/
abbrev Surveying (τ : Type) := ExceptT Fault (StateM (Stats τ))

variable {τ α : Type}

/-- A step that only the tally has to do with. -/
def Surveying.onTally (step : Tally → Outcome Fault α) : Surveying τ α := fun st =>
  let o := step st.toTally
  (o.result, { st with toTally := o.tally })

variable [Add τ] [Sub τ]

/-- The networks in the capture at a path, with `start` and `stop` on the clock when the survey
begins and when all frames have been read. -/
def loadByClock (s : Settings) (folder : Folder) (path : String) (start stop : τ) :
    Surveying τ (List Network) := do
  let frames ← .onTally (loadFrames s folder path)
  let ns ← .onTally fun t => (readFrames s 0 frames t).mapFault .frame
  let ns := listed s ns
  modify fun st => { st with time := st.time + (stop - start) }
  modify fun st => { st with networks := st.networks + ns.length }
  return ns

end Passpoint.Capture
