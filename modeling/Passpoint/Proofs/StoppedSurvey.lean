import Passpoint.Capture.Clock
import Passpoint.Proofs.Strictness

/-! What a survey leaves behind if it fails. There are three ways to fail: nothing stands at the
path, what stands there cannot be read, or the settings are strict and a frame is malformed. The
first changes nothing, the second adds a message, and the third leaves the stats half way: the
capture is counted as a file with all of its packets, but its frames only up to the malformed
one. -/

namespace Passpoint.Capture

variable {τ α β : Type} {s : Settings} {folder : Folder} {path : String}

/-! ## The clock -/

namespace Surveying

variable {st st' : Stats τ} {step : Surveying τ α} {next : α → Surveying τ β}

theorem bind_of_ok {a : α} (h : step st = (.ok a, st')) : (step >>= next) st = next a st' := by
  change (ExceptT.bindCont next (step st).1 : StateM (Stats τ) _) (step st).2 = _
  rw [h]
  rfl

theorem bind_of_error {e : Fault} (h : step st = (.error e, st')) :
    (step >>= next) st = (.error e, st') := by
  change (ExceptT.bindCont next (step st).1 : StateM (Stats τ) _) (step st).2 = _
  rw [h]
  rfl

theorem onTally_eq {o : Tally → Outcome Fault α} {result : Except Fault α}
    (h : (o st.toTally).result = result) :
    onTally o st = (result, { st with toTally := (o st.toTally).tally }) := by
  rw [onTally, h]

end Surveying

section

variable [Add τ] [Sub τ]

/-- The clock has no part in the tally and in what a survey gives, and time is added only if it
gives networks. -/
theorem loadByClock_eq (s : Settings) (folder : Folder) (path : String) (start stop : τ)
    (st : Stats τ) :
    loadByClock s folder path start stop st =
      ((load s folder path st.toTally).result,
        ⟨(load s folder path st.toTally).tally,
          if (load s folder path st.toTally).result.isOk then st.time + (stop - start)
          else st.time⟩) := by
  rw [loadByClock]
  cases hl : (loadFrames s folder path st.toTally).result with
  | error f =>
    rw [Surveying.bind_of_error (Surveying.onTally_eq hl), load, Outcome.andThen_of_error hl]
    rfl
  | ok frames =>
    rw [Surveying.bind_of_ok (Surveying.onTally_eq hl), load_of_loadFrames hl,
      loadFrames_eq_of_ok hl]
    -- What is left of the survey starts from the packets that were counted.
    generalize { st.toTally with
      files := st.files + 1, packets := st.packets + frames.length } = t
    cases hr : (readFrames s 0 frames t).result with
    | error e =>
      have hm : ((readFrames s 0 frames t).mapFault Fault.frame).result = .error (.frame e) := by
        rw [Outcome.result_mapFault, hr]
        rfl
      rw [Surveying.bind_of_error (Surveying.onTally_eq hm), survey, Outcome.andThen_of_error hr]
      rfl
    | ok ns =>
      have hm : ((readFrames s 0 frames t).mapFault Fault.frame).result = .ok ns := by
        rw [Outcome.result_mapFault, hr]
        rfl
      rw [Surveying.bind_of_ok (Surveying.onTally_eq hm), survey, Outcome.andThen, hr]
      rfl

end

/-! ## Ways to fail -/

/-- The stats after a capture was read and surveyed up to the frames that were met, of which one,
the last, is malformed. -/
def Stats.stopped (s : Settings) (st : Stats τ) (read met : List Frame) : Stats τ :=
  { st with
    files := st.files + 1
    packets := st.packets + read.length
    malformed := st.malformed + 1
    beacons := st.beacons + met.countP (·.kind = .beacon)
    probeResponses :=
      st.probeResponses + met.countP fun f => f.kind = .probeResponse ∧ s.probeResponses = true }

/-- `Fails s folder path st e st'`: the survey of the capture at a path fails with `e`, and leaves
the stats `st'` of the stats `st` before. -/
inductive Fails (s : Settings) (folder : Folder) (path : String) (st : Stats τ) :
    Fault → Stats τ → Prop
  /-- Nothing stands at the path. -/
  | missing {e : Fault} (h : itemAt folder path = .error e) : Fails s folder path st e st
  /-- What stands there is no capture, or one that cannot be read as far as it has to be. -/
  | unreadable {item : Item} {why message : String} (hi : itemAt folder path = .ok item)
      (hr : framesIn path item >>= admitted s = .error why)
      (hm : message = s!"Scapy parsing error: {why}") :
      Fails s folder path st (.unreadable message) { st with errors := st.errors ++ [message] }
  /-- The settings are strict, and one of the frames read is malformed, which none before it is. -/
  | stopped {item : Item} {before after : List Frame} {f : Frame} {e : Network.Fault}
      (hi : itemAt folder path = .ok item)
      (hr : framesIn path item >>= admitted s = .ok (before ++ f :: after))
      (hs : s.skipMalformed = false) (hb : ∀ g ∈ before, ∀ e, ¬ Malformed s g e)
      (hf : Malformed s f e) :
      Fails s folder path st (.frame e) (st.stopped s (before ++ f :: after) (before ++ [f]))

variable {st st' : Stats τ}

/-- One frame was malformed if it is the last. -/
theorem countP_malformed_of_first {before : List Frame} {f : Frame} {p : String × Network.Fault}
    (hb : ∀ g ∈ before, malformed? s g = none) (hf : malformed? s f = some p) :
    (before ++ [f]).countP (fun g => (malformed? s g).isSome) = 1 := by
  have hz : before.countP (fun g => (malformed? s g).isSome) = 0 :=
    List.countP_eq_zero.mpr fun g hg => by simp [hb g hg]
  rw [List.countP_append, hz, List.countP_singleton, if_pos (by simp [hf])]

variable [Add τ] [Sub τ]

theorem Fails.loadByClock {e : Fault} (h : Fails s folder path st e st') (start stop : τ) :
    loadByClock s folder path start stop st = (.error e, st') := by
  rw [loadByClock_eq]
  cases h with
  | missing h =>
    rw [load, loadFrames_of_missing h]
    rfl
  | unreadable hi hr hm =>
    subst hm
    rw [load, loadFrames_of_unreadable hi hr]
    rfl
  | @stopped item before after f e hi hr hs hb hf =>
    obtain ⟨bssid, hbssid, -⟩ := hf.2.1
    have hf := malformed?_eq_some_iff.mpr ⟨hf, hbssid⟩
    have hb := fun g hg => malformed?_eq_none_iff.mpr (hb g hg)
    have hl : (loadFrames s folder path st.toTally).result = .ok (before ++ f :: after) := by
      rw [loadFrames_of_readable hi hr]
      rfl
    rw [load_of_loadFrames hl, survey_of_strict hs hb hf, Tally.meet,
      countP_malformed_of_first hb hf]
    rfl

/-- **A survey that fails leaves just this behind.** Whatever the stats before and the times on the
clock: a survey fails in one of three ways. If nothing stands at the path, the stats stay as they
were. If what stands there cannot be read, they have one more message. And if the settings are
strict and a frame that was read is malformed, they have one more file, all the packets that were
read, one more malformed frame, and of the frames up to the first malformed one the beacons, and the
probe responses if these count; the networks, the time and the messages stay as they were. -/
theorem loadByClock_fails_iff {e : Fault} {start stop : τ} :
    loadByClock s folder path start stop st = (.error e, st') ↔ Fails s folder path st e st' := by
  refine ⟨fun h => ?_, fun h => h.loadByClock start stop⟩
  -- If there is a way to fail, it is the only one; so it is enough to find one.
  have found : ∀ {e' : Fault} {st'' : Stats τ}, Fails s folder path st e' st'' →
      Fails s folder path st e st' := by
    intro e' st'' hf
    obtain ⟨he, hst⟩ := Prod.mk.inj (h.symm.trans (hf.loadByClock start stop))
    cases he
    exact hst ▸ hf
  cases hi : itemAt folder path with
  | error f => exact found (.missing hi)
  | ok item =>
    cases hr : framesIn path item >>= admitted s with
    | error why => exact found (.unreadable hi hr rfl)
    | ok frames =>
      have hl : (loadFrames s folder path st.toTally).result = .ok frames := by
        rw [loadFrames_of_readable hi hr]
        rfl
      have hn : ∀ ns, (load s folder path st.toTally).result ≠ .ok ns := by
        intro ns hns
        rw [loadByClock_eq, hns] at h
        cases h
      cases hs : s.skipMalformed with
      | true => exact absurd (result_load hs hl) (hn _)
      | false =>
        rcases sound_or_first_malformed s frames with hall | ⟨before, f, after, _, _, rfl, hb, hf⟩
        · refine absurd ?_ (hn (listed s (frames.filterMap (network? s))))
          rw [load_of_loadFrames hl, survey_of_sound hall]
          rfl
        · exact found (.stopped hi hr hs (fun g hg => malformed?_eq_none_iff.mp (hb g hg))
            (malformed?_eq_some_iff.mp hf).1)

/-- A strict survey of the five frames stops at the third. It counts all five as packets and three by
their kind, and adds no time. -/
theorem loadByClock_fails_iff_third :
    let s : Settings := { skipMalformed := false }
    let folder := ({} : Folder).put "c.pcap" (.capture fiveFrames)
    let st : Stats Nat := { files := 3, packets := 9, beacons := 8, networks := 2, time := 7 }
    ∃ e : Network.Fault, Fails s folder "c.pcap" st (.frame e)
        { st with files := 4, packets := 14, malformed := 1, beacons := 10, probeResponses := 1 } ∧
      loadByClock s folder "c.pcap" 30 40 st = (.error (.frame e),
        { st with files := 4, packets := 14, malformed := 1, beacons := 10, probeResponses := 1 }) := by
  intro s folder st
  let third : Frame := ⟨.beacon, some "cc:cc:cc:cc:cc:cc", [0, 1, 0x63, 11, 1, 0]⟩
  have hi : itemAt folder "c.pcap" = .ok (.capture fiveFrames) := rfl
  have hr : framesIn "c.pcap" (.capture fiveFrames) >>= admitted s =
      .ok (fiveFrames.take 2 ++ third :: fiveFrames.drop 3) := rfl
  have hb : ∀ g ∈ fiveFrames.take 2, malformed? s g = none := by decide +kernel
  have hf : malformed? s third =
      some ("cc:cc:cc:cc:cc:cc", .element ⟨11, 3, .flaw (.loadLength 1)⟩) := by
    decide +kernel
  have hfails : Fails s folder "c.pcap" st _ _ :=
    .stopped hi hr rfl (fun g hg => malformed?_eq_none_iff.mp (hb g hg))
      (malformed?_eq_some_iff.mp hf).1
  exact ⟨_, hfails, loadByClock_fails_iff.mpr hfails⟩

end Passpoint.Capture
