import Passpoint.Capture.Surveyor
import Passpoint.Proofs.Malformed

/-! The tally of a surveyor. Each request adds to it, or begins it anew; a survey that stops at a
malformed frame leaves it half way, with all frames counted that were met. What the numbers have to
do with each other is kept all the same: a frame that counts is malformed or tells of one network at
most, and a file that stands at a path is read or is noted as unreadable. -/

namespace Passpoint.Capture

variable {s : Settings} {t : Tally} {frames : List Frame}

/-! ## Frames -/

theorem counts_of_malformed {f : Frame} (h : (malformed? s f).isSome) : f.kind.counts s = true := by
  obtain ⟨p, hp⟩ := Option.isSome_iff_exists.mp h
  exact (malformed?_eq_some_iff.mp hp).1.1

theorem counts_of_network {f : Frame} {n : Network} (h : network? s f = some n) :
    f.kind.counts s = true :=
  FrameKind.counts_iff.mpr (network?_eq_some_iff.mp h).1.1

/-- Frames that count are at least as many as those that are malformed or tell a network. -/
theorem countP_malformed_add_le (frames : List Frame) :
    frames.countP (fun f => (malformed? s f).isSome) + (frames.filterMap (network? s)).length ≤
      frames.countP fun f => f.kind.counts s := by
  induction frames with
  | nil => exact Nat.le_refl _
  | cons f frames ih =>
    cases hm : malformed? s f with
    | some p =>
      have hc : f.kind.counts s = true := counts_of_malformed (by simp [hm])
      rw [List.filterMap_cons_none (network?_eq_none_of_malformed hm),
        List.countP_cons_of_pos (by simp [hm]),
        List.countP_cons_of_pos (p := fun f : Frame => f.kind.counts s) hc]
      omega
    | none =>
      rw [List.countP_cons_of_neg (by simp [hm]), List.countP_cons]
      cases hn : network? s f with
      | none =>
        rw [List.filterMap_cons_none hn]
        omega
      | some n =>
        rw [List.filterMap_cons_some hn, List.length_cons, if_pos (counts_of_network hn)]
        omega

theorem Tally.frames_meet (s : Settings) (t : Tally) (frames : List Frame) :
    (t.meet s frames).beacons + (t.meet s frames).probeResponses =
      t.beacons + t.probeResponses + frames.countP fun f => f.kind.counts s := by
  have hc : frames.countP (·.kind = .beacon) +
      frames.countP (fun f => f.kind = .probeResponse ∧ s.probeResponses = true) =
      frames.countP fun f => f.kind.counts s := by
    induction frames with
    | nil => rfl
    | cons f frames ih =>
      rw [List.countP_cons, List.countP_cons, List.countP_cons, ← ih]
      cases hk : f.kind <;> cases hp : s.probeResponses <;> simp [FrameKind.counts, hp] <;> omega
  rw [← hc]
  simp only [meet]
  omega

/-- What a survey adds: the frames that were met, and the networks that it lists. -/
theorem tally_survey (s : Settings) (frames : List Frame) (t : Tally) :
    ∃ met count, met <+: frames ∧ count ≤ (met.filterMap (network? s)).length ∧
      (survey s frames t).tally = { t.meet s met with networks := t.networks + count } := by
  obtain ⟨met, hp, ht, hok⟩ := tally_readFrames s 0 frames t
  cases hr : (readFrames s 0 frames t).result with
  | error e =>
    -- A survey that stops lists nothing.
    refine ⟨met, 0, hp, Nat.zero_le _, ?_⟩
    rw [survey, Outcome.andThen_of_error hr, ht]
    rfl
  | ok ns =>
    obtain ⟨rfl, rfl⟩ := hok ns hr
    refine ⟨met, (listed s (met.filterMap (network? s))).length, hp, ?_, ?_⟩
    · exact (Network.listing_ofList _).length_le.trans (List.length_filter_le (isListed s) _)
    · rw [survey, Outcome.tally_andThen_of_ok hr, ht]
      rfl

/-! ## Requests -/

/-- What always holds between the numbers of a tally. -/
structure Tally.Balanced (s : Settings) (t : Tally) : Prop where
  /-- A frame that counts is malformed, or tells of one network at most. -/
  frames : t.malformed + t.networks ≤ t.beacons + t.probeResponses
  /-- Probe responses are counted only if the settings say so. -/
  probes : s.probeResponses = false → t.probeResponses = 0

/-- A request for the networks of captures, for the tally, or for a new one. -/
def Request.isWhole : Request → Bool
  | .networks _ _ | .tally | .reset => true
  | _ => false

def Request.isReset : Request → Bool
  | .reset => true
  | _ => false

/-- A request for the networks of a capture where something stands at the path. -/
def Request.isFound : Request → Bool
  | .networks folder path => (itemAt folder path).toOption.isSome
  | _ => false

/-- How many requests after the last reset found something at their path. -/
def foundCount (requests : List Request) : Nat :=
  (requests.reverse.takeWhile (!·.isReset)).countP (·.isFound)

/-- What holds between the numbers of a tally as long as whole captures are asked for. -/
structure Tally.Accounted (found : Nat) (t : Tally) : Prop where
  /-- Frames that count are packets that were read. -/
  packets : t.beacons + t.probeResponses ≤ t.packets
  /-- What stood at a path was read, or is noted as unreadable. -/
  files : t.files + t.errors.length = found

/-! ### Each request -/

theorem Tally.Balanced.meet (h : t.Balanced s) (met : List Frame) {count : Nat}
    (hc : count ≤ (met.filterMap (network? s)).length) :
    ({ t.meet s met with networks := t.networks + count } : Tally).Balanced s where
  frames := by
    have hf := t.frames_meet s met
    have hm := countP_malformed_add_le (s := s) met
    have ht := h.frames
    simp only [Tally.meet] at hf ⊢
    omega
  probes hp := by
    have ht := h.probes hp
    simp [Tally.meet, hp, ht]

theorem Tally.Balanced.survey (h : t.Balanced s) (frames : List Frame) :
    (survey s frames t).tally.Balanced s := by
  obtain ⟨met, count, -, hc, ht⟩ := tally_survey s frames t
  rw [ht]
  exact h.meet met hc

theorem Tally.Balanced.loadFrames (h : t.Balanced s) (folder : Folder) (path : String) :
    (loadFrames s folder path t).tally.Balanced s := by
  cases hi : itemAt folder path with
  | error fault =>
    rw [loadFrames_of_missing hi]
    exact h
  | ok item =>
    cases hf : framesIn path item >>= admitted s with
    | error why =>
      rw [loadFrames_of_unreadable hi hf]
      exact ⟨h.frames, h.probes⟩
    | ok frames =>
      rw [loadFrames_of_readable hi hf]
      exact ⟨h.frames, h.probes⟩

theorem Tally.Balanced.load (h : t.Balanced s) (folder : Folder) (path : String) :
    (load s folder path t).tally.Balanced s := by
  have hl := h.loadFrames folder path
  rw [Capture.load]
  cases hr : (Capture.loadFrames s folder path t).result with
  | error fault =>
    rw [Outcome.andThen_of_error hr]
    exact hl
  | ok frames =>
    rw [Outcome.tally_andThen_of_ok hr]
    exact hl.survey frames

theorem Tally.Balanced.count (h : t.Balanced s) (kind : FrameKind) :
    (t.count s kind).Balanced s := by
  obtain ⟨hf, hp⟩ := h
  cases kind with
  | beacon => exact ⟨by simp only [Tally.count]; omega, hp⟩
  | other => exact ⟨hf, hp⟩
  | probeResponse =>
    cases hs : s.probeResponses with
    | true => exact ⟨by simp only [Tally.count, hs, if_true]; omega, by simp [hs]⟩
    | false => exact ⟨by simpa [Tally.count, hs] using hf, by simpa [Tally.count, hs] using hp⟩

/-- Every request keeps what holds of a tally. -/
theorem Tally.Balanced.reply (h : t.Balanced s) (r : Request) : (reply s t r).tally.Balanced s := by
  cases r with
  | networks folder path => exact h.load folder path
  | frames folder path => exact h.loadFrames folder path
  | network index f =>
    have ht := tally_readFrame s index f t
    rw [Capture.reply, Outcome.reply, ht]
    exact h.meet [f] (Nat.zero_le _)
  | source f => exact h.count f.kind
  | tally => exact h
  | reset => exact ⟨Nat.le_refl _, fun _ => rfl⟩

/-- What loading and surveying a capture adds: nothing if nothing stands at the path, else a message
or a file with its packets, and of these the frames that were met. -/
theorem tally_load (s : Settings) (folder : Folder) (path : String) (t : Tally) :
    ((∃ fault, itemAt folder path = .error fault) ∧ (load s folder path t).tally = t) ∨
      (∃ item, itemAt folder path = .ok item) ∧
        ((∃ message, (load s folder path t).tally = { t with errors := t.errors ++ [message] }) ∨
          ∃ frames, (load s folder path t).tally =
            (survey s frames
              { t with files := t.files + 1, packets := t.packets + frames.length }).tally) := by
  cases hi : itemAt folder path with
  | error fault =>
    refine .inl ⟨⟨fault, rfl⟩, ?_⟩
    rw [load, loadFrames_of_missing hi]
    rfl
  | ok item =>
    refine .inr ⟨⟨item, rfl⟩, ?_⟩
    cases hf : framesIn path item >>= admitted s with
    | error why =>
      refine .inl ⟨s!"Scapy parsing error: {why}", ?_⟩
      rw [load, loadFrames_of_unreadable hi hf]
      rfl
    | ok frames =>
      refine .inr ⟨frames, ?_⟩
      rw [load, loadFrames_of_readable hi hf]
      rfl

theorem Tally.Accounted.survey {found : Nat} (h : t.Accounted found) (frames : List Frame) :
    (survey s frames { t with files := t.files + 1, packets := t.packets + frames.length }).tally
      |>.Accounted (found + 1) := by
  obtain ⟨met, count, hp, -, ht⟩ := tally_survey s frames
    { t with files := t.files + 1, packets := t.packets + frames.length }
  rw [ht]
  have hm := Tally.frames_meet s
    { t with files := t.files + 1, packets := t.packets + frames.length } met
  have hc : met.countP (fun f => f.kind.counts s) ≤ frames.length :=
    List.countP_le_length.trans hp.length_le
  have hpackets := h.packets
  have hfiles := h.files
  simp only [Tally.meet] at hm ⊢
  constructor <;> dsimp only <;> omega

/-- A request for the networks of a capture is accounted for if something stands at the path. -/
theorem Tally.Accounted.load {found : Nat} (h : t.Accounted found) (folder : Folder)
    (path : String) :
    (load s folder path t).tally.Accounted
      (if (itemAt folder path).toOption.isSome then found + 1 else found) := by
  rcases tally_load s folder path t with
    ⟨⟨fault, hi⟩, ht⟩ | ⟨⟨item, hi⟩, ⟨message, ht⟩ | ⟨frames, ht⟩⟩
  · rw [ht, hi]
    exact h
  · rw [ht, hi]
    have hfiles := h.files
    refine ⟨h.packets, ?_⟩
    simp only [List.length_append, List.length_singleton, Except.toOption, Option.isSome_some,
      if_true]
    omega
  · rw [ht, hi]
    exact h.survey frames

/-! ### Runs of requests -/

theorem tallyAfter_concat (s : Settings) (requests : List Request) (r : Request) :
    tallyAfter s (requests ++ [r]) = (reply s (tallyAfter s requests) r).tally := by
  rw [tallyAfter, List.foldl_append]
  rfl

theorem foundCount_concat (requests : List Request) (r : Request) :
    foundCount (requests ++ [r]) =
      if r.isReset then 0
      else if r.isFound then foundCount requests + 1 else foundCount requests := by
  rw [foundCount, List.reverse_append, List.reverse_singleton, List.singleton_append,
    List.takeWhile_cons]
  cases hr : r.isReset with
  | true => simp
  | false =>
    rw [if_pos (by rfl), if_neg (by simp), List.countP_cons]
    cases r.isFound <;> rfl

theorem balanced_tallyAfter (s : Settings) (requests : List Request) :
    (tallyAfter s requests).Balanced s := by
  -- From the back: the last request acts on the tally that those before it leave.
  induction requests using List.reverseRecOn with
  | nil => exact ⟨Nat.le_refl _, fun _ => rfl⟩
  | append_singleton requests r ih =>
    rw [tallyAfter_concat]
    exact ih.reply r

theorem accounted_tallyAfter (s : Settings) {requests : List Request}
    (h : ∀ r ∈ requests, r.isWhole = true) :
    (tallyAfter s requests).Accounted (foundCount requests) := by
  induction requests using List.reverseRecOn with
  | nil => exact ⟨Nat.le_refl _, rfl⟩
  | append_singleton requests r ih =>
    have ih := ih fun r hr => h r (List.mem_append_left _ hr)
    have hr : r.isWhole = true := h r (by simp)
    rw [tallyAfter_concat, foundCount_concat]
    cases r with
    | networks folder path => exact ih.load folder path
    | tally => exact ih
    | reset => exact ⟨Nat.le_refl _, rfl⟩
    | frames | network | source => cases hr

/-- **The numbers of a tally hang together.** Whatever a surveyor was asked for, one request after
another, and whether or not it could be answered: malformed frames and networks listed are together
at most as many as the frames that count, and no probe response is counted unless the settings say
so. As long as it was only asked for the networks of captures, for the tally, and to begin anew, no
more frames were counted than packets read, and the files read and the messages about unreadable
ones are together as many as the requests since the last new beginning that found something at
their path. -/
theorem tallyAfter_hangs_together (s : Settings) (requests : List Request) :
    let t := tallyAfter s requests
    t.malformed + t.networks ≤ t.beacons + t.probeResponses ∧
    (s.probeResponses = false → t.probeResponses = 0) ∧
    ((∀ r ∈ requests, r.isWhole = true) →
      t.beacons + t.probeResponses ≤ t.packets ∧
      t.files + t.errors.length = foundCount requests) := by
  intro t
  have hb : t.Balanced s := balanced_tallyAfter s requests
  refine ⟨hb.frames, hb.probes, fun hw => ?_⟩
  have ha : t.Accounted (foundCount requests) := accounted_tallyAfter s hw
  exact ⟨ha.packets, ha.files⟩

/-- Of four captures asked for, one before a new beginning, one is not there, one is a folder, and
the survey of one stops at its third frame. -/
def stoppedRequests : List Request :=
  let folder := (({} : Folder).put "c.pcap" (.capture fiveFrames)).put "d" .folder
  [.networks folder "c.pcap", .reset, .networks folder "e.pcap", .tally,
   .networks folder "c.pcap", .networks folder "d"]

/-- Strict settings, under which probe responses do not count. -/
def strictBeacons : Settings := { probeResponses := false, skipMalformed := false }

theorem tallyAfter_hangs_together_stopped :
    strictBeacons.probeResponses = false ∧ (∀ r ∈ stoppedRequests, r.isWhole = true) ∧
    let t := tallyAfter strictBeacons stoppedRequests
    t.malformed + t.networks ≤ t.beacons + t.probeResponses ∧ t.probeResponses = 0 ∧
    t.beacons + t.probeResponses ≤ t.packets ∧ t.files + t.errors.length = 2 ∧
    (t.malformed, t.networks, t.beacons, t.packets, t.files) = (1, 0, 2, 5, 1) := by
  have hw : ∀ r ∈ stoppedRequests, r.isWhole = true := by decide +kernel
  obtain ⟨hf, hp, ha⟩ := tallyAfter_hangs_together strictBeacons stoppedRequests
  obtain ⟨hpackets, hfiles⟩ := ha hw
  have hfound : foundCount stoppedRequests = 2 := by decide +kernel
  rw [hfound] at hfiles
  exact ⟨rfl, hw, hf, hp rfl, hpackets, hfiles, by decide +kernel⟩

end Passpoint.Capture
