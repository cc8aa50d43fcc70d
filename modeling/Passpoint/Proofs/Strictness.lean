import Passpoint.Proofs.Malformed

/-! Strict and lenient surveys of one capture. As long as no frame is malformed they are one survey.
The first malformed frame ends the strict one, with what is wrong with the frame, and is the first
that the lenient one notes. -/

namespace Passpoint

/-- The settings, but the first malformed frame ends a survey. -/
def Settings.strict (s : Settings) : Settings := { s with skipMalformed := false }

/-- The settings, but malformed frames are passed over. -/
def Settings.lenient (s : Settings) : Settings := { s with skipMalformed := true }

end Passpoint

namespace Passpoint.Capture

variable {s : Settings} {folder : Folder} {path : String} {t : Tally} {frames : List Frame}

/-- Frames are all sound, or one of them is the first that is not. -/
theorem sound_or_first_malformed (s : Settings) (frames : List Frame) :
    (∀ f ∈ frames, malformed? s f = none) ∨
      ∃ before f after bssid e, frames = before ++ f :: after ∧
        (∀ g ∈ before, malformed? s g = none) ∧ malformed? s f = some (bssid, e) := by
  induction frames with
  | nil => exact .inl (by simp)
  | cons f frames ih =>
    cases hf : malformed? s f with
    | some p => exact .inr ⟨[], f, frames, p.1, p.2, rfl, by simp, hf⟩
    | none =>
      rcases ih with hall | ⟨before, g, after, bssid, e, rfl, hb, hg⟩
      · refine .inl fun g hg => ?_
        rcases List.mem_cons.mp hg with rfl | hg
        · exact hf
        · exact hall g hg
      · refine .inr ⟨f :: before, g, after, bssid, e, rfl, ?_, hg⟩
        intro g' hg'
        rcases List.mem_cons.mp hg' with rfl | hg'
        · exact hf
        · exact hb g' hg'

/-! ## Surveys -/

theorem survey_of_sound (h : ∀ f ∈ frames, malformed? s f = none) (t : Tally) :
    survey s frames t =
      .quiet { t.meet s frames with
          networks := t.networks + (listed s (frames.filterMap (network? s))).length }
        (.ok (listed s (frames.filterMap (network? s)))) := by
  rw [survey, readFrames_of_sound h, Outcome.quiet_andThen_ok]
  rfl

/-- A strict survey has met the frames up to the first malformed one when it stops. -/
theorem survey_of_strict {before after : List Frame} {f : Frame} {bssid : String}
    {e : Network.Fault} (hs : s.skipMalformed = false) (hb : ∀ g ∈ before, malformed? s g = none)
    (hf : malformed? s f = some (bssid, e)) (t : Tally) :
    survey s (before ++ f :: after) t = .quiet (t.meet s (before ++ [f])) (.error e) := by
  rw [survey, readFrames_append_of_sound hb, readFrames_of_strict hs hf, ← Tally.meet_append]
  rfl

theorem result_survey_of_strict {before after : List Frame} {f : Frame} {bssid : String}
    {e : Network.Fault} (hs : s.skipMalformed = false) (hb : ∀ g ∈ before, malformed? s g = none)
    (hf : malformed? s f = some (bssid, e)) (t : Tally) :
    (survey s (before ++ f :: after) t).result = .error e := by
  rw [survey_of_strict hs hb hf]
  rfl

theorem notes_survey_of_lenient (hs : s.skipMalformed = true) (frames : List Frame) (t : Tally) :
    (survey s frames t).notes = (readFrames s 0 frames t).notes := by
  rw [survey, Outcome.notes_andThen_of_ok (result_readFrames hs 0 frames t)]
  exact List.append_nil _

theorem malformed_survey_of_lenient (hs : s.skipMalformed = true) (frames : List Frame)
    (t : Tally) :
    (survey s frames t).tally.malformed =
      t.malformed + frames.countP fun f => (malformed? s f).isSome := by
  have hr := result_readFrames hs 0 frames t
  obtain ⟨met, -, ht, hok⟩ := tally_readFrames s 0 frames t
  obtain ⟨rfl, -⟩ := hok _ hr
  rw [survey, Outcome.tally_andThen_of_ok hr, ht]
  rfl

/-! ## Captures -/

/-- Once the frames of a capture could be loaded, they are counted and surveyed. -/
theorem load_of_loadFrames (h : (loadFrames s folder path t).result = .ok frames) :
    load s folder path t =
      (survey s frames
        { t with files := t.files + 1, packets := t.packets + frames.length }).mapFault .frame := by
  rw [load, loadFrames_eq_of_ok h, Outcome.quiet_andThen_ok]

/-- **A strict survey is the lenient one, or stops at its first malformed frame.** The frames at the
path could be loaded; they are as many of the capture as the settings let. The strict survey goes
well exactly if the lenient one counts no malformed frame, and then both give the same networks, the
same tally and no notes. Otherwise the strict survey gives what is wrong with the first of the
frames that is malformed, its address or an element of it with tag and offset; that frame is the
first that the lenient survey notes as passed over. -/
theorem load_strict_stops_at_first_malformed
    (h : (loadFrames s folder path t).result = .ok frames) :
    (∃ item r, itemAt folder path = .ok item ∧ framesIn path item = .ok r ∧
      frames = firstFrames s r.packets) ∧
    ((∃ ns, (load s.strict folder path t).result = .ok ns) ↔
      (load s.lenient folder path t).tally.malformed = t.malformed) ∧
    ((load s.lenient folder path t).tally.malformed = t.malformed →
      load s.strict folder path t = load s.lenient folder path t) ∧
    ((load s.lenient folder path t).tally.malformed ≠ t.malformed →
      ∃ before f after bssid e, frames = before ++ f :: after ∧
        (∀ g ∈ before, ∀ e, ¬ Malformed s g e) ∧ Malformed s f e ∧ f.bssid = some bssid ∧
        ((∃ a, e = .address a) ∨ ∃ b, e = .element b) ∧
        (load s.lenient folder path t).notes.head? = some (.skipped before.length bssid e) ∧
        (load s.strict folder path t).result = .error (.frame e)) := by
  refine ⟨exists_item_of_loadFrames h, ?_⟩
  -- Neither the frames that are loaded nor what is malformed depends on the strictness.
  have hs := load_of_loadFrames (s := s.strict) h
  have hl := load_of_loadFrames (s := s.lenient) h
  have hm : (load s.lenient folder path t).tally.malformed =
      t.malformed + frames.countP fun f => (malformed? s f).isSome := by
    rw [hl]
    exact malformed_survey_of_lenient (s := s.lenient) rfl frames _
  rcases sound_or_first_malformed s frames with hall | ⟨before, f, after, bssid, e, rfl, hb, hf⟩
  · have hzero : frames.countP (fun f => (malformed? s f).isSome) = 0 := by
      refine List.countP_eq_zero.mpr fun f hf => ?_
      simp [hall f hf]
    rw [hzero, Nat.add_zero] at hm
    have hss := survey_of_sound (s := s.strict) hall
    have hsl := survey_of_sound (s := s.lenient) hall
    refine ⟨⟨fun _ => hm, fun _ => ?_⟩, fun _ => ?_, fun hne => absurd hm hne⟩
    · rw [hs, hss]
      exact ⟨_, rfl⟩
    · rw [hs, hl, hss, hsl]
      rfl
  · have hpos : (before ++ f :: after).countP (fun f => (malformed? s f).isSome) ≠ 0 := by
      refine Nat.ne_of_gt (List.countP_pos_iff.mpr ⟨f, by simp, ?_⟩)
      simp [hf]
    have hne : (load s.lenient folder path t).tally.malformed ≠ t.malformed := by omega
    have hstop : (load s.strict folder path t).result = .error (.frame e) := by
      rw [hs, Outcome.result_mapFault, result_survey_of_strict (s := s.strict) rfl hb hf]
      rfl
    obtain ⟨he, hbssid⟩ := malformed?_eq_some_iff.mp hf
    refine ⟨⟨?_, fun heq => absurd heq hne⟩, fun heq => absurd heq hne, fun _ => ?_⟩
    · rintro ⟨ns, hns⟩
      rw [hstop] at hns
      cases hns
    · refine ⟨before, f, after, bssid, e, rfl, ?_, he, hbssid, he.address_or_element, ?_, hstop⟩
      · intro g hg
        exact malformed?_eq_none_iff.mp (hb g hg)
      · rw [hl, Outcome.notes_mapFault, notes_survey_of_lenient (s := s.lenient) rfl,
          readFrames_append_of_sound (s := s.lenient) hb, Outcome.notes_map,
          notes_readFrames_of_lenient (s := s.lenient) rfl hf]
        simp

/-- The survey of the five frames stops at the third if it reads so many. -/
theorem load_strict_stops_at_first_malformed_third :
    (loadFrames fourFrames (({} : Folder).put "c.pcap" (.capture fiveFrames)) "c.pcap" {}).result =
      .ok (fiveFrames.take 4) ∧
    ∃ before f after bssid e, fiveFrames.take 4 = before ++ f :: after ∧
      (∀ g ∈ before, ∀ e, ¬ Malformed fourFrames g e) ∧ Malformed fourFrames f e ∧
      (load fourFrames.lenient (({} : Folder).put "c.pcap" (.capture fiveFrames)) "c.pcap"
        {}).notes.head? = some (.skipped before.length bssid e) ∧
      (load fourFrames.strict (({} : Folder).put "c.pcap" (.capture fiveFrames)) "c.pcap"
        {}).result = .error (.frame e) := by
  have hf : (loadFrames fourFrames (({} : Folder).put "c.pcap" (.capture fiveFrames)) "c.pcap"
      {}).result = .ok (fiveFrames.take 4) := by
    decide +kernel
  have hne : (load fourFrames.lenient (({} : Folder).put "c.pcap" (.capture fiveFrames)) "c.pcap"
      {}).tally.malformed ≠ ({} : Tally).malformed := by
    decide +kernel
  obtain ⟨-, -, -, hstop⟩ := load_strict_stops_at_first_malformed hf
  obtain ⟨before, f, after, bssid, e, hsplit, hb, he, -, -, hn, hr⟩ := hstop hne
  exact ⟨hf, before, f, after, bssid, e, hsplit, hb, he, hn, hr⟩

end Passpoint.Capture
