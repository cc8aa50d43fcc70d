import Passpoint.Proofs.Survey

/-! Malformed frames. A frame that counts and names a sender tells a network or is malformed, and
what a survey does with the malformed ones is up to the settings: it passes over them with a note,
or it ends at the first. Up to there both surveys go the same way. -/

namespace Passpoint.Capture

/-- A frame is malformed: it counts and names a sender, but no network can be read off it. -/
def Malformed (s : Settings) (f : Frame) (e : Network.Fault) : Prop :=
  f.kind.counts s = true ∧ (∃ bssid, f.bssid = some bssid ∧ bssid ≠ "") ∧
    Network.ofOctets f.bssid f.elements .empty = .error e

/-- Who sent a malformed frame, and what is wrong with it. -/
def malformed? (s : Settings) (f : Frame) : Option (String × Network.Fault) :=
  (source? s f).bind fun p =>
    match Network.ofOctets (some p.1) p.2 .empty with
    | .ok _ => none
    | .error e => some (p.1, e)

/-- The tally after some frames were met. -/
def Tally.meet (s : Settings) (t : Tally) (fs : List Frame) : Tally :=
  { t with
    beacons := t.beacons + fs.countP (·.kind = .beacon)
    probeResponses :=
      t.probeResponses + fs.countP fun f => f.kind = .probeResponse ∧ s.probeResponses = true
    malformed := t.malformed + fs.countP fun f => (malformed? s f).isSome }

variable {s : Settings} {f : Frame} {bssid : String} {e : Network.Fault}

theorem malformed?_eq_some_iff :
    malformed? s f = some (bssid, e) ↔ Malformed s f e ∧ f.bssid = some bssid := by
  rw [malformed?, Option.bind_eq_some_iff]
  constructor
  · rintro ⟨⟨b, data⟩, hs, hm⟩
    obtain ⟨hk, hb, hne, rfl⟩ := source?_eq_some_iff.mp hs
    cases hn : Network.ofOctets (some b) f.elements .empty with
    | ok n => simp [hn] at hm
    | error e' =>
      simp only [hn, Option.some.injEq, Prod.mk.injEq] at hm
      obtain ⟨rfl, rfl⟩ := hm
      exact ⟨⟨hk, ⟨b, hb, hne⟩, hb ▸ hn⟩, hb⟩
  · rintro ⟨⟨hk, ⟨b, hb, hne⟩, hn⟩, hb'⟩
    obtain rfl : b = bssid := Option.some.inj (hb.symm.trans hb')
    refine ⟨(b, f.elements), source?_eq_some_iff.mpr ⟨hk, hb, hne, rfl⟩, ?_⟩
    rw [hb] at hn
    simp [hn]

theorem malformed?_eq_none_iff : malformed? s f = none ↔ ∀ e, ¬ Malformed s f e := by
  constructor
  · intro h e he
    obtain ⟨b, hb, -⟩ := he.2.1
    rw [malformed?_eq_some_iff.mpr ⟨he, hb⟩] at h
    cases h
  · intro h
    cases hm : malformed? s f with
    | none => rfl
    | some p => exact absurd (malformed?_eq_some_iff.mp hm).1 (h p.2)

/-- What is wrong with a frame is its address or one of its elements. -/
theorem Malformed.address_or_element (h : Malformed s f e) :
    (∃ a, e = .address a) ∨ ∃ b, e = .element b := by
  obtain ⟨-, -, hn⟩ := h
  rw [Network.ofOctets] at hn
  cases ha : Address.parse? f.bssid with
  | error a =>
    rw [ha] at hn
    cases hn
    exact .inl ⟨a, rfl⟩
  | ok address =>
    cases hs : Element.scan f.elements with
    | error b =>
      rw [ha, hs] at hn
      cases hn
      exact .inr ⟨b, rfl⟩
    | ok found =>
      rw [ha, hs] at hn
      cases hn

/-! ## One frame -/

theorem Tally.meet_nil (s : Settings) (t : Tally) : t.meet s [] = t := rfl

theorem Tally.meet_append (s : Settings) (t : Tally) (fs gs : List Frame) :
    t.meet s (fs ++ gs) = (t.meet s fs).meet s gs := by
  simp [meet, Nat.add_assoc]

theorem Tally.meet_of_sound (t : Tally) (h : malformed? s f = none) :
    t.meet s [f] = t.count s f.kind := by
  cases hk : f.kind <;> cases hp : s.probeResponses <;> simp [meet, count, h, hk, hp]

theorem Tally.meet_of_malformed (t : Tally) (h : malformed? s f = some (bssid, e)) :
    t.meet s [f] = { t.count s f.kind with malformed := t.malformed + 1 } := by
  cases hk : f.kind <;> cases hp : s.probeResponses <;> simp [meet, count, h, hk, hp]

theorem Tally.malformed_count (s : Settings) (t : Tally) (kind : FrameKind) :
    (t.count s kind).malformed = t.malformed := by
  cases kind with
  | beacon | other => rfl
  | probeResponse => rw [count]; split <;> rfl

theorem network?_eq_none_of_malformed (h : malformed? s f = some (bssid, e)) :
    network? s f = none := by
  obtain ⟨⟨-, -, hn⟩, hb⟩ := malformed?_eq_some_iff.mp h
  refine Option.eq_none_iff_forall_ne_some.mpr fun n hs => ?_
  have ho := (network?_eq_some_iff.mp hs).2
  rw [hn] at ho
  cases ho

/-- A frame that is not malformed is met the same way under all settings for malformed ones. -/
theorem readFrame_of_sound (index : Int) (t : Tally) (h : malformed? s f = none) :
    readFrame s index f t = .quiet (t.meet s [f]) (.ok (network? s f)) := by
  rw [Tally.meet_of_sound t h, readFrame, network?]
  rw [malformed?] at h
  cases hs : source? s f with
  | none => rfl
  | some p =>
    rw [hs, Option.bind_some] at h
    cases hn : Network.ofOctets (some p.1) p.2 .empty with
    | ok n => simp [hn, Except.toOption]
    | error e => simp [hn] at h

theorem readFrame_of_malformed (index : Int) (t : Tally) (h : malformed? s f = some (bssid, e)) :
    readFrame s index f t =
      if s.skipMalformed then ⟨t.meet s [f], [.skipped index bssid e], .ok none⟩
      else .quiet (t.meet s [f]) (.error e) := by
  rw [Tally.meet_of_malformed t h, readFrame]
  obtain ⟨⟨hk, ⟨b, hb, hne⟩, hn⟩, hb'⟩ := malformed?_eq_some_iff.mp h
  rw [hb'] at hb hn
  cases hb
  rw [source?_eq_some_iff.mpr ⟨hk, hb', hne, rfl⟩]
  simp [hn, Tally.malformed_count]

/-- A frame that does not end the survey tells what it has to tell. -/
theorem eq_network?_of_readFrame {index : Int} {t : Tally} {n : Option Network}
    (h : (readFrame s index f t).result = .ok n) : n = network? s f := by
  cases hm : malformed? s f with
  | none =>
    rw [readFrame_of_sound index t hm] at h
    cases h
    rfl
  | some p =>
    rw [readFrame_of_malformed index t hm] at h
    rw [network?_eq_none_of_malformed hm]
    split at h
    · cases h
      rfl
    · cases h

/-- Whatever becomes of a frame, it is counted. -/
theorem tally_readFrame (s : Settings) (index : Int) (f : Frame) (t : Tally) :
    (readFrame s index f t).tally = t.meet s [f] := by
  cases h : malformed? s f with
  | none => rw [readFrame_of_sound index t h]; rfl
  | some p =>
    rw [readFrame_of_malformed index t h]
    split <;> rfl

/-! ## A run of frames -/

namespace Outcome

variable {ε ε' α β : Type}

theorem quiet_andThen_ok (t : Tally) (a : α) (next : α → Tally → Outcome ε β) :
    (quiet t (.ok a)).andThen next = next a t := rfl

theorem quiet_andThen_error (t : Tally) (e : ε) (next : α → Tally → Outcome ε β) :
    (quiet t (.error e)).andThen next = quiet t (.error e) := rfl

@[simp] theorem notes_map (f : α → β) (o : Outcome ε α) : (o.map f).notes = o.notes := rfl

@[simp] theorem notes_mapFault (f : ε → ε') (o : Outcome ε α) : (o.mapFault f).notes = o.notes :=
  rfl

theorem notes_andThen_of_ok {o : Outcome ε α} {a : α} (h : o.result = .ok a)
    (next : α → Tally → Outcome ε β) :
    (o.andThen next).notes = o.notes ++ (next a o.tally).notes := by
  rw [andThen, h]

theorem tally_andThen_of_ok {o : Outcome ε α} {a : α} (h : o.result = .ok a)
    (next : α → Tally → Outcome ε β) : (o.andThen next).tally = (next a o.tally).tally := by
  rw [andThen, h]

theorem andThen_of_error {o : Outcome ε α} {e : ε} (h : o.result = .error e)
    (next : α → Tally → Outcome ε β) : o.andThen next = ⟨o.tally, o.notes, .error e⟩ := by
  rw [andThen, h]

theorem map_append_map {γ : Type} (o : Outcome ε (List γ)) (as bs : List γ) :
    (o.map (as ++ ·)).map (bs ++ ·) = o.map (bs ++ as ++ ·) := by
  cases o with
  | mk tally notes result => cases result <;> simp [map, Except.map]

theorem map_nil_append {γ : Type} (o : Outcome ε (List γ)) : o.map ([] ++ ·) = o := by
  cases o with
  | mk tally notes result => cases result <;> simp [map, Except.map]

end Outcome

theorem toList_append_filterMap_network? (f : Frame) (frames : List Frame) :
    (network? s f).toList ++ frames.filterMap (network? s) =
      (f :: frames).filterMap (network? s) := by
  cases h : network? s f <;> simp [h]

/-- Frames in front that are not malformed are read off whatever comes behind. -/
theorem readFrames_append_of_sound {before : List Frame} (h : ∀ f ∈ before, malformed? s f = none)
    (index : Int) (rest : List Frame) (t : Tally) :
    readFrames s index (before ++ rest) t =
      (readFrames s (index + before.length) rest (t.meet s before)).map
        (before.filterMap (network? s) ++ ·) := by
  -- The number of the next frame and the tally move on with each frame in front.
  induction before generalizing index t with
  | nil =>
    rw [List.nil_append, Tally.meet_nil, List.filterMap_nil, Outcome.map_nil_append]
    simp
  | cons f before ih =>
    have hf : malformed? s f = none := h f List.mem_cons_self
    have ht : (t.meet s [f]).meet s before = t.meet s (f :: before) :=
      (Tally.meet_append s t [f] before).symm
    have hi : index + 1 + (before.length : Int) = index + ((f :: before).length : Int) := by
      rw [List.length_cons]
      omega
    rw [List.cons_append, readFrames, readFrame_of_sound index t hf, Outcome.quiet_andThen_ok,
      ih (fun g hg => h g (List.mem_cons_of_mem f hg)), Outcome.map_append_map, ht, hi,
      toList_append_filterMap_network?]

theorem readFrames_of_sound {frames : List Frame} (h : ∀ f ∈ frames, malformed? s f = none)
    (index : Int) (t : Tally) :
    readFrames s index frames t =
      .quiet (t.meet s frames) (.ok (frames.filterMap (network? s))) := by
  have hr := readFrames_append_of_sound h index [] t
  rw [List.append_nil] at hr
  rw [hr, readFrames]
  simp [Outcome.map, Outcome.quiet, Except.map]

/-- A run stops at a malformed frame if the settings say so. -/
theorem readFrames_of_strict (hs : s.skipMalformed = false)
    (hf : malformed? s f = some (bssid, e)) (index : Int) (after : List Frame) (t : Tally) :
    readFrames s index (f :: after) t = .quiet (t.meet s [f]) (.error e) := by
  rw [readFrames, readFrame_of_malformed index t hf, if_neg (by simp [hs]),
    Outcome.quiet_andThen_error]

/-- Otherwise it goes on, with a note. -/
theorem notes_readFrames_of_lenient (hs : s.skipMalformed = true)
    (hf : malformed? s f = some (bssid, e)) (index : Int) (after : List Frame) (t : Tally) :
    (readFrames s index (f :: after) t).notes.head? = some (.skipped index bssid e) := by
  rw [readFrames, readFrame_of_malformed index t hf, if_pos hs, Outcome.notes_andThen_of_ok rfl]
  rfl

/-- The tally of a run counts the frames that were met: all of them, if the run went well. -/
theorem tally_readFrames (s : Settings) (index : Int) (frames : List Frame) (t : Tally) :
    ∃ met, met <+: frames ∧ (readFrames s index frames t).tally = t.meet s met ∧
      ∀ ns, (readFrames s index frames t).result = .ok ns →
        met = frames ∧ ns = frames.filterMap (network? s) := by
  induction frames generalizing index t with
  | nil =>
    refine ⟨[], List.prefix_rfl, rfl, ?_⟩
    intro ns h
    cases h
    exact ⟨rfl, rfl⟩
  | cons f frames ih =>
    have ht := tally_readFrame s index f t
    cases hr : (readFrame s index f t).result with
    | error e =>
      -- The frame that ends the run is the last one that was met.
      refine ⟨[f], ⟨frames, rfl⟩, ?_, ?_⟩
      · rw [readFrames, Outcome.andThen_of_error hr, ht]
      · intro ns h
        rw [readFrames, Outcome.andThen_of_error hr] at h
        cases h
    | ok n =>
      obtain ⟨met, hp, hm, hok⟩ := ih (index + 1) (t.meet s [f])
      refine ⟨f :: met, (List.prefix_cons_inj f).mpr hp, ?_, ?_⟩
      · rw [readFrames, Outcome.tally_andThen_of_ok hr, ht]
        exact hm.trans (Tally.meet_append s t [f] met).symm
      · intro ns h
        rw [readFrames, Outcome.result_andThen, hr, ht, Except.bind, Outcome.result_map] at h
        cases hns : (readFrames s (index + 1) frames (t.meet s [f])).result with
        | error e =>
          rw [hns] at h
          cases h
        | ok ms =>
          rw [hns] at h
          obtain ⟨rfl, rfl⟩ := hok ms hns
          cases h
          rw [eq_network?_of_readFrame hr]
          exact ⟨rfl, toList_append_filterMap_network? f met⟩

end Passpoint.Capture
