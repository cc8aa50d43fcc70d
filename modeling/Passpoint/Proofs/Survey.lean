import Mathlib.Data.List.Forall2
import Passpoint.Capture.Survey
import Passpoint.Proofs.Description
import Passpoint.Proofs.Listing

/-! What a survey that passes over malformed frames lists. Each frame tells a network or nothing;
the survey goes on in either case, and lists the networks that the settings let be listed: each
once, in the order in which they first came, as its last frame described it. -/

namespace Passpoint.Capture

/-! ## Outcomes -/

namespace Outcome

variable {ε ε' α β : Type}

@[simp] theorem result_quiet (t : Tally) (result : Except ε α) : (quiet t result).result = result :=
  rfl

@[simp] theorem result_map (f : α → β) (o : Outcome ε α) :
    (o.map f).result = o.result.map f := rfl

@[simp] theorem result_mapFault (f : ε → ε') (o : Outcome ε α) :
    (o.mapFault f).result = o.result.mapError f := rfl

theorem result_andThen (o : Outcome ε α) (next : α → Tally → Outcome ε β) :
    (o.andThen next).result = o.result.bind fun a => (next a o.tally).result := by
  rw [andThen]
  cases o.result <;> rfl

end Outcome

/-! ## Frames -/

/-- A buffer is accepted. -/
def IsAccepted (data : Octets) : Prop := ∃ found, Element.scan data = .ok found

instance (data : Octets) : Decidable (IsAccepted data) :=
  match h : Element.scan data with
  | .ok found => .isTrue ⟨found, h⟩
  | .error _ => .isFalse (by
      rintro ⟨_, ho⟩
      rw [h] at ho
      cases ho)

/-- A frame describes a network: it is a beacon, or a probe response if these count; its address has
twelve hexadecimal digits; and its elements are accepted. -/
def Describes (s : Settings) (f : Frame) : Prop :=
  (f.kind = .beacon ∨ f.kind = .probeResponse ∧ s.probeResponses = true) ∧
    (∃ bssid ∈ f.bssid, HasTwelveDigits bssid) ∧ IsAccepted f.elements

instance (s : Settings) (f : Frame) : Decidable (Describes s f) :=
  inferInstanceAs (Decidable (_ ∧ _ ∧ _))

variable {s : Settings} {f : Frame}

theorem FrameKind.counts_iff {kind : FrameKind} :
    kind.counts s = true ↔ kind = .beacon ∨ kind = .probeResponse ∧ s.probeResponses = true := by
  cases kind <;> simp [counts]

theorem source?_eq_some_iff {bssid : String} {data : Octets} :
    source? s f = some (bssid, data) ↔
      f.kind.counts s = true ∧ f.bssid = some bssid ∧ bssid ≠ "" ∧ f.elements = data := by
  rw [source?]
  split <;> rename_i h
  · simp [h, Option.filter_eq_some_iff]
    tauto
  · simp [h]

theorem toOption_eq_some_iff {ε α : Type} {result : Except ε α} {a : α} :
    result.toOption = some a ↔ result = .ok a := by
  cases result <;> simp [Except.toOption]

/-- The network that a frame tells. -/
def network? (s : Settings) (f : Frame) : Option Network :=
  (source? s f).bind fun p => (Network.ofOctets (some p.1) p.2 .empty).toOption

/-- A frame tells a network exactly if it describes one, and then the one that its address and its
elements make. -/
theorem network?_eq_some_iff {n : Network} :
    network? s f = some n ↔
      Describes s f ∧ Network.ofOctets f.bssid f.elements .empty = .ok n := by
  rw [network?, Option.bind_eq_some_iff]
  constructor
  · rintro ⟨⟨bssid, data⟩, hs, hn⟩
    obtain ⟨hk, hb, -, rfl⟩ := source?_eq_some_iff.mp hs
    have hn : Network.ofOctets (some bssid) f.elements .empty = .ok n :=
      toOption_eq_some_iff.mp hn
    obtain ⟨hd, ha⟩ := Network.exists_ofOctets_iff.mp ⟨n, hn⟩
    exact ⟨⟨FrameKind.counts_iff.mp hk, ⟨bssid, hb, hd⟩, ha⟩, hb ▸ hn⟩
  · rintro ⟨⟨hk, ⟨bssid, hb, hd⟩, ha⟩, hn⟩
    have he : bssid ≠ "" := by
      rintro rfl
      revert hd
      decide
    refine ⟨(bssid, f.elements), ?_, ?_⟩
    · exact source?_eq_some_iff.mpr ⟨FrameKind.counts_iff.mpr hk, hb, he, rfl⟩
    · rw [← Option.mem_def.mp hb, hn]
      rfl

theorem exists_network_of_describes (h : Describes s f) :
    ∃ n, Network.ofOctets f.bssid f.elements .empty = .ok n := by
  obtain ⟨-, ⟨bssid, hb, hd⟩, ha⟩ := h
  rw [Option.mem_def.mp hb]
  exact Network.exists_ofOctets_iff.mpr ⟨hd, ha⟩

/-- If malformed frames are passed over, no frame ends a survey. -/
theorem result_readFrame (hs : s.skipMalformed = true) (index : Int) (f : Frame) (t : Tally) :
    (readFrame s index f t).result = .ok (network? s f) := by
  rw [readFrame, network?]
  cases source? s f with
  | none => rfl
  | some p =>
    obtain ⟨bssid, data⟩ := p
    rw [Option.bind_some]
    cases hn : Network.ofOctets (some bssid) data .empty with
    | ok n => simp [hn, Except.toOption]
    | error e => simp [hn, hs, Except.toOption]

theorem result_readFrames (hs : s.skipMalformed = true) (index : Int) (frames : List Frame)
    (t : Tally) : (readFrames s index frames t).result = .ok (frames.filterMap (network? s)) := by
  induction frames generalizing index t with
  | nil => rfl
  | cons f frames ih =>
    rw [readFrames, Outcome.result_andThen, result_readFrame hs, Except.bind, Outcome.result_map,
      ih, Except.map]
    cases hn : network? s f <;> simp [hn]

/-- Each frame that describes a network tells it, in the order of the frames. -/
theorem forall₂_filterMap_network? (frames : List Frame) :
    List.Forall₂ (fun f n => Network.ofOctets f.bssid f.elements .empty = .ok n)
      (frames.filter (Describes s ·)) (frames.filterMap (network? s)) := by
  induction frames with
  | nil => exact .nil
  | cons f frames ih =>
    by_cases hd : Describes s f
    · obtain ⟨n, hn⟩ := exists_network_of_describes hd
      rw [List.filter_cons_of_pos (by simpa using hd),
        List.filterMap_cons_some (network?_eq_some_iff.mpr ⟨hd, hn⟩)]
      exact .cons hn ih
    · have hn : network? s f = none :=
        Option.eq_none_iff_forall_ne_some.mpr fun n h => hd (network?_eq_some_iff.mp h).1
      rw [List.filter_cons_of_neg (by simpa using hd), List.filterMap_cons_none hn]
      exact ih

/-! ## Captures -/

/-- The frames that are read: as many of a capture as the settings let. -/
def firstFrames (s : Settings) (frames : List Frame) : List Frame :=
  s.maxPackets.elim frames fun n => frames.take n

theorem eq_firstFrames_of_admitted {r : Reading Frame} {frames : List Frame}
    (h : admitted s r = .ok frames) : frames = firstFrames s r.packets := by
  rw [firstFrames]
  rw [admitted] at h
  cases hm : s.maxPackets with
  | none =>
    cases hf : r.fault with
    | none => simp only [hm, hf] at h; cases h; rfl
    | some f => simp only [hm, hf] at h; cases h
  | some n =>
    rw [Option.elim_some]
    by_cases hn : n ≤ r.packets.length
    · simp only [hm, if_pos hn] at h
      cases h
      rfl
    · -- The limit is not reached, so that all frames are read.
      cases hf : r.fault with
      | none =>
        simp only [hm, hf, if_neg hn] at h
        cases h
        exact (List.take_of_length_le (Nat.le_of_not_le hn)).symm
      | some f => simp only [hm, hf, if_neg hn] at h; cases h

section

variable {folder : Folder} {path : String}

theorem loadFrames_of_missing {fault : Fault} (h : itemAt folder path = .error fault) (t : Tally) :
    loadFrames s folder path t = .quiet t (.error fault) := by
  rw [loadFrames, h]

theorem loadFrames_of_unreadable {item : Item} {why : String}
    (hi : itemAt folder path = .ok item) (hf : framesIn path item >>= admitted s = .error why)
    (t : Tally) :
    loadFrames s folder path t =
      let message := s!"Scapy parsing error: {why}"
      ⟨{ t with errors := t.errors ++ [message] }, [.unreadable message],
        .error (.unreadable message)⟩ := by
  rw [loadFrames, hi]
  simp only [hf]

theorem loadFrames_of_readable {item : Item} {frames : List Frame}
    (hi : itemAt folder path = .ok item) (hf : framesIn path item >>= admitted s = .ok frames)
    (t : Tally) :
    loadFrames s folder path t =
      .quiet { t with files := t.files + 1, packets := t.packets + frames.length }
        (.ok frames) := by
  rw [loadFrames, hi]
  simp only [hf]

theorem loadFrames_eq_of_ok {t : Tally} {frames : List Frame}
    (h : (loadFrames s folder path t).result = .ok frames) :
    loadFrames s folder path t =
      .quiet { t with files := t.files + 1, packets := t.packets + frames.length }
        (.ok frames) := by
  cases hi : itemAt folder path with
  | error fault =>
    rw [loadFrames_of_missing hi] at h
    cases h
  | ok item =>
    cases hf : framesIn path item >>= admitted s with
    | error why =>
      rw [loadFrames_of_unreadable hi hf] at h
      cases h
    | ok frames' =>
      rw [loadFrames_of_readable hi hf] at h ⊢
      cases h
      rfl

end

/-- What was loaded is what stands at the path, up to the limit. -/
theorem exists_item_of_loadFrames {folder : Folder} {path : String} {t : Tally}
    {frames : List Frame} (h : (loadFrames s folder path t).result = .ok frames) :
    ∃ item r, itemAt folder path = .ok item ∧ framesIn path item = .ok r ∧
      frames = firstFrames s r.packets := by
  rw [loadFrames] at h
  cases hi : itemAt folder path with
  | error f => rw [hi] at h; cases h
  | ok item =>
    cases hr : framesIn path item with
    | error why => simp only [hi, hr] at h; cases h
    | ok r =>
      cases ha : admitted s r with
      | error why => simp only [hi, hr, ha, bind, Except.bind] at h; cases h
      | ok frames' =>
        simp only [hi, hr, ha, bind, Except.bind] at h
        cases h
        exact ⟨item, r, rfl, hr, eq_firstFrames_of_admitted ha⟩

theorem result_load {folder : Folder} {path : String} {t : Tally} {frames : List Frame}
    (hs : s.skipMalformed = true) (h : (loadFrames s folder path t).result = .ok frames) :
    (load s folder path t).result = .ok (listed s (frames.filterMap (network? s))) := by
  rw [load, Outcome.result_andThen, h, Except.bind, Outcome.result_mapFault, survey,
    Outcome.result_andThen, result_readFrames hs]
  rfl

/-- **A survey lists each network once, as it was described last.** Malformed frames are passed
over. Once the frames at the path could be loaded, which are as many of the capture as the settings
let, the survey goes well, whatever was read before. The frames that describe a network do so one
after another; of these networks, all or those with something to tell about roaming or hotspots, the
survey lists each name and address once, in the order in which they first came, with everything that
the last of its frames told. -/
theorem load_lists_last_descriptions {folder : Folder} {path : String} {t : Tally}
    {frames : List Frame} (hs : s.skipMalformed = true)
    (h : (loadFrames s folder path t).result = .ok frames) :
    ∃ item r, itemAt folder path = .ok item ∧ framesIn path item = .ok r ∧
      frames = firstFrames s r.packets ∧
      ∃ described ns,
        List.Forall₂ (fun f n => Network.ofOctets f.bssid f.elements .empty = .ok n)
          (frames.filter (Describes s ·)) described ∧
        (load s folder path t).result = .ok ns ∧
        Network.Listing (described.filter fun n => s.passpointOnly → n.isPasspoint) ns := by
  obtain ⟨item, r, hi, hr, hf⟩ := exists_item_of_loadFrames h
  refine ⟨item, r, hi, hr, hf, _, _, forall₂_filterMap_network? _, result_load hs h, ?_⟩
  have hl : isListed s = fun n => decide (s.passpointOnly → n.isPasspoint) := by
    funext n
    cases hp : s.passpointOnly <;> simp [isListed, hp]
  rw [listed, hl]
  exact Network.listing_ofList _

/-- Two networks, one of them twice with a malformed frame between, and one frame too many. -/
def fiveFrames : List Frame :=
  [⟨.beacon, some "00:11:22:33:44:55", [0, 1, 0x61, 11, 5, 1, 0, 0, 0, 0]⟩,
   ⟨.probeResponse, some "66:77:88:99:aa:bb", [0, 1, 0x62, 107, 1, 3]⟩,
   ⟨.beacon, some "cc:cc:cc:cc:cc:cc", [0, 1, 0x63, 11, 1, 0]⟩,
   ⟨.beacon, some "00:11:22:33:44:55", [0, 1, 0x61, 11, 5, 2, 0, 0, 0, 0]⟩,
   ⟨.beacon, some "dd:dd:dd:dd:dd:dd", [0, 1, 0x64]⟩]

/-- The settings that let four frames be read. -/
def fourFrames : Settings := { maxPackets := some 4 }

/-- The first network stays in front and is shown as its second frame described it. -/
theorem load_lists_last_descriptions_four :
    fourFrames.skipMalformed = true ∧
    (loadFrames fourFrames (({} : Folder).put "c.pcap" (.capture fiveFrames)) "c.pcap" {}).result =
      .ok (fiveFrames.take 4) ∧
    ∃ described ns,
      List.Forall₂ (fun f n => Network.ofOctets f.bssid f.elements .empty = .ok n)
        ((fiveFrames.take 4).filter (Describes fourFrames ·)) described ∧
      (load fourFrames (({} : Folder).put "c.pcap" (.capture fiveFrames)) "c.pcap" {}).result =
        .ok ns ∧
      Network.Listing (described.filter fun n => fourFrames.passpointOnly → n.isPasspoint) ns ∧
      ns.map (fun n => (n.ssid, n.stations)) = [(some "a", 2), (some "b", 0)] := by
  have hf : (loadFrames fourFrames (({} : Folder).put "c.pcap" (.capture fiveFrames)) "c.pcap"
      {}).result = .ok (fiveFrames.take 4) := by
    decide +kernel
  obtain ⟨-, -, -, -, -, described, ns, hd, hl, hlist⟩ := load_lists_last_descriptions rfl hf
  have hn : ((load fourFrames (({} : Folder).put "c.pcap" (.capture fiveFrames)) "c.pcap"
      {}).result.map fun ns => ns.map fun n => (n.ssid, n.stations)) =
      .ok [(some "a", 2), (some "b", 0)] := by
    decide +kernel
  rw [hl] at hn
  exact ⟨rfl, hf, described, ns, hd, hl, hlist, Except.ok.inj hn⟩

end Passpoint.Capture
