import Passpoint.Proofs.Survey

/-! Surveys of the networks with something to tell about roaming or hotspots. Such a survey leaves
frames out, not networks: it drops every frame that tells nothing of the kind and lists the rest. So
it lists whatever the survey of all networks shows with something to tell, but also a network whose
last frame told nothing any more, as an earlier frame described it. -/

namespace Passpoint.Capture

variable {s : Settings} {folder : Folder} {path : String} {t : Tally} {frames : List Frame}

/-- What frames tell is told by the networks that they describe. -/
theorem map_ok_of_forall₂ {β : Type} {fs : List Frame} {ns : List Network}
    (h : List.Forall₂ (fun f n => Network.ofOctets f.bssid f.elements .empty = .ok n) fs ns)
    (g : Network → β) :
    (ns.map g).map .ok = fs.map fun f => (Network.ofOctets f.bssid f.elements .empty).map g := by
  induction h with
  | nil => rfl
  | cons hn _ ih =>
    rw [List.map_cons, List.map_cons, List.map_cons, ih, hn]
    rfl

/-- **What a survey for roaming and hotspots lists, beside the survey of all networks.** Malformed
frames are passed over and all other settings agree. What the second survey shows with something to
tell is listed by the first, as it is. Whatever the first lists has something to tell, and the
second shows the same network: with the same description, unless the one it shows tells nothing. If
no network has frames of both kinds, then the first survey lists exactly those of the second that
have something to tell, in the same order. -/
theorem load_passpointOnly (hs : s.skipMalformed = true)
    (h : (loadFrames s folder path t).result = .ok frames) :
    ∃ described all only,
      List.Forall₂ (fun f n => Network.ofOctets f.bssid f.elements .empty = .ok n)
        (frames.filter (Describes s ·)) described ∧
      (load { s with passpointOnly := false } folder path t).result = .ok all ∧
      (load { s with passpointOnly := true } folder path t).result = .ok only ∧
      (∀ n ∈ all, n.isPasspoint = true → n ∈ only) ∧
      (∀ n ∈ only, n.isPasspoint = true ∧
        ∃ m ∈ all, m.key = n.key ∧ (m.isPasspoint = true → m = n)) ∧
      ((∀ m ∈ described, ∀ n ∈ described, m.key = n.key → m.isPasspoint = n.isPasspoint) →
        only = all.filter (·.isPasspoint)) := by
  let described := frames.filterMap (network? s)
  let all := (Network.Roster.ofList described).networks
  let only := (Network.Roster.ofList (described.filter (·.isPasspoint))).networks
  have hall : Network.Listing described all := Network.listing_ofList _
  have honly : Network.Listing (described.filter (·.isPasspoint)) only := Network.listing_ofList _
  have ha : (load { s with passpointOnly := false } folder path t).result = .ok all := by
    have hf : described.filter (isListed { s with passpointOnly := false }) = described :=
      List.filter_eq_self.mpr fun _ _ => rfl
    have hl : (load { s with passpointOnly := false } folder path t).result =
        .ok (listed { s with passpointOnly := false } described) := result_load hs h
    rw [hl, listed, hf]
  have ho : (load { s with passpointOnly := true } folder path t).result = .ok only :=
    result_load hs h
  refine ⟨described, all, only, forall₂_filterMap_network? _, ha, ho, ?_, ?_, ?_⟩
  · intro n hn hp
    exact hall.mem_part honly hn hp
  · intro n hn
    exact hall.exists_of_mem_part honly hn
  · intro hagree
    exact honly.unique (hall.filter hagree)

/-- One of the two networks has something to tell, in its one frame, and the survey for it shows no
other. -/
theorem load_passpointOnly_four :
    fourFrames.skipMalformed = true ∧
    (loadFrames fourFrames (({} : Folder).put "c.pcap" (.capture fiveFrames)) "c.pcap" {}).result =
      .ok (fiveFrames.take 4) ∧
    ∃ all only,
      (load { fourFrames with passpointOnly := false }
        (({} : Folder).put "c.pcap" (.capture fiveFrames)) "c.pcap" {}).result = .ok all ∧
      (load { fourFrames with passpointOnly := true }
        (({} : Folder).put "c.pcap" (.capture fiveFrames)) "c.pcap" {}).result = .ok only ∧
      (∀ n ∈ all, n.isPasspoint = true → n ∈ only) ∧
      (∀ n ∈ only, n.isPasspoint = true ∧
        ∃ m ∈ all, m.key = n.key ∧ (m.isPasspoint = true → m = n)) ∧
      only = all.filter (·.isPasspoint) ∧ all.map (·.ssid) = [some "a", some "b"] := by
  have hf : (loadFrames fourFrames (({} : Folder).put "c.pcap" (.capture fiveFrames)) "c.pcap"
      {}).result = .ok (fiveFrames.take 4) := by
    decide +kernel
  obtain ⟨described, all, only, hd, ha, ho, hin, hout, heq⟩ := load_passpointOnly rfl hf
  have hk : (described.map fun n => (n.key, n.isPasspoint)).map (Except.ok : _ → Except Network.Fault _) =
      [((some "a", 0x001122334455), false), ((some "b", 0x66778899AABB), true),
        ((some "a", 0x001122334455), false)].map .ok := by
    rw [map_ok_of_forall₂ hd]
    decide +kernel
  have hk := List.map_inj_right (fun _ _ => Except.ok.inj) |>.mp hk
  have hagree : ∀ k ∈ described.map fun n => (n.key, n.isPasspoint),
      ∀ l ∈ described.map fun n => (n.key, n.isPasspoint), k.1 = l.1 → k.2 = l.2 := by
    rw [hk]
    decide +kernel
  have hn : ((load { fourFrames with passpointOnly := false }
      (({} : Folder).put "c.pcap" (.capture fiveFrames)) "c.pcap" {}).result.map
        fun ns => ns.map (·.ssid)) = .ok [some "a", some "b"] := by
    decide +kernel
  rw [ha] at hn
  refine ⟨rfl, hf, all, only, ha, ho, hin, hout, heq ?_, Except.ok.inj hn⟩
  intro m hm n hn
  exact hagree _ (List.mem_map_of_mem hm) _ (List.mem_map_of_mem hn)

/-- A network that offers Internet access in its first frame and nothing in its last. -/
def withdrawnFrames : List Frame :=
  [⟨.beacon, some "00:11:22:33:44:55", [0, 1, 0x61, 107, 1, 3]⟩,
   ⟨.beacon, some "00:11:22:33:44:55", [0, 1, 0x61]⟩]

/-- It is not so that a survey for roaming and hotspots always shows the networks that have something
to tell in the survey of all: it shows a network as described by a frame that was replaced. -/
theorem load_passpointOnly_withdrawn :
    ¬ ∀ (s : Settings) (folder : Folder) (path : String) (t : Tally) (all : List Network),
      s.skipMalformed = true →
      (load { s with passpointOnly := false } folder path t).result = .ok all →
      (load { s with passpointOnly := true } folder path t).result =
        .ok (all.filter (·.isPasspoint)) := by
  intro h
  have hf : (loadFrames {} (({} : Folder).put "c.pcap" (.capture withdrawnFrames)) "c.pcap"
      {}).result = .ok withdrawnFrames := by
    decide +kernel
  have ha := result_load rfl hf
  have ho := h {} _ _ _ _ rfl ha
  have hne : ((load {} (({} : Folder).put "c.pcap" (.capture withdrawnFrames)) "c.pcap"
      {}).result.map fun ns => (ns.filter (·.isPasspoint)).length) ≠
      (load { passpointOnly := true } (({} : Folder).put "c.pcap" (.capture withdrawnFrames))
        "c.pcap" {}).result.map List.length := by
    decide +kernel
  rw [ha] at hne
  exact hne (congrArg (Except.map List.length) ho).symm

/-- A network whose first frame tells nothing comes first among all networks, but not among those
with something to tell. -/
example :
    let folder := ({} : Folder).put "c.pcap" (.capture
      [⟨.beacon, some "00:11:22:33:44:55", [0, 1, 0x61]⟩,
       ⟨.beacon, some "66:77:88:99:aa:bb", [0, 1, 0x62, 107, 1, 3]⟩,
       ⟨.beacon, some "00:11:22:33:44:55", [0, 1, 0x61, 107, 1, 3]⟩])
    ((load {} folder "c.pcap" {}).result.map fun ns =>
      (ns.filter (·.isPasspoint)).map (·.ssid)) = .ok [some "a", some "b"] ∧
    ((load { passpointOnly := true } folder "c.pcap" {}).result.map fun ns =>
      ns.map (·.ssid)) = .ok [some "b", some "a"] := by
  decide +kernel

end Passpoint.Capture
