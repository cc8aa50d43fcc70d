import Mathlib.Algebra.BigOperators.Group.List.Basic
import Mathlib.Data.List.FinRange
import Mathlib.Data.List.Sort
import Mathlib.Logic.Equiv.Defs
import Passpoint.Proofs.Description
import Passpoint.Proofs.LastRecord

/-! The order of records. Records of different tags may change places: as long as those of one tag
keep their order, the buffer is accepted as before and tells the same. What a field holds depends on
the records of one tag only, and a counter does not depend on any order. -/

namespace Passpoint

/-! ## Rearrangements -/

/-- `ss` has the records of `rs` at other places, and of two records with one tag the same one
comes first. -/
structure Rearrangement (rs ss : List Record) where
  /-- Where the record at a place of `ss` stands in `rs`. -/
  place : Fin ss.length ≃ Fin rs.length
  record : ∀ i, ss[i] = rs[place i]
  stable : ∀ i j, i < j → ss[i].tag = ss[j].tag → place i < place j

namespace Rearrangement

variable {rs ss : List Record}

theorem map_place (h : Rearrangement rs ss) :
    (List.finRange ss.length).map (fun i => rs[h.place i]) = ss := by
  conv_rhs => rw [← List.map_getElem_finRange ss]
  exact List.map_congr_left fun i _ => (h.record i).symm

theorem perm (h : Rearrangement rs ss) : ss.Perm rs := by
  have hp : ((List.finRange ss.length).map h.place).Perm (List.finRange rs.length) := by
    rw [List.perm_ext_iff_of_nodup ((List.nodup_finRange _).map h.place.injective)
      (List.nodup_finRange _)]
    intro j
    simpa using h.place.surjective j
  have hm := hp.map fun j => rs[j]
  rw [List.map_map] at hm
  rw [← h.map_place]
  conv_rhs => rw [← List.map_getElem_finRange rs]
  exact hm

/-- The places of the records with a tag. -/
def places (rs : List Record) (tag : UInt8) : List (Fin rs.length) :=
  (List.finRange rs.length).filter fun i => rs[i].tag = tag

theorem filter_eq_map_places (rs : List Record) (tag : UInt8) :
    rs.filter (·.tag = tag) = (places rs tag).map fun i => rs[i] := by
  conv_lhs => rw [← List.map_getElem_finRange rs]
  rw [List.filter_map]
  rfl

/-- The places of a tag go to the places of the tag, in their order. -/
theorem map_places (h : Rearrangement rs ss) (tag : UInt8) :
    (places ss tag).map h.place = places rs tag := by
  have hs : ((places ss tag).map h.place).Pairwise (· < ·) := by
    rw [List.pairwise_map]
    have hp : (places ss tag).Pairwise (· < ·) := (List.pairwise_lt_finRange _).filter _
    refine hp.imp_of_mem fun {i j} hi hj hij => h.stable i j hij ?_
    have hi : ss[i].tag = tag := by simpa using List.of_mem_filter hi
    have hj : ss[j].tag = tag := by simpa using List.of_mem_filter hj
    rw [hi, hj]
  have hr : (places rs tag).Pairwise (· < ·) := (List.pairwise_lt_finRange _).filter _
  refine hs.eq_of_mem_iff hr fun j => ?_
  simp only [places, List.mem_map, List.mem_filter, List.mem_finRange, true_and, decide_eq_true_eq]
  constructor
  · rintro ⟨i, hi, rfl⟩
    rw [← h.record]
    exact hi
  · intro hj
    obtain ⟨i, rfl⟩ := h.place.surjective j
    rw [← h.record] at hj
    exact ⟨i, hj, rfl⟩

/-- The records with a tag come in the same order. -/
theorem filter_eq (h : Rearrangement rs ss) (tag : UInt8) :
    ss.filter (·.tag = tag) = rs.filter (·.tag = tag) := by
  rw [filter_eq_map_places, filter_eq_map_places, ← h.map_places, List.map_map]
  exact List.map_congr_left fun i _ => h.record i

end Rearrangement

namespace Element

/-! ## Fields -/

/-- The last record of the kind has been decoded to what the field holds. -/
theorem LastDecides.getLast? {α : Type} {p : Record → Prop} [DecidablePred p]
    {gives : Octets → α → Prop} {rs : List Record} {field : Option α}
    (h : LastDecides p gives rs field) :
    Option.Rel (fun r a => gives r.body a) (rs.filter (p ·)).getLast? field := by
  cases field with
  | none =>
    have hn : rs.filter (p ·) = [] := by simpa using h.absent.mp rfl
    rw [hn]
    exact .none
  | some a =>
    obtain ⟨before, r, after, rfl, hr, hn, ha⟩ := h.given a rfl
    have hf : after.filter (p ·) = [] := by simpa using hn
    rw [List.filter_append, List.filter_cons_of_pos (by simpa using hr), hf,
      List.getLast?_concat]
    exact .some ha

/-- A field whose kind is one tag, and which a body decides, does not see other tags. -/
theorem Field.get_eq_of_filter_eq {α : Type} (F : Field α) {tag : UInt8} {rs ss : List Record}
    {s t : Findings} (hl : ∀ r, F.listens r → r.tag = tag)
    (hg : ∀ body a b, F.gives body a → F.gives body b → a = b)
    (h : ss.filter (·.tag = tag) = rs.filter (·.tag = tag)) (hs : Reads rs s) (ht : Reads ss t) :
    F.get t = F.get s := by
  classical
  have hk (xs : List Record) :
      xs.filter (F.listens ·) = (xs.filter (·.tag = tag)).filter (F.listens ·) := by
    rw [List.filter_filter]
    refine List.filter_congr fun r _ => ?_
    by_cases hr : F.listens r <;> simp [hr, hl r]
  have hr := (F.lastDecides hs).getLast?
  have hr' := (F.lastDecides ht).getLast?
  rw [hk, h, ← hk] at hr'
  generalize F.get s = a at *
  generalize F.get t = b at *
  generalize (rs.filter (F.listens ·)).getLast? = last at *
  cases hr with
  | none => cases hr'; rfl
  | some ha =>
    cases hr' with
    | some hb => rw [hg _ _ _ hb ha]

/-! ## The scan of both -/

theorem Counts.eq_of_perm {rs ss : List Record} {s t : Findings} (h : ss.Perm rs)
    (hs : Counts rs s) (ht : Counts ss t) :
    t.seen = s.seen ∧ t.skipped = s.skipped ∧ t.consumed = s.consumed := by
  refine ⟨?_, ?_, ?_⟩
  · rw [ht.seen, hs.seen, h.length_eq]
  · rw [ht.skipped, hs.skipped, h.countP_eq]
  · rw [ht.consumed, hs.consumed, Record.length_encodeAll, Record.length_encodeAll]
    exact (h.map Record.size).sum_eq

/-- Findings do not depend on the order of records with different tags. -/
theorem Reads.eq_of_rearrangement {rs ss : List Record} {s t : Findings}
    (h : Rearrangement rs ss) (hs : Reads rs s) (ht : Reads ss t) : t = s := by
  have hn := nameField.get_eq_of_filter_eq (fun _ h => h)
    (fun _ _ _ ha hb => ha.trans hb.symm) (h.filter_eq 0) hs ht
  have hl := bssLoadField.get_eq_of_filter_eq (fun _ h => h)
    (fun _ _ _ ha hb => Except.ok.inj (ha.symm.trans hb)) (h.filter_eq 11) hs ht
  have hi := interworkingField.get_eq_of_filter_eq (fun _ h => h.1)
    (fun _ _ _ ha hb => Option.some.inj (ha.symm.trans hb)) (h.filter_eq 107) hs ht
  have hr := roamingConsortiumField.get_eq_of_filter_eq (fun _ h => h)
    (fun _ _ _ ha hb => Except.ok.inj (ha.symm.trans hb)) (h.filter_eq 111) hs ht
  have hv := indicationField.get_eq_of_filter_eq (fun _ h => h.1)
    (fun _ _ _ ha hb => Option.some.inj (ha.symm.trans hb)) (h.filter_eq 221) hs ht
  have hc := capabilitiesField.get_eq_of_filter_eq (fun _ h => h)
    (fun _ _ _ ha hb => ha.trans hb.symm) (h.filter_eq 127) hs ht
  obtain ⟨he, hk, ho⟩ := hs.counts.eq_of_perm h.perm ht.counts
  cases s
  cases t
  rw [Findings.mk.injEq]
  exact ⟨hn, hl, hi, hr, hv, hc, he, hk, ho⟩

/-- **Records of different tags may change places.** However the records of an accepted buffer are
rearranged, as long as those of one tag keep their order, the buffer is accepted and the scan comes
to the same, fields and counters. An address and answers to queries then describe the same network
with both, or are refused alike; twelve digits describe one. -/
theorem scan_of_rearrangement {data : Octets} {s : Findings} (h : scan data = .ok s) :
    ∃ rs, data = Record.encodeAll rs ∧ ∀ ss, Rearrangement rs ss →
      scan (Record.encodeAll ss) = .ok s ∧
      (∀ bssid answers, Network.ofOctets bssid (Record.encodeAll ss) answers =
        Network.ofOctets bssid data answers) ∧
      ∀ bssid answers, HasTwelveDigits bssid →
        ∃ n, Network.ofOctets (some bssid) (Record.encodeAll ss) answers = .ok n := by
  obtain ⟨rs, rfl, hr⟩ := scan_eq_ok_iff.mp h
  refine ⟨rs, rfl, fun ss hs => ?_⟩
  obtain ⟨t, ht⟩ : ∃ t, Reads ss t := by
    have hw := exists_reads_iff.mp ⟨s, hr⟩
    exact exists_reads_iff.mpr fun r hm => hw r (hs.perm.mem_iff.mp hm)
  rw [hr.eq_of_rearrangement hs ht] at ht
  have hscan : scan (Record.encodeAll ss) = .ok s := scan_eq_ok_iff.mpr ⟨ss, rfl, ht⟩
  refine ⟨hscan, fun bssid answers => ?_, fun bssid answers hb => ?_⟩
  · rw [Network.ofOctets, Network.ofOctets, hscan, h]
  · exact ⟨_, Network.ofOctets_of_hasTwelveDigits hb hscan⟩

/-- Two names with capabilities between them, which may as well stand in front. -/
theorem scan_of_rearrangement_capabilities :
    scan [0, 1, 0x61, 127, 7, 0, 0, 0, 0, 0, 0, 1, 0, 2, 0xC3, 0xA9] =
      .ok { name := some [0xC3, 0xA9], capabilities := some 0x1000000000000, seen := 3,
            consumed := 16 } ∧
    scan [127, 7, 0, 0, 0, 0, 0, 0, 1, 0, 1, 0x61, 0, 2, 0xC3, 0xA9] =
      .ok { name := some [0xC3, 0xA9], capabilities := some 0x1000000000000, seen := 3,
            consumed := 16 } ∧
    Network.ofOctets (some "00-11-22 33:44:5f")
        [127, 7, 0, 0, 0, 0, 0, 0, 1, 0, 1, 0x61, 0, 2, 0xC3, 0xA9] .empty =
      Network.ofOctets (some "00-11-22 33:44:5f")
        [0, 1, 0x61, 127, 7, 0, 0, 0, 0, 0, 0, 1, 0, 2, 0xC3, 0xA9] .empty := by
  have h : scan [0, 1, 0x61, 127, 7, 0, 0, 0, 0, 0, 0, 1, 0, 2, 0xC3, 0xA9] =
      .ok { name := some [0xC3, 0xA9], capabilities := some 0x1000000000000, seen := 3,
            consumed := 16 } := by
    decide +kernel
  obtain ⟨rs, hd, hr⟩ := scan_of_rearrangement h
  let a : Record := ⟨0, [0x61], by decide⟩
  let b : Record := ⟨127, [0, 0, 0, 0, 0, 0, 1], by decide⟩
  let c : Record := ⟨0, [0xC3, 0xA9], by decide⟩
  have hrs : rs = [a, b, c] := Record.encodeAll_injective hd.symm
  subst hrs
  have hp : Rearrangement [a, b, c] [b, a, c] :=
    ⟨Equiv.swap (0 : Fin 3) 1, by decide, by decide⟩
  obtain ⟨hs, hn, -⟩ := hr _ hp
  exact ⟨h, hs, hn _ _⟩

end Element

end Passpoint
