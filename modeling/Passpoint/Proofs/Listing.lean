import Mathlib.Data.List.Induction
import Mathlib.Data.List.Perm.Subperm
import Passpoint.Network.Roster

/-! Rosters as lists. A roster that networks were put into, one after another, has each name and
address once, in the order in which they first came, and for each of them the description that came
last. A list with these two properties is determined by the networks. -/

namespace Passpoint

/-! ## First and last of their kind -/

section Lists

variable {α : Type}

theorem findRev?_concat (p : α → Bool) (l : List α) (a : α) :
    (l ++ [a]).findRev? p = if p a then some a else l.findRev? p := by
  rw [List.findRev?_eq_find?_reverse, List.reverse_append, List.reverse_singleton,
    List.singleton_append, List.find?_cons, List.findRev?_eq_find?_reverse]
  cases p a <;> rfl

theorem mem_of_findRev?_eq_some {p : α → Bool} {l : List α} {a : α}
    (h : l.findRev? p = some a) : a ∈ l := by
  rw [List.findRev?_eq_find?_reverse] at h
  exact List.mem_reverse.mp (List.mem_of_find?_eq_some h)

theorem findRev?_eq_some_iff_append {p : α → Bool} {l : List α} {a : α} :
    l.findRev? p = some a ↔
      p a = true ∧ ∃ before after, l = before ++ a :: after ∧ ∀ b ∈ after, p b = false := by
  rw [List.findRev?_eq_find?_reverse, List.find?_eq_some_iff_append]
  refine and_congr_right fun _ => ⟨?_, ?_⟩
  · rintro ⟨as, bs, hl, has⟩
    refine ⟨bs.reverse, as.reverse, ?_, fun b hb => by simpa using has b (List.mem_reverse.mp hb)⟩
    rw [← List.reverse_inj, hl]
    simp
  · rintro ⟨before, after, rfl, hafter⟩
    refine ⟨after.reverse, before.reverse, by simp, fun b hb => ?_⟩
    simpa using hafter b (List.mem_reverse.mp hb)

/-- The last of its kind is still the last among those it is left with. -/
theorem findRev?_filter_eq_some {p q : α → Bool} {l : List α} {a : α}
    (h : l.findRev? q = some a) (ha : p a = true) : (l.filter p).findRev? q = some a := by
  induction l using List.reverseRecOn with
  | nil => exact h
  | append_singleton l b ih =>
    rw [findRev?_concat] at h
    rw [List.filter_append]
    by_cases hq : q b = true
    · rw [if_pos hq] at h
      cases h
      rw [List.filter_cons_of_pos ha, List.filter_nil, findRev?_concat, if_pos hq]
    · rw [if_neg hq] at h
      by_cases hb : p b = true
      · rw [List.filter_cons_of_pos hb, List.filter_nil, findRev?_concat, if_neg hq, ih h]
      · rw [List.filter_cons_of_neg hb, List.filter_nil, List.append_nil, ih h]

variable [BEq α] [LawfulBEq α]

/-- An element at the end is dropped if it was there before. -/
theorem eraseDups_concat (l : List α) (a : α) [Decidable (a ∈ l)] :
    (l ++ [a]).eraseDups = if a ∈ l then l.eraseDups else l.eraseDups ++ [a] := by
  rw [List.eraseDups_append]
  split <;> rename_i h
  · simp [List.removeAll, h]
  · simp [List.removeAll, h, List.eraseDups_cons]

theorem nodup_eraseDups (l : List α) : l.eraseDups.Nodup := by
  classical
  induction l using List.reverseRecOn with
  | nil => exact List.nodup_nil
  | append_singleton l a ih =>
    rw [eraseDups_concat]
    split <;> rename_i h
    · exact ih
    · refine List.nodup_append.mpr ⟨ih, List.nodup_cons.mpr ⟨by simp, List.nodup_nil⟩, ?_⟩
      intro x hx y hy he
      rw [List.mem_singleton.mp hy] at he
      exact h (he ▸ List.mem_eraseDups.mp hx)

theorem eraseDups_filter (p : α → Bool) (l : List α) :
    (l.filter p).eraseDups = l.eraseDups.filter p := by
  classical
  induction l using List.reverseRecOn with
  | nil => rfl
  | append_singleton l a ih =>
    rw [List.filter_append, eraseDups_concat]
    by_cases ha : p a = true
    · rw [List.filter_cons_of_pos ha, List.filter_nil, eraseDups_concat]
      simp only [List.mem_filter, ha, and_true]
      split
      · exact ih
      · rw [List.filter_append, List.filter_cons_of_pos ha, List.filter_nil, ih]
    · rw [List.filter_cons_of_neg ha, List.filter_nil, List.append_nil]
      split
      · exact ih
      · rw [List.filter_append, List.filter_cons_of_neg ha, List.filter_nil, List.append_nil, ih]

end Lists

namespace Network

/-- What tells networks apart. -/
def key (n : Network) : Option String × Int := (n.ssid, n.bssid)

theorem sameAs_iff {a b : Network} : a.sameAs b = true ↔ a.key = b.key := by
  simp [sameAs, key]

/-! ## Entries -/

theorem map_key_putEntry (n : Network) (es : List Entry) :
    (putEntry n es).map (·.first.key) =
      if n.key ∈ es.map (·.first.key) then es.map (·.first.key)
      else es.map (·.first.key) ++ [n.key] := by
  induction es with
  | nil => rfl
  | cons e es ih =>
    by_cases he : e.first.key = n.key
    · rw [putEntry, if_pos (sameAs_iff.mpr he), if_pos (by simp [he])]
      rfl
    · have hm : n.key ∈ (e :: es).map (·.first.key) ↔ n.key ∈ es.map (·.first.key) := by
        rw [List.map_cons, List.mem_cons, or_iff_right (Ne.symm he)]
      rw [putEntry, if_neg (mt sameAs_iff.mp he), List.map_cons, ih]
      simp only [hm]
      split <;> rfl

/-- An entry after one more description is that of another network, as it was, or holds the
description. -/
theorem mem_putEntry {n : Network} {e : Entry} {es : List Entry}
    (hn : (es.map (·.first.key)).Nodup) (he : e ∈ putEntry n es) :
    (e ∈ es ∧ e.first.key ≠ n.key) ∨ (e.last = n ∧ e.first.key = n.key) := by
  induction es with
  | nil =>
    rw [putEntry, List.mem_singleton] at he
    subst he
    exact .inr ⟨rfl, rfl⟩
  | cons x es ih =>
    obtain ⟨hx, ht⟩ := List.nodup_cons.mp hn
    by_cases hk : x.first.key = n.key
    · rw [putEntry, if_pos (sameAs_iff.mpr hk)] at he
      rcases List.mem_cons.mp he with rfl | he
      · exact .inr ⟨rfl, hk⟩
      · refine .inl ⟨List.mem_cons_of_mem _ he, fun h => hx ?_⟩
        exact List.mem_map.mpr ⟨e, he, h.trans hk.symm⟩
    · rw [putEntry, if_neg (mt sameAs_iff.mp hk)] at he
      rcases List.mem_cons.mp he with rfl | he
      · exact .inl ⟨List.mem_cons_self, hk⟩
      · rcases ih ht he with ⟨hm, hne⟩ | h
        · exact .inl ⟨List.mem_cons_of_mem _ hm, hne⟩
        · exact .inr h

/-- What the entries hold after `ns` were put. -/
structure Holds (ns : List Network) (es : List Entry) : Prop where
  keys : es.map (·.first.key) = (ns.map key).eraseDups
  last : ∀ e ∈ es, ns.findRev? (·.key = e.first.key) = some e.last

theorem Holds.put {ns : List Network} {es : List Entry} (h : Holds ns es) (n : Network) :
    Holds (ns ++ [n]) (putEntry n es) where
  keys := by
    have hm : n.key ∈ es.map (·.first.key) ↔ n.key ∈ ns.map key := by
      rw [h.keys, List.mem_eraseDups]
    rw [map_key_putEntry, List.map_append, List.map_singleton, eraseDups_concat, h.keys]
    simp only [← h.keys, hm]
  last e he := by
    have hn : (es.map (·.first.key)).Nodup := h.keys ▸ nodup_eraseDups _
    rw [findRev?_concat]
    rcases mem_putEntry hn he with ⟨hm, hne⟩ | ⟨hl, hk⟩
    · rw [if_neg (by simpa using Ne.symm hne), h.last e hm]
    · rw [if_pos (by simpa using hk.symm), hl]

theorem holds_ofList (ns : List Network) : Holds ns (Roster.ofList ns).entries := by
  induction ns using List.reverseRecOn with
  | nil => exact ⟨rfl, by simp [Roster.ofList]⟩
  | append_singleton ns n ih =>
    have hp : (Roster.ofList (ns ++ [n])).entries = putEntry n (Roster.ofList ns).entries := by
      rw [Roster.ofList, List.foldl_append]
      rfl
    rw [hp]
    exact ih.put n

/-! ## Listings -/

/-- `Listing ns out`: `out` lists each network of `ns` once, in the order in which they first came,
with its last description. -/
structure Listing (ns out : List Network) : Prop where
  keys : out.map key = (ns.map key).eraseDups
  last : ∀ n ∈ out, ns.findRev? (·.key = n.key) = some n

theorem listing_ofList (ns : List Network) : Listing ns (Roster.ofList ns).networks := by
  obtain ⟨hk, hl⟩ := holds_ofList ns
  have hkey : ∀ e ∈ (Roster.ofList ns).entries, e.last.key = e.first.key := by
    intro e he
    have hf := hl e he
    rw [List.findRev?_eq_find?_reverse] at hf
    simpa using List.find?_some hf
  constructor
  · rw [← hk, Roster.networks, List.map_map]
    exact List.map_congr_left hkey
  · intro n hn
    obtain ⟨e, he, rfl⟩ := List.mem_map.mp hn
    rw [hkey e he]
    exact hl e he

/-- There is only one such list. -/
theorem Listing.unique {ns out out' : List Network} (h : Listing ns out) (h' : Listing ns out') :
    out = out' := by
  -- Both are got from the keys by looking for the last description.
  have hfind : ∀ {l : List Network}, Listing ns l →
      l.map some = ((ns.map key).eraseDups).map fun k => ns.findRev? (·.key = k) := by
    intro l hl
    rw [← hl.keys, List.map_map]
    exact List.map_congr_left fun n hn => (hl.last n hn).symm
  exact List.map_inj_right (fun _ _ => Option.some.inj) |>.mp ((hfind h).trans (hfind h').symm)

section

variable {ns out : List Network} {n : Network}

theorem Listing.exists_key_eq (h : Listing ns out) (hn : n ∈ ns) : ∃ m ∈ out, m.key = n.key := by
  have hk : n.key ∈ out.map key := by
    rw [h.keys, List.mem_eraseDups]
    exact List.mem_map_of_mem hn
  exact List.mem_map.mp hk

theorem Listing.mem_of_mem (h : Listing ns out) (hn : n ∈ out) : n ∈ ns :=
  mem_of_findRev?_eq_some (h.last n hn)

/-- What is listed are the last descriptions. -/
theorem Listing.mem_iff (h : Listing ns out) :
    n ∈ out ↔ ns.findRev? (·.key = n.key) = some n := by
  refine ⟨h.last n, fun hf => ?_⟩
  obtain ⟨m, hm, hk⟩ := h.exists_key_eq (mem_of_findRev?_eq_some hf)
  have hl := h.last m hm
  rw [hk, hf] at hl
  exact Option.some.inj hl ▸ hm

theorem Listing.length_le (h : Listing ns out) : out.length ≤ ns.length := by
  have hsub : (ns.map key).eraseDups ⊆ ns.map key := fun _ hk => List.mem_eraseDups.mp hk
  have hle := (List.subperm_of_subset (nodup_eraseDups (ns.map key)) hsub).length_le
  rwa [← h.keys, List.length_map, List.length_map] at hle

theorem Listing.eq_of_key_eq (h : Listing ns out) {m : Network} (hm : m ∈ out) (hn : n ∈ out)
    (hk : m.key = n.key) : m = n := by
  have hl := h.last m hm
  rw [hk, h.last n hn] at hl
  exact (Option.some.inj hl).symm

end

/-! ## Listings of a part -/

section

variable {ns out part : List Network} {p : Network → Bool} {n : Network}

/-- A description that is among the last of all is among the last of a part it belongs to. -/
theorem Listing.mem_part (h : Listing ns out) (hp : Listing (ns.filter p) part) (hn : n ∈ out)
    (hpn : p n = true) : n ∈ part :=
  hp.mem_iff.mpr (findRev?_filter_eq_some (h.last n hn) hpn)

/-- A network listed for a part is listed for all, with the same description or with a later one
that is outside of the part. -/
theorem Listing.exists_of_mem_part (h : Listing ns out) (hp : Listing (ns.filter p) part)
    (hn : n ∈ part) : p n = true ∧ ∃ m ∈ out, m.key = n.key ∧ (p m = true → m = n) := by
  obtain ⟨hns, hpn⟩ := List.mem_filter.mp (hp.mem_of_mem hn)
  obtain ⟨m, hm, hk⟩ := h.exists_key_eq hns
  exact ⟨hpn, m, hm, hk, fun hpm => hp.eq_of_key_eq (h.mem_part hp hm hpm) hn hk⟩

/-- If the descriptions of a network are all in the part or all outside of it, then the listing of
the part is that part of the listing. -/
theorem Listing.filter (h : Listing ns out)
    (hp : ∀ m ∈ ns, ∀ n ∈ ns, m.key = n.key → p m = p n) :
    Listing (ns.filter p) (out.filter p) := by
  -- Being in the part is then a matter of the key.
  let q : Option String × Int → Bool := fun k => ns.any fun n => n.key = k ∧ p n
  have hq : ∀ n ∈ ns, p n = q n.key := by
    intro n hn
    rw [Bool.eq_iff_iff, List.any_eq_true]
    constructor
    · intro hpn
      exact ⟨n, hn, by simpa using hpn⟩
    · rintro ⟨m, hm, hmn⟩
      obtain ⟨hk, hpm⟩ := of_decide_eq_true hmn
      rw [← hp m hm n hn hk, hpm]
  constructor
  · calc (out.filter p).map key
        = (out.map key).filter q := by
          rw [List.filter_map]
          exact congrArg _ (List.filter_congr fun n hn => hq n (h.mem_of_mem hn))
      _ = ((ns.map key).filter q).eraseDups := by rw [h.keys, eraseDups_filter]
      _ = ((ns.filter p).map key).eraseDups := by
          rw [List.filter_map]
          exact congrArg (fun l => (l.map key).eraseDups)
            (List.filter_congr fun n hn => (hq n hn).symm)
  · intro n hn
    obtain ⟨hn, hpn⟩ := List.mem_filter.mp hn
    exact findRev?_filter_eq_some (h.last n hn) hpn

end

end Network

end Passpoint
