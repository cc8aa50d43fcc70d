import Mathlib.Data.List.Nodup
import Passpoint.Anqp.Answers
import Passpoint.Proofs.Listing

/-! Answers as a mapping from kinds to answers, with an order. Two of them are the same if they have
the same kinds in one order and the same answer of each kind. Answers that come one after another
are collected: the kinds stand in the order in which they first came, and of each kind the last
answer counts. So what two runs of answers come to is the first updated by the second. -/

namespace Passpoint.Anqp.Answers

variable {as bs : Answers} {a b : Answer} {k : Kind}

def kinds (as : Answers) : List Kind := as.toList.map Answer.kind

/-- The answer of a kind. -/
def get? (as : Answers) (k : Kind) : Option Answer := as.toList.find? (·.kind = k)

theorem kind_of_get? (h : as.get? k = some a) : a.kind = k := by
  simpa using List.find?_some h

theorem get?_eq_none_iff : as.get? k = none ↔ k ∉ as.kinds := by
  simp [get?, kinds]

theorem get?_of_mem (h : a ∈ as.toList) : as.get? a.kind = some a := by
  obtain ⟨b, hb⟩ : ∃ b, as.get? a.kind = some b := by
    refine Option.ne_none_iff_exists'.mp fun hn => get?_eq_none_iff.mp hn ?_
    exact List.mem_map_of_mem h
  rw [hb, List.inj_on_of_nodup_map as.nodup (List.mem_of_find?_eq_some hb) h (kind_of_get? hb)]

/-- Kinds and answers make up all. -/
theorem eq_of_get? (hk : as.kinds = bs.kinds) (hg : ∀ k, as.get? k = bs.get? k) : as = bs := by
  have hmap : ∀ cs : Answers, cs.toList.map some = cs.kinds.map cs.get? := by
    intro cs
    rw [kinds, List.map_map]
    exact List.map_congr_left fun c hc => (get?_of_mem hc).symm
  have hl := hmap as
  rw [hk, funext hg, ← hmap bs] at hl
  obtain ⟨l, hn⟩ := as
  obtain ⟨l', hn'⟩ := bs
  cases List.map_inj_right (fun _ _ => Option.some.inj) |>.mp hl
  rfl

/-! ## One more answer -/

theorem toList_put (as : Answers) (a : Answer) : (as.put a).toList = putAnswer a as.toList := rfl

theorem kinds_put (as : Answers) (a : Answer) :
    (as.put a).kinds = if a.kind ∈ as.kinds then as.kinds else as.kinds ++ [a.kind] := by
  have hl : ∀ l : List Answer, (putAnswer a l).map Answer.kind =
      if a.kind ∈ l.map Answer.kind then l.map Answer.kind
      else l.map Answer.kind ++ [a.kind] := by
    intro l
    induction l with
    | nil => rfl
    | cons b l ih =>
      by_cases hb : b.kind = a.kind
      · simp [putAnswer, hb]
      · have hm : a.kind ∈ (b :: l).map Answer.kind ↔ a.kind ∈ l.map Answer.kind := by
          rw [List.map_cons, List.mem_cons, or_iff_right (Ne.symm hb)]
        rw [putAnswer, if_neg hb, List.map_cons, ih]
        simp only [hm]
        split <;> rfl
  exact hl as.toList

theorem get?_put (as : Answers) (a : Answer) (k : Kind) :
    (as.put a).get? k = if a.kind = k then some a else as.get? k := by
  have hl : ∀ l : List Answer, (putAnswer a l).find? (·.kind = k) =
      if a.kind = k then some a else l.find? (·.kind = k) := by
    intro l
    induction l with
    | nil => by_cases ha : a.kind = k <;> simp [putAnswer, ha]
    | cons b l ih =>
      by_cases hb : b.kind = a.kind
      · rw [putAnswer, if_pos hb]
        by_cases ha : a.kind = k <;> simp [hb, ha]
      · rw [putAnswer, if_neg hb]
        by_cases hk : b.kind = k
        · have ha : a.kind ≠ k := fun ha => hb (hk.trans ha.symm)
          simp [hk, ha]
        · simp [hk, ih]
  exact hl as.toList

/-! ## Updates -/

/-- What an answer becomes where others are given: theirs of that kind, if they have one. -/
def latest (bs : Answers) (a : Answer) : Answer := (bs.get? a.kind).getD a

theorem kind_latest (bs : Answers) (a : Answer) : (bs.latest a).kind = a.kind := by
  rw [latest]
  cases h : bs.get? a.kind with
  | none => rfl
  | some b => exact kind_of_get? h

theorem kinds_updated (as bs : Answers) :
    (as.toList.map bs.latest ++ bs.toList.filter (·.kind ∉ as.kinds)).map Answer.kind =
      as.kinds ++ bs.kinds.filter (· ∉ as.kinds) := by
  rw [List.map_append, List.map_map, kinds, kinds, List.filter_map]
  refine congrArg₂ _ (List.map_congr_left fun a _ => kind_latest bs a) rfl

/-- Answers updated by others: a kind that is there keeps its place and takes the answer of the
others, if they have one, and the kinds that are new follow in the order of the others. -/
def update (as bs : Answers) : Answers where
  toList := as.toList.map bs.latest ++ bs.toList.filter (·.kind ∉ as.kinds)
  nodup := by
    rw [kinds_updated]
    refine List.nodup_append.mpr ⟨as.nodup, bs.nodup.filter _, fun k hk k' hk' he => ?_⟩
    have hn := (List.mem_filter.mp hk').2
    rw [← he, decide_eq_true_iff] at hn
    exact hn hk

theorem kinds_update (as bs : Answers) :
    (as.update bs).kinds = as.kinds ++ bs.kinds.filter (· ∉ as.kinds) :=
  kinds_updated as bs

theorem get?_update (as bs : Answers) (k : Kind) :
    (as.update bs).get? k = (bs.get? k).or (as.get? k) := by
  have hlatest : (as.toList.map bs.latest).find? (·.kind = k) = (as.get? k).map bs.latest := by
    rw [List.find?_map, get?]
    simp only [Function.comp_def, kind_latest]
  rw [get?, update, List.find?_append, hlatest]
  cases ha : as.get? k with
  | some a =>
    rw [Option.map_some, latest, kind_of_get? ha]
    cases bs.get? k <;> rfl
  | none =>
    have hk := get?_eq_none_iff.mp ha
    have hfilter : (bs.toList.filter (·.kind ∉ as.kinds)).find? (·.kind = k) = bs.get? k := by
      rw [List.find?_filter, get?]
      refine congrArg (bs.toList.find? ·) (funext fun b => ?_)
      by_cases hb : b.kind = k <;> simp [hb, hk]
    rw [hfilter]
    cases bs.get? k <;> rfl

/-! ## Answers one after another -/

/-- What is collected from answers that came one after another. -/
structure Collected (sent : List Answer) (as : Answers) : Prop where
  kinds : as.kinds = (sent.map Answer.kind).eraseDups
  get? : ∀ k, as.get? k = sent.findRev? (·.kind = k)

variable {sent sent' : List Answer}

theorem Collected.put (h : Collected sent as) (a : Answer) :
    Collected (sent ++ [a]) (as.put a) where
  kinds := by
    have hm : a.kind ∈ as.kinds ↔ a.kind ∈ sent.map Answer.kind := by
      rw [h.kinds, List.mem_eraseDups]
    rw [kinds_put, List.map_append, List.map_singleton, eraseDups_concat, ← h.kinds]
    simp only [hm]
  get? k := by
    rw [get?_put, h.get?, findRev?_concat]
    simp only [decide_eq_true_iff]

theorem ofList_concat (sent : List Answer) (a : Answer) :
    ofList (sent ++ [a]) = (ofList sent).put a := by
  rw [ofList, List.foldl_append]
  rfl

theorem collected_ofList (sent : List Answer) : Collected sent (ofList sent) := by
  induction sent using List.reverseRecOn with
  | nil => exact ⟨rfl, fun _ => rfl⟩
  | append_singleton sent a ih =>
    rw [ofList_concat]
    exact ih.put a

theorem Collected.unique (h : Collected sent as) (h' : Collected sent bs) : as = bs :=
  eq_of_get? (h.kinds.trans h'.kinds.symm) fun k => (h.get? k).trans (h'.get? k).symm

theorem Collected.update (h : Collected sent as) (h' : Collected sent' bs) :
    Collected (sent ++ sent') (as.update bs) where
  kinds := by
    have hremove : (sent'.map Answer.kind).removeAll (sent.map Answer.kind) =
        (sent'.map Answer.kind).filter (· ∉ as.kinds) := by
      refine List.filter_congr fun k _ => ?_
      rw [h.kinds, List.elem_eq_mem, ← decide_not, decide_eq_decide, List.mem_eraseDups]
    rw [kinds_update, List.map_append, List.eraseDups_append, hremove, eraseDups_filter, h'.kinds,
      ← h.kinds]
  get? k := by
    rw [get?_update, h.get?, h'.get?]
    simp only [List.findRev?_eq_find?_reverse]
    rw [List.reverse_append, List.find?_append]

theorem ofList_append (sent sent' : List Answer) :
    ofList (sent ++ sent') = (ofList sent).update (ofList sent') :=
  (collected_ofList _).unique ((collected_ofList sent).update (collected_ofList sent'))

theorem putAnswer_of_notMem {l : List Answer} (h : a.kind ∉ l.map Answer.kind) :
    putAnswer a l = l ++ [a] := by
  induction l with
  | nil => rfl
  | cons b l ih =>
    obtain ⟨hb, hl⟩ : a.kind ≠ b.kind ∧ a.kind ∉ l.map Answer.kind := by simpa using h
    rw [putAnswer, if_neg (Ne.symm hb), ih hl]
    rfl

theorem toList_ofList (h : (sent.map Answer.kind).Nodup) : (ofList sent).toList = sent := by
  induction sent using List.reverseRecOn with
  | nil => rfl
  | append_singleton sent a ih =>
    rw [List.map_append, List.map_singleton] at h
    obtain ⟨hs, -, hne⟩ := List.nodup_append.mp h
    rw [ofList_concat, toList_put, ih hs]
    exact putAnswer_of_notMem fun hm => hne _ hm _ (List.mem_singleton_self _) rfl

/-- Answers that are there once each are collected as they are. -/
theorem ofList_toList (as : Answers) : ofList as.toList = as := by
  have hl := toList_ofList as.nodup
  generalize ofList as.toList = bs at hl
  obtain ⟨l, hn⟩ := as
  obtain ⟨l', hn'⟩ := bs
  cases hl
  rfl

end Passpoint.Anqp.Answers
