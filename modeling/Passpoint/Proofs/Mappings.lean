import Mathlib.Data.List.Perm.Basic
import Passpoint.Proofs.SettingValues

/-! Mappings with values put over them. An entry that is put takes the place of one with its name,
or comes last; so each name keeps one place, and has the last value that was put. What is read off a
mapping hangs on the values of its names and on which unknown names it has, and not on their order:
unknown names that are texts are told in the order of their code points. -/

namespace Passpoint

/-! ## The order of texts -/

namespace Text

theorem inOrder_trans {s t u : Codes} (hs : inOrder s t) (ht : inOrder t u) : inOrder s u := by
  induction s generalizing t u with
  | nil => rfl
  | cons a s ih =>
    match t, u with
    | [], _ => cases hs
    | _ :: _, [] => cases ht
    | b :: t, c :: u =>
      simp only [inOrder, Bool.or_eq_true, decide_eq_true_eq, Bool.and_eq_true, beq_iff_eq] at *
      rcases hs with hs | ⟨rfl, hs⟩ <;> rcases ht with ht | ⟨rfl, ht⟩
      · exact .inl (Nat.lt_trans hs ht)
      · exact .inl hs
      · exact .inl ht
      · exact .inr ⟨rfl, ih hs ht⟩

theorem inOrder_total (s t : Codes) : inOrder s t || inOrder t s := by
  induction s generalizing t with
  | nil => rfl
  | cons a s ih =>
    cases t with
    | nil => rfl
    | cons b t =>
      have := ih t
      simp only [inOrder, Bool.or_eq_true, decide_eq_true_eq, Bool.and_eq_true, beq_iff_eq] at *
      rcases Nat.lt_trichotomy a b with h | rfl | h
      · exact .inl (.inl h)
      · simpa using this
      · exact .inr (.inl h)

theorem inOrder_antisymm {s t : Codes} (hs : inOrder s t) (ht : inOrder t s) : s = t := by
  induction s generalizing t with
  | nil =>
    cases t with
    | nil => rfl
    | cons b t => cases ht
  | cons a s ih =>
    cases t with
    | nil => cases hs
    | cons b t =>
      simp only [inOrder, Bool.or_eq_true, decide_eq_true_eq, Bool.and_eq_true, beq_iff_eq] at *
      rcases hs with hs | ⟨rfl, hs⟩
      · omega
      · rw [ih hs (by simpa using ht)]

/-- Texts are put in one order, in whatever order they come. -/
theorem mergeSort_inOrder_eq {ts us : List Codes} (h : ts.Perm us) :
    ts.mergeSort inOrder = us.mergeSort inOrder := by
  have hsorted : ∀ vs : List Codes, (vs.mergeSort inOrder).Pairwise fun s t => inOrder s t := by
    intro vs
    apply List.pairwise_mergeSort
    · exact fun _ _ _ hs ht => inOrder_trans hs ht
    · exact inOrder_total
  have hp : (ts.mergeSort inOrder).Perm (us.mergeSort inOrder) :=
    (List.mergeSort_perm ts inOrder).trans (h.trans (List.mergeSort_perm us inOrder).symm)
  exact hp.eq_of_pairwise (fun _ _ _ _ => inOrder_antisymm) (hsorted ts) (hsorted us)

end Text

namespace Settings

open Document (Atom Cells Value putEntry)

/-! ## One more entry -/

variable {m m' : Mapping} {name n : String} {v w : Value} {cells : Cells}

theorem sameKey_text_iff {a : Atom} : a.sameKey (.text name) ↔ a = .text name := by
  cases a <;> simp [Atom.sameKey, Atom.number?]

theorem lookup_cons_self (m : Mapping) (name : String) (v w : Value) :
    lookup ((.text name, w) :: m) name v = w := by
  rw [lookup, List.find?_cons_of_pos (by exact sameKey_text_iff.mpr rfl)]
  rfl

theorem lookup_cons_of_ne {a : Atom} (h : a ≠ .text name) (m : Mapping) (v w : Value) :
    lookup ((a, w) :: m) name v = lookup m name v := by
  rw [lookup, List.find?_cons_of_neg (by exact mt sameKey_text_iff.mp h)]
  rfl

theorem putEntry_cons_self (m : Mapping) (n : String) (v w : Value) :
    putEntry (.text n) w ((.text n, v) :: m) = (.text n, w) :: m :=
  if_pos (sameKey_text_iff.mpr rfl)

theorem putEntry_cons_of_ne {a : Atom} (h : a ≠ .text n) (m : Mapping) (v w : Value) :
    putEntry (.text n) w ((a, v) :: m) = (a, v) :: putEntry (.text n) w m :=
  if_neg (mt sameKey_text_iff.mp h)

/-- An entry that was put is found under its name, and under no other. -/
theorem lookup_putEntry (m : Mapping) (n : String) (w : Value) (name : String) (v : Value) :
    lookup (putEntry (.text n) w m) name v = if n = name then w else lookup m name v := by
  by_cases hn : n = name
  · subst hn
    rw [if_pos rfl]
    induction m with
    | nil => exact lookup_cons_self [] n v w
    | cons e m ih =>
      by_cases he : e.1 = .text n
      · rw [← Prod.eta e, he, putEntry_cons_self, lookup_cons_self]
      · rw [← Prod.eta e, putEntry_cons_of_ne he, lookup_cons_of_ne he, ih]
  · have ht : Atom.text n ≠ .text name := by simp [hn]
    rw [if_neg hn]
    induction m with
    | nil => exact lookup_cons_of_ne ht [] v w
    | cons e m ih =>
      by_cases he : e.1 = .text n
      · rw [← Prod.eta e, he, putEntry_cons_self, lookup_cons_of_ne ht, lookup_cons_of_ne ht]
      · rw [← Prod.eta e, putEntry_cons_of_ne he]
        by_cases hk : e.1 = .text name
        · rw [hk, lookup_cons_self, lookup_cons_self]
        · rw [lookup_cons_of_ne hk, lookup_cons_of_ne hk, ih]

/-- The keys of a mapping. -/
def keys (m : Mapping) : List Atom := m.map (·.1)

theorem mem_keys_putEntry {a : Atom} :
    a ∈ keys (putEntry (.text n) w m) ↔ a = .text n ∨ a ∈ keys m := by
  induction m with
  | nil => simp [putEntry, keys]
  | cons e m ih =>
    by_cases he : e.1 = .text n
    · rw [← Prod.eta e, he, putEntry_cons_self]
      simp [keys]
    · rw [← Prod.eta e, putEntry_cons_of_ne he, keys, List.map_cons, List.mem_cons, ← keys, ih,
        keys, keys, List.map_cons, List.mem_cons, or_left_comm]

theorem nodup_keys_putEntry (h : (keys m).Nodup) : (keys (putEntry (.text n) w m)).Nodup := by
  induction m with
  | nil => simp [putEntry, keys]
  | cons e m ih =>
    obtain ⟨he, hm⟩ := List.nodup_cons.mp h
    by_cases hn : e.1 = .text n
    · rw [← Prod.eta e, hn, putEntry_cons_self, ← hn]
      exact h
    · rw [← Prod.eta e, putEntry_cons_of_ne hn]
      refine List.nodup_cons.mpr ⟨fun hk => ?_, ih hm⟩
      exact (mem_keys_putEntry.mp hk).elim hn he

/-! ## Many more entries -/

/-- The value that overrides have for a name. Null is none: it leaves a setting as it is. -/
def override? (o : List (String × Value)) (name : String) : Option Value :=
  (o.lookup name).filter (!isNull ·)

variable {o : List (String × Value)}

theorem overlay_cons (m : Mapping) (e : String × Value) (o : List (String × Value)) :
    overlay m (e :: o) = overlay (if isNull e.2 then m else putEntry (.text e.1) e.2 m) o := rfl

theorem override?_cons_self (n : String) (w : Value) (o : List (String × Value)) :
    override? ((n, w) :: o) n = if isNull w then none else some w := by
  cases hw : isNull w <;> simp [override?, hw]

theorem override?_cons_of_ne (h : name ≠ n) (w : Value) (o : List (String × Value)) :
    override? ((n, w) :: o) name = override? o name := by
  rw [override?, List.lookup_cons, beq_false_of_ne h, override?]

theorem override?_eq_none (h : name ∉ o.map (·.1)) : override? o name = none := by
  have hn : o.lookup name = none := by
    rw [List.lookup_eq_none_iff]
    intro e he
    exact bne_iff_ne.mpr fun hk => h (hk ▸ List.mem_map_of_mem he)
  rw [override?, hn, Option.filter_none]

theorem override?_eq_some_iff (h : (o.map (·.1)).Nodup) :
    override? o name = some v ↔ (name, v) ∈ o ∧ isNull v = false := by
  induction o with
  | nil => simp [override?]
  | cons e o ih =>
    obtain ⟨n, w⟩ := e
    obtain ⟨hn, ho⟩ := List.nodup_cons.mp h
    by_cases he : name = n
    · subst he
      have hv : (name, v) ∉ o := fun hv => hn (List.mem_map_of_mem (f := (·.1)) hv)
      rw [override?_cons_self, List.mem_cons, Prod.mk.injEq]
      constructor
      · intro hs
        split at hs
        · cases hs
        · rename_i hw
          cases hs
          exact ⟨.inl ⟨rfl, rfl⟩, by simpa using hw⟩
      · rintro ⟨⟨-, rfl⟩ | hm, hw⟩
        · simp [hw]
        · exact absurd hm hv
    · rw [override?_cons_of_ne he, ih ho]
      simp [he]

theorem lookup_overlay (h : (o.map (·.1)).Nodup) (m : Mapping) (name : String) (v : Value) :
    lookup (overlay m o) name v = (override? o name).getD (lookup m name v) := by
  induction o generalizing m with
  | nil => rfl
  | cons e o ih =>
    obtain ⟨n, w⟩ := e
    obtain ⟨hn, ho⟩ := List.nodup_cons.mp h
    rw [overlay_cons, ih ho]
    by_cases he : name = n
    · subst he
      rw [override?_cons_self, override?_eq_none hn]
      cases hw : isNull w <;> simp [lookup_putEntry]
    · rw [override?_cons_of_ne he]
      cases hw : isNull w <;> simp [lookup_putEntry, Ne.symm he]

theorem mem_keys_overlay {a : Atom} :
    a ∈ keys (overlay m o) ↔ a ∈ keys m ∨ ∃ e ∈ o, isNull e.2 = false ∧ a = .text e.1 := by
  induction o generalizing m with
  | nil => simp [overlay]
  | cons e o ih =>
    rw [overlay_cons, ih]
    cases he : isNull e.2 <;> simp [mem_keys_putEntry, he, or_left_comm, or_assoc]

theorem nodup_keys_overlay (h : (keys m).Nodup) : (keys (overlay m o)).Nodup := by
  induction o generalizing m with
  | nil => exact h
  | cons e o ih =>
    rw [overlay_cons]
    apply ih
    split
    · exact h
    · exact nodup_keys_putEntry h

/-- Nothing but nulls leaves a mapping as it is. -/
theorem overlay_of_nulls (h : ∀ e ∈ o, isNull e.2) (m : Mapping) : overlay m o = m := by
  induction o with
  | nil => rfl
  | cons e o ih =>
    obtain ⟨he, ho⟩ := List.forall_mem_cons.mp h
    rw [overlay_cons, if_pos he, ih ho]

/-! ## Mappings that say the same -/

/-- The keys that are no names of settings. -/
def strangers (m : Mapping) : List Atom := (keys m).filter (!isKnown ·)

theorem mem_strangers {a : Atom} : a ∈ strangers m ↔ a ∈ keys m ∧ isKnown a = false := by
  simp [strangers]

/-- Keys that are all texts are told in one order, whatever order they stand in. -/
theorem checkKeys_of_texts (h : ∀ a ∈ keys m, a.codes?.isSome) :
    checkKeys m = if strangers m = [] then .ok () else
      .error (.unknownNames (((strangers m).filterMap Atom.codes?).mergeSort Text.inOrder)) := by
  have hs : ∀ a ∈ strangers m, a.codes?.isSome := fun a ha => h a (mem_strangers.mp ha).1
  have hu : (m.map (·.1)).filter (!isKnown ·) = strangers m := rfl
  rw [checkKeys, hu]
  cases hm : strangers m with
  | nil => rfl
  | cons first rest =>
    rw [hm] at hs
    obtain ⟨hf, hr⟩ := List.forall_mem_cons.mp hs
    have ho : rest.findSome? (orderFault? · first) = none :=
      List.findSome?_eq_none_iff.mpr fun a ha => (orderFault?_eq_none_iff hf).mpr (hr a ha)
    rw [if_neg (List.cons_ne_nil first rest)]
    simp only [unknownFault, ho, hf, if_true]

theorem checkKeys_congr (hd : (keys m).Nodup) (hd' : (keys m').Nodup)
    (ht : ∀ a ∈ keys m, a.codes?.isSome) (ht' : ∀ a ∈ keys m', a.codes?.isSome)
    (hs : ∀ a, a ∈ strangers m ↔ a ∈ strangers m') : checkKeys m = checkKeys m' := by
  have hp : (strangers m).Perm (strangers m') :=
    (List.perm_ext_iff_of_nodup (hd.filter _) (hd'.filter _)).mpr hs
  rw [checkKeys_of_texts ht, checkKeys_of_texts ht', Text.mergeSort_inOrder_eq (hp.filterMap _)]
  congr 1
  exact propext ⟨fun h => (h ▸ hp).nil_eq.symm, fun h => (h ▸ hp).eq_nil⟩

theorem ofMapping_congr (cells : Cells) (hc : checkKeys m = checkKeys m')
    (hg : ∀ name ∈ names, given m name = given m' name) :
    ofMapping cells m = ofMapping cells m' := by
  simp only [names, List.forall_mem_cons] at hg
  obtain ⟨h₁, h₂, h₃, h₄, h₅, h₆, -⟩ := hg
  rw [ofMapping, ofMapping, hc]
  simp only [given] at h₁ h₂ h₃ h₄ h₅ h₆
  simp only [h₁, h₂, h₃, h₄, h₅, h₆]

end Settings

end Passpoint
