import Mathlib.Algebra.Ring.Nat
import Mathlib.Data.List.Induction
import Mathlib.Data.List.TakeWhile
import Passpoint.Document.Json
import Passpoint.Document.Shown

/-! What a JSON text can hold. The names in an object are texts, an integer has no more digits than
can be shown, and nothing is nested deeper than can be shown. So every part of a JSON document can
be shown in a message. -/

namespace Passpoint.Document

/-- A tree of at most so many levels, with texts as keys and atoms that can be shown. -/
inductive Plain : Nat → Value → Prop
  | atom {levels : Nat} {a : Atom} (h : ∃ text, a.shown = .ok text) : Plain (levels + 1) (.atom a)
  | list {levels : Nat} {items : List Value} (h : ∀ v ∈ items, Plain levels v) :
      Plain (levels + 1) (.list items)
  | map {levels : Nat} {entries : List (Atom × Value)} (hk : ∀ e ∈ entries, e.1.codes?.isSome)
      (hv : ∀ e ∈ entries, Plain levels e.2) : Plain (levels + 1) (.map entries)

/-! ## Showing -/

theorem Atom.exists_shown_of_codes {a : Atom} (h : a.codes?.isSome) :
    ∃ text, a.shown = .ok text := by
  cases a with
  | text s => exact ⟨_, rfl⟩
  | brokenText codes => exact ⟨_, rfl⟩
  | _ => cases h

theorem exists_mapM_eq_ok {α : Type} {part : α → Shown} {items : List α}
    (h : ∀ a ∈ items, ∃ text, part a = .ok text) : ∃ texts, items.mapM part = .ok texts := by
  induction items with
  | nil => exact ⟨[], rfl⟩
  | cons a items ih =>
    obtain ⟨text, ht⟩ := h a (by simp)
    obtain ⟨texts, hts⟩ := ih fun b hb => h b (by simp [hb])
    exact ⟨text :: texts, by rw [List.mapM_cons, ht, hts]; rfl⟩

/-- A plain value can be shown in as many levels as it has. -/
theorem Plain.exists_shownAt {levels : Nat} {v : Value} (h : Plain levels v) (cells : Cells)
    (around : List Nat) : ∃ text, v.shownAt cells levels around = .ok text := by
  induction h with
  | atom h => exact h
  | @list levels items _ ih =>
    obtain ⟨texts, ht⟩ := exists_mapM_eq_ok ih
    exact ⟨"[" ++ commaList texts ++ "]", by simp only [Value.shownAt, Value.shownBy, ht]; rfl⟩
  | @map levels entries hk _ ih =>
    let entry := fun (e : Atom × Value) => do
      return (← e.1.shown) ++ ": " ++ (← e.2.shownAt cells levels around)
    have he : ∀ e ∈ entries, ∃ text, entry e = .ok text := by
      intro e he
      obtain ⟨name, hn⟩ := Atom.exists_shown_of_codes (hk e he)
      obtain ⟨text, ht⟩ := ih e he
      exact ⟨name ++ ": " ++ text, by simp only [entry, hn, ht]; rfl⟩
    obtain ⟨texts, ht⟩ := exists_mapM_eq_ok he
    refine ⟨"\x7b" ++ commaList texts ++ "\x7d", ?_⟩
    simp only [Value.shownAt, Value.shownBy]
    rw [ht]
    rfl

namespace Json

/-! ## Numbers -/

theorem natOfDigits_lt {ds : List Char} (h : ∀ c ∈ ds, c.isDigit) :
    Decimal.natOfDigits ds < 10 ^ ds.length := by
  induction ds using List.reverseRecOn with
  | nil => decide
  | append_singleton ds c ih =>
    have hc := (Char.isDigit_iff_toNat.mp (h c (by simp))).2
    have hds := ih fun d hd => h d (by simp [hd])
    have hn : Decimal.natOfDigits (ds ++ [c]) =
        10 * Decimal.natOfDigits ds + (c.toNat - 48) := by
      simp [Decimal.natOfDigits]
    have h9 : '9'.toNat = 57 := rfl
    rw [hn, List.length_append, List.length_singleton, Nat.pow_succ]
    omega

theorem exists_showInt {n : Int} (h : n.natAbs < 10 ^ Decimal.digitLimit) :
    ∃ text, showInt n = .ok text :=
  ⟨toString n, by rw [showInt, Nat.pow_eq, if_pos h]⟩

/-- A number is an atom, and an integer among them is short enough to be shown. -/
theorem exists_atom_of_number {cs rest : List Char} {v : Value} (h : number cs = .ok (v, rest)) :
    ∃ a, v = .atom a ∧ ∃ text, a.shown = .ok text := by
  revert h
  fun_cases number cs with
  | case1 | case2 => nofun
  | case3 negative body hb whole _ _ _ _ _ _ _ _ hl n =>
    intro h
    simp only [Except.ok.injEq, Prod.mk.injEq] at h
    obtain ⟨rfl, -⟩ := h
    have hd : ∀ c ∈ whole, c.isDigit := by
      intro c hc
      dsimp only [whole] at hc
      split at hc
      · rw [List.mem_singleton.mp hc]
        rfl
      · exact List.mem_takeWhile_imp hc
    have hn : (if negative then -n else n).natAbs = Decimal.natOfDigits whole := by
      split <;> simp [n]
    refine ⟨_, rfl, exists_showInt ?_⟩
    rw [hn]
    exact Nat.lt_of_lt_of_le (natOfDigits_lt hd)
      (Nat.pow_le_pow_right (by decide) (Nat.le_of_not_lt hl))
  | case4 =>
    intro h
    cases h
    exact ⟨_, rfl, _, rfl⟩

theorem exists_atom_of_word? {cs rest : List Char} {v : Value} (h : word? cs = some (v, rest)) :
    ∃ a, v = .atom a ∧ ∃ text, a.shown = .ok text := by
  obtain ⟨w, hw, he⟩ := Option.map_eq_some_iff.mp h
  cases he
  have hs : ∀ w ∈ words, ∃ text, w.2.shown = .ok text := by
    simp [words, Atom.shown]
  exact ⟨_, rfl, hs w (List.mem_of_find?_eq_some hw)⟩

/-! ## Values -/

theorem exists_of_bind {α β : Type} {x : Except Stop α} {next : α → Except Stop β} {b : β}
    (h : x >>= next = .ok b) : ∃ a, x = .ok a ∧ next a = .ok b := by
  cases x with
  | error stop => cases h
  | ok a => exact ⟨a, rfl, h⟩

theorem isSome_codes_ofCodes (codes : Text.Codes) : (Atom.ofCodes codes).codes?.isSome := by
  rw [Atom.ofCodes]
  split <;> rfl

/-- One more list or object takes one of the levels that are left. -/
theorem exists_of_deeper {kind : String} {depth left inner levels : Nat}
    (hl : depth + levels = Nesting.json) (h : deeper kind depth left = .ok inner) :
    ∃ fewer, levels = fewer + 1 ∧ inner + fewer = Nesting.json := by
  rw [deeper] at h
  split at h
  · cases h
    exact ⟨levels - 1, by omega, by omega⟩
  · cases h

theorem forall_putEntry (P : Atom → Prop) {Q : Value → Prop} {key : Atom} {v : Value}
    {before : List (Atom × Value)} (hb : ∀ e ∈ before, P e.1 ∧ Q e.2) (h : P key) (hv : Q v) :
    ∀ e ∈ putEntry key v before, P e.1 ∧ Q e.2 := by
  induction before with
  | nil => simp [putEntry, h, hv]
  | cons b before ih =>
    obtain ⟨⟨hk, hq⟩, hb⟩ := List.forall_mem_cons.mp hb
    rw [putEntry]
    split
    · exact List.forall_mem_cons.mpr ⟨⟨hk, hv⟩, hb⟩
    · exact List.forall_mem_cons.mpr ⟨⟨hk, hq⟩, ih hb⟩

/-- Readers with so much fuel give plain values, of as many levels as are left where they start. -/
structure ReadsPlain (fuel : Nat) : Prop where
  value : ∀ {depth levels cs v rest}, depth + levels = Nesting.json →
    value fuel depth cs = .ok (v, rest) → Plain (levels + 1) v
  items : ∀ {depth levels cs items rest}, depth + levels = Nesting.json →
    itemsAfter fuel depth cs = .ok (items, rest) → ∀ v ∈ items, Plain (levels + 1) v
  members : ∀ {depth levels before cs entries rest}, depth + levels = Nesting.json →
    (∀ e ∈ before, e.1.codes?.isSome ∧ Plain (levels + 1) e.2) →
    membersAfter fuel depth before cs = .ok (entries, rest) →
    ∀ e ∈ entries, e.1.codes?.isSome ∧ Plain (levels + 1) e.2

section
variable {fuel depth levels : Nat} {cs rest : List Char} (ih : ∀ less < fuel, ReadsPlain less)
  (hl : depth + levels = Nesting.json)
include ih hl

theorem plain_of_value {v : Value} (h : value fuel depth cs = .ok (v, rest)) :
    Plain (levels + 1) v := by
  revert h
  fun_cases value fuel depth cs with
  | case1 => nofun
  | case2 => nofun
  | case3 =>
    intro h
    obtain ⟨⟨codes, after⟩, -, h⟩ := exists_of_bind h
    cases h
    exact .atom (Atom.exists_shown_of_codes (isSome_codes_ofCodes codes))
  | case4 =>
    intro h
    obtain ⟨inner, hd, h⟩ := exists_of_bind h
    obtain ⟨fewer, rfl, hf⟩ := exists_of_deeper hl hd
    split at h
    · cases h
      exact .list nofun
    · obtain ⟨⟨items, after⟩, hi, h⟩ := exists_of_bind h
      cases h
      exact .list ((ih _ (Nat.lt_succ_self _)).items hf hi)
  | case5 =>
    intro h
    obtain ⟨inner, hd, h⟩ := exists_of_bind h
    obtain ⟨fewer, rfl, hf⟩ := exists_of_deeper hl hd
    split at h
    · cases h
      exact .map nofun nofun
    · obtain ⟨⟨entries, after⟩, hm, h⟩ := exists_of_bind h
      cases h
      have he := (ih _ (Nat.lt_succ_self _)).members hf (List.forall_mem_nil _) hm
      exact .map (fun e hm => (he e hm).1) fun e hm => (he e hm).2
  | case6 =>
    rename_i hw
    intro h
    rw [hw] at h
    cases h
    obtain ⟨a, rfl, hs⟩ := exists_atom_of_word? hw
    exact .atom hs
  | case7 =>
    rename_i hw
    intro h
    rw [hw] at h
    obtain ⟨a, rfl, hs⟩ := exists_atom_of_number h
    exact .atom hs

theorem plain_of_itemsAfter {items : List Value}
    (h : itemsAfter fuel depth cs = .ok (items, rest)) : ∀ v ∈ items, Plain (levels + 1) v := by
  revert h
  fun_cases itemsAfter fuel depth cs with
  | case1 => nofun
  | case2 fuel =>
    intro h
    obtain ⟨⟨item, after⟩, hv, h⟩ := exists_of_bind h
    have hi := (ih _ (Nat.lt_succ_self _)).value hl hv
    dsimp only at h
    split at h
    · cases h
      simpa using hi
    · obtain ⟨⟨items, after⟩, hr, h⟩ := exists_of_bind h
      cases h
      exact List.forall_mem_cons.mpr ⟨hi, (ih _ (Nat.lt_succ_self _)).items hl hr⟩
    · cases h

theorem plain_of_membersAfter {before entries : List (Atom × Value)}
    (hb : ∀ e ∈ before, e.1.codes?.isSome ∧ Plain (levels + 1) e.2)
    (h : membersAfter fuel depth before cs = .ok (entries, rest)) :
    ∀ e ∈ entries, e.1.codes?.isSome ∧ Plain (levels + 1) e.2 := by
  revert h
  fun_cases membersAfter fuel depth before cs with
  | case1 => nofun
  | case2 fuel inside =>
    intro h
    obtain ⟨⟨name, after⟩, -, h⟩ := exists_of_bind h
    dsimp only at h
    split at h
    · obtain ⟨⟨v, after⟩, hv, h⟩ := exists_of_bind h
      have he := forall_putEntry (·.codes?.isSome) hb (isSome_codes_ofCodes name)
        ((ih _ (Nat.lt_succ_self _)).value hl hv)
      dsimp only at h
      split at h
      · cases h
        exact he
      · exact (ih _ (Nat.lt_succ_self _)).members hl he h
      · cases h
    · cases h
  | case3 => nofun

end

theorem readsPlain (fuel : Nat) : ReadsPlain fuel := by
  induction fuel using Nat.strongRecOn with
  | ind fuel ih =>
    exact {
      value := fun hl => plain_of_value ih hl
      items := fun hl => plain_of_itemsAfter ih hl
      members := fun hl => plain_of_membersAfter ih hl }

/-- **A JSON document is plain.** It has no more levels than can be shown. -/
theorem plain_of_document {cs : List Char} {v : Value} (h : document cs = .ok v) :
    Plain (Nesting.json + 1) v := by
  rw [document.eq_def] at h
  split at h
  · cases h
  · obtain ⟨⟨w, rest⟩, hv, h⟩ := exists_of_bind h
    dsimp only at h
    split at h
    · cases h
      exact (readsPlain _).value (Nat.zero_add _) hv
    · cases h

end Json

end Passpoint.Document
