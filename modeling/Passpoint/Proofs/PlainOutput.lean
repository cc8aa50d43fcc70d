import Passpoint.Proofs.ControlSequences
import Passpoint.Proofs.JsonText

/-! JSON that is printed in full. If it is indented with spaces, no control sequence starts in it,
whatever the texts in it hold: all its characters are printable ASCII or line feeds. -/

namespace Passpoint

open Text.Terminal (IsPlain)

namespace Report.Json

/-- A character that JSON is written with: printable ASCII, or a line feed between values. -/
def IsWritten (c : Char) : Prop := c = '\n' ∨ 0x20 ≤ c.toNat ∧ c.toNat ≤ 0x7E

instance (c : Char) : Decidable (IsWritten c) := inferInstanceAs (Decidable (_ ∨ _))

def AllWritten (cs : List Char) : Prop := ∀ c ∈ cs, IsWritten c

instance (cs : List Char) : Decidable (AllWritten cs) := List.decidableBAll _ cs

theorem allWritten_append {cs ds : List Char} :
    AllWritten (cs ++ ds) ↔ AllWritten cs ∧ AllWritten ds :=
  List.forall_mem_append

theorem allWritten_cons {c : Char} {cs : List Char} :
    AllWritten (c :: cs) ↔ IsWritten c ∧ AllWritten cs :=
  List.forall_mem_cons

theorem allWritten_flatten {l : List (List Char)} (h : ∀ cs ∈ l, AllWritten cs) :
    AllWritten l.flatten := by
  intro c hc
  obtain ⟨cs, hm, hc⟩ := List.mem_flatten.mp hc
  exact h cs hm c hc

theorem allWritten_intercalate {sep : List Char} (hs : AllWritten sep) {items : List (List Char)}
    (hi : ∀ item ∈ items, AllWritten item) : AllWritten (sep.intercalate items) := by
  induction items with
  | nil => exact nofun
  | cons x items ih =>
    obtain ⟨hx, hi⟩ := List.forall_mem_cons.mp hi
    cases items with
    | nil => rwa [List.intercalate_singleton]
    | cons y items =>
      rw [List.intercalate_cons_cons, allWritten_append, allWritten_append]
      exact ⟨⟨hx, hs⟩, ih hi⟩

/-! ### Texts and numbers -/

theorem allWritten_unit (n : Nat) : AllWritten (unit n) := by
  have all : ∀ k : Fin 16, IsWritten (Text.hexDigit k) := by decide
  have hd : ∀ m, IsWritten (Text.hexDigit (m % 16)) :=
    fun m => all ⟨m % 16, Nat.mod_lt m (by decide)⟩
  rw [unit]
  simp only [allWritten_cons, hd, true_and]
  decide

theorem allWritten_charText (c : Char) : AllWritten (charText c) := by
  simp only [charText]
  -- Seven characters have short escapes.
  iterate 7 (split; · decide)
  split
  · rename_i h
    exact List.forall_mem_singleton.mpr (.inr h)
  split
  · exact allWritten_unit _
  · exact allWritten_append.mpr ⟨allWritten_unit _, allWritten_unit _⟩

theorem allWritten_quote (s : String) : AllWritten (quote s) := by
  rw [quote, List.flatMap_def, allWritten_append, allWritten_cons]
  refine ⟨⟨by decide, allWritten_flatten fun cs hc => ?_⟩, by decide⟩
  obtain ⟨c, -, rfl⟩ := List.mem_map.mp hc
  exact allWritten_charText c

theorem allWritten_int (n : Int) : AllWritten (toString n).toList := by
  have hd : ∀ m, AllWritten (Nat.toDigits 10 m) := by
    intro m c hc
    have h := Nat.isDigit_of_mem_toDigits (by decide) (by decide) hc
    simp only [Char.isDigit_iff_toNat, Char.reduceToNat] at h
    exact .inr (by omega)
  cases n with
  | ofNat n =>
    rw [toList_toString_ofNat]
    exact hd n
  | negSucc n =>
    rw [toList_toString_negSucc]
    exact allWritten_cons.mpr ⟨by decide, hd (n + 1)⟩

/-! ### Values -/

section

variable {l : Layout} (hl : ∀ depth, AllWritten (l.newLine depth))
include hl

theorem allWritten_separator (depth : Nat) : AllWritten (l.separator depth) := by
  rw [Layout.separator]
  split
  · decide
  · exact allWritten_cons.mpr ⟨by decide, hl depth⟩

theorem allWritten_enclose {opening closing : Char} (ho : IsWritten opening)
    (hc : IsWritten closing) (depth : Nat) {items : List (List Char)}
    (hi : ∀ item ∈ items, AllWritten item) :
    AllWritten (l.enclose opening closing depth items) := by
  have hs := allWritten_intercalate (allWritten_separator hl (depth + 1)) hi
  rw [Layout.enclose]
  split
  · exact allWritten_cons.mpr ⟨ho, List.forall_mem_singleton.mpr hc⟩
  · simp only [allWritten_append]
    exact ⟨⟨⟨⟨List.forall_mem_singleton.mpr ho, hl _⟩, hs⟩, hl _⟩, List.forall_mem_singleton.mpr hc⟩

theorem allWritten_write (v : Json) (depth : Nat) : AllWritten (write l depth v) := by
  induction v using induction generalizing depth with
  | null =>
    have hn : AllWritten "null".toList := by decide
    exact hn
  | bool b =>
    have hb : ∀ b : Bool, AllWritten (if b then "true" else "false").toList := by decide
    exact hb b
  | int n => exact allWritten_int n
  | text s => exact allWritten_quote s
  | list items ih =>
    rw [write_list]
    refine allWritten_enclose hl (by decide) (by decide) depth fun item hm => ?_
    obtain ⟨v, hv, rfl⟩ := List.mem_map.mp hm
    exact ih v hv (depth + 1)
  | object members ih =>
    rw [write_object]
    refine allWritten_enclose hl (by decide) (by decide) depth fun item hm => ?_
    obtain ⟨m, hv, rfl⟩ := List.mem_map.mp hm
    have hcolon : AllWritten [':', ' '] := by decide
    rw [writeMember, allWritten_append, allWritten_append]
    exact ⟨⟨allWritten_quote m.1, hcolon⟩, ih m hv (depth + 1)⟩

end

theorem allWritten_newLine_spaces (n : Int) (depth : Nat) :
    AllWritten (Layout.newLine ⟨some (.spaces n)⟩ depth) := by
  refine allWritten_cons.mpr ⟨by decide, allWritten_flatten fun level hm => ?_⟩
  cases List.eq_of_mem_replicate hm
  intro c hc
  cases List.eq_of_mem_replicate hc
  decide

/-- **JSON is printed in full** if it is indented with spaces. -/
theorem isPlain_render (n : Int) (v : Json) : IsPlain (render (some (.spaces n)) v).toList := by
  unfold render
  rw [String.toList_ofList]
  intro hc
  have hw := allWritten_write (allWritten_newLine_spaces n) v 0 _ hc
  revert hw
  decide

end Report.Json

end Passpoint
