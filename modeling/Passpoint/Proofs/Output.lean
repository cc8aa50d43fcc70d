import Mathlib.Algebra.Ring.Nat
import Passpoint.Command.Run
import Passpoint.Proofs.ControlSequences

/-! Output, line by line. What is printed loses its control sequences but no line feed. So texts that
are printed together come out as if each had been printed by itself, and each as one line more than
it has line feeds. A text is printed in full if and only if there is no control sequence in it. -/

namespace Passpoint

/-! ## Lines -/

namespace Text

/-- How many line feeds a text has. -/
def breaks (s : String) : Nat := s.toList.count '\n'

@[simp] theorem breaks_append (s t : String) : breaks (s ++ t) = breaks s + breaks t := by
  rw [breaks, String.toList_append, List.count_append]
  rfl

/-- A text is made of so many lines: each has a line feed behind it, and none inside. -/
def IsLines (k : Nat) (s : String) : Prop :=
  ∃ lines : List String, lines.length = k ∧ (∀ l ∈ lines, '\n' ∉ l.toList) ∧
    s = String.join (lines.map (· ++ "\n"))

theorem IsLines.breaks_eq {k : Nat} {s : String} (h : IsLines k s) : breaks s = k := by
  obtain ⟨lines, rfl, hl, rfl⟩ := h
  induction lines with
  | nil => rfl
  | cons l lines ih =>
    have hn : breaks l = 0 := List.count_eq_zero_of_not_mem (hl l List.mem_cons_self)
    have hb : breaks "\n" = 1 := rfl
    rw [List.map_cons, String.join_cons, breaks_append, breaks_append, hn, hb,
      ih fun l h => hl l (List.mem_cons_of_mem _ h), List.length_cons]
    omega

theorem IsLines.append {j k : Nat} {s t : String} (hs : IsLines j s) (ht : IsLines k t) :
    IsLines (j + k) (s ++ t) := by
  obtain ⟨ls, rfl, hl, rfl⟩ := hs
  obtain ⟨ms, rfl, hm, rfl⟩ := ht
  refine ⟨ls ++ ms, List.length_append, ?_, by rw [List.map_append, String.join_append]⟩
  exact fun l h => (List.mem_append.mp h).elim (hl l) (hm l)

theorem isLines_join {α : Type} {f : α → Nat} {g : α → String} {as : List α}
    (h : ∀ a ∈ as, IsLines (f a) (g a)) :
    IsLines (as.map f).sum (String.join (as.map g)) := by
  induction as with
  | nil => exact ⟨[], rfl, nofun, rfl⟩
  | cons a as ih =>
    rw [List.map_cons, List.map_cons, List.sum_cons, String.join_cons]
    exact (h a List.mem_cons_self).append (ih fun b hb => h b (List.mem_cons_of_mem _ hb))

/-- A text with a line feed behind it has one line more than it has line feeds. -/
theorem isLines_concat (cs : List Char) :
    IsLines (cs.count '\n' + 1) (String.ofList (cs ++ ['\n'])) := by
  induction cs with
  | nil => exact ⟨[""], rfl, by simp, rfl⟩
  | cons c cs ih =>
    obtain ⟨lines, hk, hl, hs⟩ := ih
    have hc : String.ofList (c :: cs ++ ['\n']) =
        String.singleton c ++ String.ofList (cs ++ ['\n']) := by
      simp
    rw [hc, hs]
    by_cases hn : c = '\n'
    · -- An empty line more.
      subst hn
      refine ⟨"" :: lines, by simp [hk], by simpa using hl, ?_⟩
      rw [List.map_cons, String.join_cons]
      rfl
    · -- The first line grows.
      match lines, hk with
      | first :: lines, hk =>
        refine ⟨(String.singleton c ++ first) :: lines, ?_, ?_, ?_⟩
        · rw [List.count_cons_of_ne hn, ← hk]
          rfl
        · rw [List.forall_mem_cons] at hl ⊢
          refine ⟨?_, hl.2⟩
          simpa [Ne.symm hn] using hl.1
        · simp [String.append_assoc]

end Text

namespace Command

open Text (IsLines breaks)
open Text.Terminal (HoldsSequence IsPlain Stripped)

/-- What is printed of a text, without the function that prints it. -/
theorem printed_eq_iff {s t : String} :
    printed s = t ↔ ∃ cs, Stripped s.toList cs ∧ t = String.ofList cs ++ "\n" := by
  constructor
  · intro h
    exact ⟨_, Text.Terminal.strip_eq_iff.mp rfl, h.symm⟩
  · rintro ⟨cs, hs, rfl⟩
    rw [printed, Text.Terminal.strip_eq_iff.mpr hs]

theorem printed_eq_self_iff {s : String} :
    printed s = s ++ "\n" ↔ ¬ HoldsSequence s.toList := by
  rw [← (Text.Terminal.stripped_strip s.toList).eq_iff, printed, String.append_left_inj,
    ← String.toList_inj, String.toList_ofList]

theorem printed_of_isPlain {s : String} (h : IsPlain s.toList) : printed s = s ++ "\n" :=
  printed_eq_self_iff.mpr h.not_holdsSequence

/-- A text behind a plain one is printed behind it. -/
theorem printed_append {s : String} (h : IsPlain s.toList) (t : String) :
    printed (s ++ t) = s ++ printed t := by
  rw [printed, String.toList_append, Text.Terminal.strip_append_of_isPlain h, String.ofList_append,
    String.ofList_toList, String.append_assoc, printed]

/-- A printed text is one line more than it has line feeds. -/
theorem isLines_printed (s : String) : IsLines (breaks s + 1) (printed s) := by
  have hs := Text.Terminal.stripped_strip s.toList
  have hl := Text.isLines_concat (Text.Terminal.strip s.toList)
  rw [hs.count_break, String.ofList_append] at hl
  exact hl

/-- Texts that are printed with line feeds between them come out as if each had been printed by
itself. -/
theorem printed_intercalate (s : String) (ss : List String) :
    printed ("\n".intercalate (s :: ss)) = String.join ((s :: ss).map printed) := by
  induction ss generalizing s with
  | nil => simp
  | cons t ss ih =>
    have hl : (s ++ "\n" ++ "\n".intercalate (t :: ss)).toList =
        s.toList ++ '\n' :: ("\n".intercalate (t :: ss)).toList := by
      simp
    have hb : printed (s ++ "\n" ++ "\n".intercalate (t :: ss)) =
        printed s ++ printed ("\n".intercalate (t :: ss)) := by
      rw [printed, hl, Text.Terminal.strip_append_break, printed, printed]
      simp [String.append_assoc]
    rw [String.intercalate_cons_cons, hb, ih]
    exact String.join_cons.symm

end Command

end Passpoint
