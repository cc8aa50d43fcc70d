import Mathlib.Data.List.DropRight
import Passpoint.Text.Blank

/-! White space around a text. A text is what stripping leaves of it, with white space on the two
sides. A character that is no white space stays where it is, so that white space is only taken off
in front of what stands before it and behind what stands after it. A separator cuts a text in two
where it first stands. -/

namespace Passpoint.Text

section

variable {p : Char → Bool} {c : Char} {cs w : List Char}

theorem stripBy_eq (p : Char → Bool) (cs : List Char) :
    stripBy p cs = (cs.dropWhile p).rdropWhile p := rfl

theorem rdropWhile_append_of_pos (h : ∀ c ∈ w, p c = true) (cs : List Char) :
    (cs ++ w).rdropWhile p = cs.rdropWhile p := by
  rw [List.rdropWhile, List.rdropWhile, List.reverse_append,
    List.dropWhile_append_of_pos (by simpa using h)]

theorem stripBy_append_left (h : ∀ c ∈ w, p c = true) (cs : List Char) :
    stripBy p (w ++ cs) = stripBy p cs := by
  rw [stripBy_eq, stripBy_eq, List.dropWhile_append_of_pos h]

theorem stripBy_append_right (h : ∀ c ∈ w, p c = true) (cs : List Char) :
    stripBy p (cs ++ w) = stripBy p cs := by
  rw [stripBy_eq, stripBy_eq, List.dropWhile_append]
  split <;> rename_i he
  · rw [List.isEmpty_iff.mp he, List.dropWhile_eq_nil_iff.mpr h]
  · exact rdropWhile_append_of_pos h _

theorem stripBy_dropWhile (p : Char → Bool) (cs : List Char) :
    stripBy p (cs.dropWhile p) = stripBy p cs := by
  rw [stripBy_eq, stripBy_eq, List.dropWhile_idempotent]

theorem stripBy_rdropWhile (p : Char → Bool) (cs : List Char) :
    stripBy p (cs.rdropWhile p) = stripBy p cs := by
  have hw : ∀ c ∈ cs.rtakeWhile p, p c = true := fun c hc => List.mem_rtakeWhile_imp hc
  rw [← stripBy_append_right hw, List.rdropWhile_append_rtakeWhile]

theorem exists_eq_stripBy (p : Char → Bool) (cs : List Char) :
    ∃ w w', (∀ c ∈ w, p c = true) ∧ (∀ c ∈ w', p c = true) ∧ cs = w ++ stripBy p cs ++ w' := by
  refine ⟨cs.takeWhile p, (cs.dropWhile p).rtakeWhile p, fun c hc => List.mem_takeWhile_imp hc,
    fun c hc => List.mem_rtakeWhile_imp hc, ?_⟩
  rw [stripBy_eq, List.append_assoc, List.rdropWhile_append_rtakeWhile,
    List.takeWhile_append_dropWhile]

theorem stripBy_eq_nil_iff : stripBy p cs = [] ↔ ∀ c ∈ cs, p c = true := by
  constructor
  · intro h
    obtain ⟨w, w', hw, hw', hcs⟩ := exists_eq_stripBy p cs
    rw [h, List.append_nil] at hcs
    rw [hcs]
    exact List.forall_mem_append.mpr ⟨hw, hw'⟩
  · intro h
    rw [stripBy_eq, List.dropWhile_eq_nil_iff.mpr h, List.rdropWhile_nil]

theorem stripBy_eq_self (h : ∀ c ∈ cs, p c = false) : stripBy p cs = cs := by
  have drop_eq : ∀ ds : List Char, (∀ c ∈ ds, p c = false) → ds.dropWhile p = ds := by
    intro ds hd
    cases ds with
    | nil => rfl
    | cons c ds => rw [List.dropWhile_cons_of_neg (by simp [hd c])]
  rw [stripBy, drop_eq cs h, drop_eq cs.reverse (fun c hc => h c (List.mem_reverse.mp hc)),
    List.reverse_reverse]

/-- A character that stays cuts a text into two, which are stripped on one side each. -/
theorem stripBy_append_cons (hc : p c = false) (before after : List Char) :
    stripBy p (before ++ c :: after) = before.dropWhile p ++ c :: after.rdropWhile p := by
  have drop_append : ∀ cs ds : List Char,
      (cs ++ c :: ds).dropWhile p = cs.dropWhile p ++ c :: ds := by
    intro cs ds
    rw [List.dropWhile_append]
    split <;> rename_i he
    · rw [List.isEmpty_iff.mp he, List.dropWhile_cons_of_neg (by simp [hc])]
      rfl
    · rfl
  have hr : (before.dropWhile p ++ c :: after).reverse =
      after.reverse ++ c :: (before.dropWhile p).reverse := by
    simp
  rw [stripBy_eq, drop_append, List.rdropWhile, hr, drop_append, List.rdropWhile]
  simp

theorem stripBy_of_ends {d : Char} (hc : p c = false) (hd : p d = false) (cs : List Char) :
    stripBy p (c :: (cs ++ [d])) = c :: (cs ++ [d]) := by
  have h := stripBy_append_cons hc [] (cs ++ [d])
  rwa [List.rdropWhile_concat_neg _ _ _ (by simp [hd])] at h

end

/-! ## Of any script -/

/-- White space and nothing else. -/
def AllBlank (cs : List Char) : Prop := ∀ c ∈ cs, isBlank c = true

instance (cs : List Char) : Decidable (AllBlank cs) := List.decidableBAll _ cs

theorem strip_append_append {w w' : List Char} (hw : AllBlank w) (hw' : AllBlank w')
    (cs : List Char) : strip (w ++ cs ++ w') = strip cs := by
  rw [strip, stripBy_append_right hw', stripBy_append_left hw, strip]

theorem strip_strip (cs : List Char) : strip (strip cs) = strip cs := by
  obtain ⟨w, w', hw, hw', hcs⟩ := exists_eq_stripBy isBlank cs
  have h := strip_append_append hw hw' (strip cs)
  rw [← h]
  exact congrArg strip hcs.symm

theorem exists_eq_strip (cs : List Char) :
    ∃ w w', AllBlank w ∧ AllBlank w' ∧ cs = w ++ strip cs ++ w' :=
  exists_eq_stripBy isBlank cs

theorem strip_eq_nil_iff {cs : List Char} : strip cs = [] ↔ AllBlank cs := stripBy_eq_nil_iff

/-! ## Separators -/

section

variable {sep : Char} {cs before : List Char}

theorem splitFirst_append (h : sep ∉ before) (value : List Char) :
    splitFirst sep (before ++ sep :: value) = some (before, value) := by
  induction before with
  | nil => rw [List.nil_append, splitFirst, if_pos rfl]
  | cons c before ih =>
    obtain ⟨hc, hb⟩ : sep ≠ c ∧ sep ∉ before := by simpa using h
    rw [List.cons_append, splitFirst, if_neg (Ne.symm hc), ih hb]
    rfl

theorem splitFirst_of_notMem (h : sep ∉ cs) : splitFirst sep cs = none := by
  induction cs with
  | nil => rfl
  | cons c cs ih =>
    obtain ⟨hc, hs⟩ : sep ≠ c ∧ sep ∉ cs := by simpa using h
    rw [splitFirst, if_neg (Ne.symm hc), ih hs]
    rfl

/-- A text without a separator, or one that has it behind a part without. -/
theorem notMem_or_exists_split (sep : Char) (cs : List Char) :
    sep ∉ cs ∨ ∃ before after, sep ∉ before ∧ cs = before ++ sep :: after := by
  by_cases h : sep ∈ cs
  · obtain ⟨before, after, hcs, hb⟩ := List.eq_append_cons_of_mem h
    exact .inr ⟨before, after, hb, hcs⟩
  · exact .inl h

end

end Passpoint.Text
