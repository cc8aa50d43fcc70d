import Passpoint.Proofs.AnswerLines
import Passpoint.Proofs.CommandLine
import Passpoint.Proofs.PlainLine
import Passpoint.Proofs.Utf8

/-! Files of answers and how their lines end. Each line may end in LF, CR LF or CR, and the last one
in nothing. What is read back are the lines that were written, but for empty ones: a CR in front of
an empty line with an LF reads like one end, and an empty line at the end leaves no trace. Since a
blank line says nothing, the command that describes one network comes to the same for all of these
files. -/

namespace Passpoint

namespace Text

/-! ## Lines that are written -/

/-- How a line ends in a file. -/
inductive LineEnd where
  | lf
  | crlf
  | cr

def LineEnd.chars : LineEnd → List Char
  | .lf => ['\n']
  | .crlf => ['\r', '\n']
  | .cr => ['\r']

/-- The characters at which a text is cut into lines. -/
def boundaries : List Char :=
  ['\n', '\x0b', '\x0c', '\r', '\x1c', '\x1d', '\x1e', '\u0085', '\u2028', '\u2029']

/-- A text that is one line. -/
def IsUnbroken (cs : List Char) : Prop := ∀ c ∈ cs, c ∉ boundaries

instance (cs : List Char) : Decidable (IsUnbroken cs) := List.decidableBAll _ cs

/-- `Written lines cs`: the lines one after another, each with an end of its own. The last one may
lack it. -/
inductive Written : List (List Char) → List Char → Prop
  | none : Written [] []
  | last (l : List Char) : Written [l] l
  | line {lines : List (List Char)} {cs : List Char} (l : List Char) (e : LineEnd)
      (h : Written lines cs) : Written (l :: lines) (l ++ e.chars ++ cs)

theorem isLineBreak_eq_false {c : Char} (h : c ∉ boundaries) : isLineBreak c = false := by
  have hne : ∀ b ∈ boundaries, c.toNat ≠ b.toNat := by
    intro b hb he
    rw [Char.toNat_inj.mp he] at h
    exact h hb
  simp only [boundaries, List.forall_mem_cons, List.not_mem_nil, false_imp_iff, implies_true,
    and_true, Char.reduceToNat] at hne
  unfold isLineBreak
  simp only [Bool.or_eq_false_iff, Bool.and_eq_false_iff, decide_eq_false_iff_not]
  omega

theorem ne_cr_of_notMem {c : Char} (h : c ∉ boundaries) : c ≠ '\r' := by
  rintro rfl
  exact h (by simp [boundaries])

theorem isUnbroken_cons {c : Char} {l : List Char} :
    IsUnbroken (c :: l) ↔ c ∉ boundaries ∧ IsUnbroken l := List.forall_mem_cons

/-! ## Uniform ends -/

theorem uniformBreaks_cons {c : Char} (h : c ≠ '\r') (cs : List Char) :
    uniformBreaks (c :: cs) = c :: uniformBreaks cs := by
  rw [uniformBreaks]
  · intro _ hc _
    exact h hc
  · intro hc
    exact h hc

theorem uniformBreaks_append {l : List Char} (h : IsUnbroken l) (cs : List Char) :
    uniformBreaks (l ++ cs) = l ++ uniformBreaks cs := by
  induction l with
  | nil => rfl
  | cons c l ih =>
    obtain ⟨hc, hl⟩ := isUnbroken_cons.mp h
    rw [List.cons_append, uniformBreaks_cons (ne_cr_of_notMem hc), ih hl, List.cons_append]

/-! ## Lines that are read -/

variable {l : List Char}

theorem splitLines_go_append (h : IsUnbroken l) (front cs : List Char) :
    splitLines.go front (l ++ cs) = splitLines.go (l.reverse ++ front) cs := by
  induction l generalizing front with
  | nil => rfl
  | cons c l ih =>
    obtain ⟨hc, hl⟩ := isUnbroken_cons.mp h
    rw [List.cons_append, splitLines.go, if_neg (by simp [isLineBreak_eq_false hc]), ih hl]
    · simp
    · intro _ hr _
      exact ne_cr_of_notMem hc hr

/-- A line with an LF behind it is cut off. -/
theorem splitLines_append_lf (h : IsUnbroken l) (cs : List Char) :
    splitLines (l ++ '\n' :: cs) = l :: splitLines cs := by
  rw [splitLines, splitLines_go_append h, splitLines.go, if_pos (by decide)]
  · simp [splitLines]
  · intro _ hr _
    exact absurd hr (by decide)

theorem splitLines_of_isUnbroken (h : IsUnbroken l) :
    splitLines l = if l = [] then [] else [l] := by
  have hg := splitLines_go_append h [] []
  rw [List.append_nil] at hg
  rw [splitLines, hg, splitLines.go]
  simp

/-- Whatever a line ends in, it is read in front of those behind it, but for empty lines. -/
theorem filter_splitLines_line (h : IsUnbroken l) (e : LineEnd) (cs : List Char) :
    (splitLines (l ++ uniformBreaks (e.chars ++ cs))).filter (· ≠ []) =
      (l :: splitLines (uniformBreaks cs)).filter (· ≠ []) := by
  have hlf : uniformBreaks ('\n' :: cs) = '\n' :: uniformBreaks cs :=
    uniformBreaks_cons (by decide) cs
  cases e with
  | lf =>
    change (splitLines (l ++ uniformBreaks ('\n' :: cs))).filter _ = _
    rw [hlf, splitLines_append_lf h]
  | crlf =>
    change (splitLines (l ++ uniformBreaks ('\r' :: '\n' :: cs))).filter _ = _
    rw [uniformBreaks, splitLines_append_lf h]
  | cr =>
    change (splitLines (l ++ uniformBreaks ('\r' :: cs))).filter _ = _
    by_cases hn : ∃ ds, cs = '\n' :: ds
    · -- The two make one end, and the empty line between them is lost.
      obtain ⟨ds, rfl⟩ := hn
      have hds : uniformBreaks ('\n' :: ds) = [] ++ '\n' :: uniformBreaks ds :=
        uniformBreaks_cons (by decide) ds
      rw [uniformBreaks, splitLines_append_lf h, hds, splitLines_append_lf (l := []) nofun]
      simp [List.filter_cons]
    · rw [uniformBreaks, splitLines_append_lf h]
      intro ds hds
      exact hn ⟨ds, hds⟩

/-- **A text has the lines that were written, but for empty ones.** -/
theorem Written.filter_splitLines {lines : List (List Char)} {cs : List Char}
    (h : Written lines cs) (hl : ∀ l ∈ lines, IsUnbroken l) :
    (splitLines (uniformBreaks cs)).filter (· ≠ []) = lines.filter (· ≠ []) := by
  induction h with
  | none => rfl
  | last l =>
    have hu : IsUnbroken l := hl l List.mem_cons_self
    have hb := uniformBreaks_append hu []
    rw [List.append_nil, uniformBreaks, List.append_nil] at hb
    rw [hb, splitLines_of_isUnbroken hu]
    split
    · subst l
      rfl
    · rfl
  | line l e _ ih =>
    obtain ⟨hu, hl⟩ := List.forall_mem_cons.mp hl
    rw [List.append_assoc, uniformBreaks_append hu, filter_splitLines_line hu, List.filter_cons,
      List.filter_cons, ih hl]

end Text

open Text (IsUnbroken LineEnd Written)

/-! ## Answers -/

/-- Empty lines say nothing. -/
theorem Anqp.ofLines_filter (ls : List (List Char)) :
    Answers.ofLines ((ls.filter (· ≠ [])).map String.ofList) =
      Answers.ofLines (ls.map String.ofList) := by
  have hs : said ((ls.filter (· ≠ [])).map String.ofList) = said (ls.map String.ofList) := by
    induction ls with
    | nil => rfl
    | cons l ls ih =>
      by_cases hl : l = []
      · have hb : (Reading.ofLine (String.ofList l)).answer? = none := by
          rw [ofLine_of_allBlank (by simp [hl, Text.AllBlank])]
          rfl
        rw [List.filter_cons_of_neg (by simp [hl]), List.map_cons, said_cons, hb, ih]
        rfl
      · rw [List.filter_cons_of_pos (by simp [hl]), List.map_cons, List.map_cons, said_cons,
          said_cons, ih]
  exact congrArg Answers.ofList hs

theorem Text.Written.ofLines_linesOf {lines : List String} {cs : List Char}
    (h : Written (lines.map String.toList) cs) (hl : ∀ l ∈ lines, IsUnbroken l.toList) :
    Anqp.Answers.ofLines (Command.linesOf (Text.uniformBreaks cs)) = .ofLines lines := by
  have hf := h.filter_splitLines (by simpa using hl)
  rw [Command.linesOf, ← Anqp.ofLines_filter, hf, Anqp.ofLines_filter, List.map_map]
  simp [Function.comp_def]

namespace Command

open Text.Terminal (HoldsSequence IsPlain isFinal isIntermediate isParameter)

/-! ## The command -/

theorem decodeText_encode (cs : List Char) :
    Settings.decodeText (Text.Utf8.encode cs) = .ok (Text.uniformBreaks cs) := by
  rw [Settings.decodeText, Text.Utf8.decode_eq_ok_iff.mpr rfl]
  rfl

/-- An empty line between two answers, whose end is lost; and no end behind the second. -/
def mixedEnds : List Char := "anqp_3gpp=0a\r\nhs20_wan_metrics=01".toList

/-- A file of answers with these ends. -/
def mixedFolder : Folder := ({} : Folder).put "a.txt" (.file (Text.Utf8.encode mixedEnds))

theorem readable_mixedFolder : Readable mixedFolder "a.txt" (Text.Utf8.encode mixedEnds) :=
  readable_put (by decide) (by decide) (by decide) (by decide) (by decide) {} _

/-- The network of these answers and two texts. -/
def mixedNetwork : Network :=
  { ssid := some "a", bssid := 0x001122334455,
    answers := ⟨[⟨.cellularNetwork, [0x0A]⟩, ⟨.wanMetrics, [0x01]⟩], by decide⟩ }

/-- A network whose name is a control sequence. -/
def brightNetwork : Network := { ssid := some "\x1b[1m", bssid := 0x001122334455 }

theorem holdsSequence_brightNetwork : HoldsSequence brightNetwork.line.toList := by
  have hp : ∀ c ∈ ['1'], isParameter c = true := List.forall_mem_singleton.mpr (by decide)
  have hi : ∀ c ∈ ([] : List Char), isIntermediate c = true := nofun
  have hl : isFinal 'm' = true := by decide
  have hn : brightNetwork.nameText.toList = ['\x1b', '[', '1', 'm'] := by decide
  refine Network.holdsSequence_line ⟨_, .mk hp hi hl, ?_⟩
  rw [hn]
  exact List.infix_rfl

end Command

end Passpoint
