import Passpoint.Proofs.AnswerLines

/-! Answers written down and read back. Each answer stands on a line of its own, with any white
space around its parts and between its octets, and between these lines there may be any others that
are no answers. Reading gives the answers, in their order, and one note for each line that is
skipped. -/

namespace Passpoint.Anqp

open Text

/-- `Transcript as ns lines`: the lines say the answers one by one; the others among them are blank,
or skipped with these notes. -/
inductive Transcript : List Answer → List Note → List String → Prop
  | nil : Transcript [] [] []
  | blank {as : List Answer} {ns : List Note} {line : String} {lines : List String}
      (h : AllBlank line.toList) (ht : Transcript as ns lines) : Transcript as ns (line :: lines)
  | skipped {as : List Answer} {n : Note} {ns : List Note} {line : String} {lines : List String}
      (h : Skipped line.toList n) (ht : Transcript as ns lines) :
      Transcript as (n :: ns) (line :: lines)
  | answer {a : Answer} {as : List Answer} {ns : List Note} {line : String} {lines : List String}
      (h : Says line.toList a) (ht : Transcript as ns lines) :
      Transcript (a :: as) ns (line :: lines)

variable {as : List Answer} {ns : List Note} {lines : List String}

theorem Transcript.said_eq (h : Transcript as ns lines) : said lines = as := by
  induction h with
  | nil => rfl
  | blank h _ ih => rw [said_cons, ofLine_of_allBlank h, ih]; rfl
  | skipped h _ ih => rw [said_cons, ofLine_of_skipped h, ih]; rfl
  | answer h _ ih => rw [said_cons, ofLine_of_answer h, ih]; rfl

theorem Transcript.notes_eq (h : Transcript as ns lines) : notesOfLines lines = ns := by
  induction h with
  | nil => rfl
  | blank h _ ih => rw [notesOfLines_cons, ofLine_of_allBlank h, ih]; rfl
  | skipped h _ ih => rw [notesOfLines_cons, ofLine_of_skipped h, ih]; rfl
  | answer h _ ih => rw [notesOfLines_cons, ofLine_of_answer h, ih]; rfl

/-! ## What can be written -/

/-- A supplicant has a name for answers of a kind. -/
def Kind.IsNamed (k : Kind) : Prop := ∃ name, (name, k) ∈ Kind.supplicantNames

theorem isNamed_of_mem_said {a : Answer} (h : a ∈ said lines) : a.kind.IsNamed := by
  obtain ⟨line, -, hs⟩ := mem_said_iff.mp h
  generalize line.toList = cs at hs
  obtain ⟨hn, -, -, -, -, -⟩ := hs
  exact ⟨_, hn⟩

/-- A name, the sign and the digits of the payload are a line of the answer. -/
theorem exists_line {a : Answer} (h : a.kind.IsNamed) : ∃ line : String, Says line.toList a := by
  obtain ⟨name, hn⟩ := h
  have hd : Spells (octetsDigits a.payload) a.payload :=
    spells_of_map_toLower (map_toLower_octetsDigits a.payload)
  have hs : Says ([] ++ name.toList ++ [] ++ '=' :: ([] ++ octetsDigits a.payload ++ [])) a :=
    .answer hn nofun nofun nofun hd nofun
  refine ⟨String.ofList (name.toList ++ '=' :: octetsDigits a.payload), ?_⟩
  rw [String.toList_ofList]
  simpa using hs

theorem exists_transcript (h : ∀ a ∈ as, a.kind.IsNamed) : ∃ lines, Transcript as [] lines := by
  induction as with
  | nil => exact ⟨[], .nil⟩
  | cons a as ih =>
    obtain ⟨ha, has⟩ := List.forall_mem_cons.mp h
    obtain ⟨line, hl⟩ := exists_line ha
    obtain ⟨lines, ht⟩ := ih has
    exact ⟨line :: lines, .answer hl ht⟩

/-- **What is written down is read back.** Lines that say answers of different kinds, however they
are written and whatever lines stand between them that are blank or to be skipped, are read as these
answers, each with its payload and in their order, and the notes are those on the skipped lines.
Answers can be written down exactly if a supplicant has a name for each of their kinds. -/
theorem ofLines_of_transcript (as : Answers) :
    (∀ ns lines, Transcript as.toList ns lines →
      Answers.ofLines lines = as ∧ notesOfLines lines = ns) ∧
    ((∃ ns lines, Transcript as.toList ns lines) ↔ ∀ a ∈ as.toList, a.kind.IsNamed) := by
  refine ⟨fun ns lines h => ⟨?read, h.notes_eq⟩, ?written, ?writable⟩
  case read =>
    calc Answers.ofLines lines
        = Answers.ofList (said lines) := rfl
      _ = Answers.ofList as.toList := by rw [h.said_eq]
      _ = as := Answers.ofList_toList as
  case written =>
    rintro ⟨ns, lines, h⟩ a ha
    exact isNamed_of_mem_said (h.said_eq.symm ▸ ha)
  case writable =>
    intro h
    obtain ⟨lines, ht⟩ := exists_transcript h
    exact ⟨[], lines, ht⟩

/-- Two answers, one without octets, among lines that are blank, foreign or damaged. -/
theorem ofLines_of_transcript_noisy :
    let as : Answers := ⟨[⟨.wanMetrics, [0x01, 0xAB]⟩, ⟨.venueName, []⟩], by decide⟩
    let lines := ["bssid", "\u2003hs20_wan_metrics\t=\u00a001 \taB ", "", "anqp_venue_name=0 1",
      " anqp_venue_name = "]
    let ns := [.noSeparator "bssid", .badPayload "anqp_venue_name"]
    Transcript as.toList ns lines ∧ Answers.ofLines lines = as ∧ notesOfLines lines = ns := by
  intro as lines ns
  have hlast : Spells ['a', 'B'] [0xAB] := spells_of_map_toLower (by decide)
  have hgap : ∀ c ∈ [' ', '\t'], isAsciiBlank c = true := by simp [isAsciiBlank]
  have hd : Spells ['0', '1', ' ', '\t', 'a', 'B'] [0x01, 0xAB] :=
    .cons (by decide) hgap (by simp) hlast
  have hwan : Says "\u2003hs20_wan_metrics\t=\u00a001 \taB ".toList
      ⟨.wanMetrics, [0x01, 0xAB]⟩ := by
    have ht : "\u2003hs20_wan_metrics\t=\u00a001 \taB ".toList =
        ['\u2003'] ++ "hs20_wan_metrics".toList ++ ['\t'] ++
          '=' :: (['\u00a0'] ++ ['0', '1', ' ', '\t', 'a', 'B'] ++ [' ']) := by
      decide +kernel
    exact ht ▸ .answer (by decide) (by decide) (by decide) (by decide) hd (by decide)
  have hvenue : Says " anqp_venue_name = ".toList ⟨.venueName, []⟩ := by
    have ht : " anqp_venue_name = ".toList =
        [' '] ++ "anqp_venue_name".toList ++ [' '] ++ '=' :: ([] ++ [] ++ [' ']) := by
      decide +kernel
    exact ht ▸ .answer (by decide) (by decide) (by decide) (by decide) .nil (by decide)
  have hforeign : Skipped "bssid".toList (.noSeparator "bssid") :=
    .noSeparator (by decide) (by decide)
  have hdamaged : Skipped "anqp_venue_name=0 1".toList (.badPayload "anqp_venue_name") := by
    cases ofLine_eq_iff.mp (by decide +kernel :
      Reading.ofLine "anqp_venue_name=0 1" = .skipped (.badPayload "anqp_venue_name")) with
    | skipped h => exact h
  have ht : Transcript as.toList ns lines :=
    .skipped hforeign (.answer hwan (.blank (by decide) (.skipped hdamaged (.answer hvenue .nil))))
  exact ⟨ht, (ofLines_of_transcript as).1 ns lines ht⟩

end Passpoint.Anqp
