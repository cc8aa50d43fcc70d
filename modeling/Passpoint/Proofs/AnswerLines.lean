import Passpoint.Anqp.Lines
import Passpoint.Proofs.AnswerUpdate
import Passpoint.Proofs.HexText

/-! Lines of answers. A line is blank, or it says an answer, or it is skipped with a note, and it is
only one of these. Lines are read one by one: the notes on two runs of lines are those on the first
and then those on the second, and the answers are those of the first updated by those of the
second. -/

namespace Passpoint.Anqp

open Text

/-! ## Names -/

namespace Kind

theorem ofSupplicantName?_eq_some_iff {name : String} {kind : Kind} :
    ofSupplicantName? name = some kind ↔ (name, kind) ∈ supplicantNames := by
  constructor
  · intro h
    obtain ⟨before, after, hn, -⟩ := List.lookup_eq_some_iff.mp h
    rw [hn]
    exact List.mem_append_right _ List.mem_cons_self
  · have all : ∀ p ∈ supplicantNames, ofSupplicantName? p.1 = some p.2 := by decide +kernel
    exact all (name, kind)

/-- A name has no white space at its ends and no equals sign. -/
theorem strip_name {p : String × Kind} (h : p ∈ supplicantNames) :
    strip p.1.toList = p.1.toList ∧ '=' ∉ p.1.toList := by
  have all : ∀ p ∈ supplicantNames, strip p.1.toList = p.1.toList ∧ '=' ∉ p.1.toList := by
    decide +kernel
  exact all p h

end Kind

/-! ## What a line is -/

/-- `Says cs a`: a name that supplicants use, an equals sign and octets in hexadecimal, with white
space or nothing around the name and around the octets. -/
inductive Says : List Char → Answer → Prop
  | answer {name : String} {w w' v digits v' : List Char} {kind : Kind} {payload : Octets}
      (hn : (name, kind) ∈ Kind.supplicantNames) (hw : AllBlank w) (hw' : AllBlank w')
      (hv : AllBlank v) (hd : Spells digits payload) (hv' : AllBlank v') :
      Says (w ++ name.toList ++ w' ++ '=' :: (v ++ digits ++ v')) ⟨kind, payload⟩

/-- `Skipped cs n`: a line without an equals sign, or with another name in front of it, or with
anything but octets behind it; a note shows no white space in front of the line. -/
inductive Skipped : List Char → Note → Prop
  | noSeparator {cs : List Char} (hb : ¬ AllBlank cs) (h : '=' ∉ cs) :
      Skipped cs (.noSeparator (String.ofList (strip cs)))
  | unknownName {before after : List Char} (hb : '=' ∉ before)
      (hn : ∀ p ∈ Kind.supplicantNames, strip before ≠ p.1.toList) :
      Skipped (before ++ '=' :: after) (.unknownName (String.ofList (before.dropWhile isBlank)))
  | badPayload {before after : List Char} {p : String × Kind} (hb : '=' ∉ before)
      (hp : p ∈ Kind.supplicantNames) (hn : strip before = p.1.toList)
      (hd : ¬ ∃ payload, Spells (strip after) payload) :
      Skipped (before ++ '=' :: after) (.badPayload (String.ofList (before.dropWhile isBlank)))

/-- `Means cs r`: what a line is, by its form. -/
inductive Means : List Char → Reading → Prop
  | blank {cs : List Char} (h : AllBlank cs) : Means cs .blank
  | answer {cs : List Char} {a : Answer} (h : Says cs a) : Means cs (.answer a)
  | skipped {cs : List Char} {n : Note} (h : Skipped cs n) : Means cs (.skipped n)

theorem exists_means (cs : List Char) : ∃ r, Means cs r := by
  rcases notMem_or_exists_split '=' cs with h | ⟨before, after, hb, rfl⟩
  · by_cases hblank : AllBlank cs
    · exact ⟨_, .blank hblank⟩
    · exact ⟨_, .skipped (.noSeparator hblank h)⟩
  · by_cases hn : ∃ p ∈ Kind.supplicantNames, strip before = p.1.toList
    · obtain ⟨p, hp, hn⟩ := hn
      by_cases hd : ∃ payload, Spells (strip after) payload
      · obtain ⟨payload, hd⟩ := hd
        obtain ⟨w, w', hw, hw', hbefore⟩ := exists_eq_strip before
        obtain ⟨v, v', hv, hv', hafter⟩ := exists_eq_strip after
        rw [hbefore, hafter, hn]
        exact ⟨_, .answer (.answer hp hw hw' hv hd hv')⟩
      · exact ⟨_, .skipped (.badPayload hb hp hn hd)⟩
    · exact ⟨_, .skipped (.unknownName hb (by simpa using hn))⟩

/-! ## Reading a line -/

variable {line : String} {before after : List Char} {a : Answer} {n : Note} {r : Reading}

theorem ofLine_of_allBlank (h : AllBlank line.toList) : Reading.ofLine line = .blank := by
  rw [Reading.ofLine, strip_eq_nil_iff.mpr h]
  rfl

theorem ofLine_of_notMem (hb : ¬ AllBlank line.toList) (h : '=' ∉ line.toList) :
    Reading.ofLine line = .skipped (.noSeparator (String.ofList (strip line.toList))) := by
  have he : (strip line.toList).isEmpty = false := by
    rw [List.isEmpty_eq_false_iff, ne_eq, strip_eq_nil_iff]
    exact hb
  have hs : '=' ∉ strip line.toList := by
    obtain ⟨w, w', -, -, hcs⟩ := exists_eq_strip line.toList
    intro hm
    rw [hcs] at h
    exact h (by simp [hm])
  rw [Reading.ofLine, he, splitFirst_of_notMem hs]
  rfl

/-- What stands on the two sides of the first equals sign is read by itself. -/
theorem ofLine_of_split (ht : line.toList = before ++ '=' :: after) (hb : '=' ∉ before) :
    Reading.ofLine line =
      match Kind.ofSupplicantName? (String.ofList (strip before)) with
      | none => .skipped (.unknownName (String.ofList (before.dropWhile isBlank)))
      | some kind =>
        match readOctets (strip after) with
        | .error _ => .skipped (.badPayload (String.ofList (before.dropWhile isBlank)))
        | .ok payload => .answer ⟨kind, payload⟩ := by
  have hs : strip line.toList = before.dropWhile isBlank ++ '=' :: after.rdropWhile isBlank := by
    rw [ht]
    exact stripBy_append_cons (by decide) before after
  have hd : '=' ∉ before.dropWhile isBlank := fun hm => hb (List.dropWhile_subset _ hm)
  have he : (before.dropWhile isBlank ++ '=' :: after.rdropWhile isBlank).isEmpty = false := by
    simp
  have hname : strip (before.dropWhile isBlank) = strip before := stripBy_dropWhile isBlank before
  have hvalue : strip (after.rdropWhile isBlank) = strip after := stripBy_rdropWhile isBlank after
  rw [Reading.ofLine, hs, he, splitFirst_append hd]
  simp only [hname, hvalue]
  rfl

theorem ofLine_of_answer (h : Says line.toList a) : Reading.ofLine line = .answer a := by
  generalize ht : line.toList = cs at h
  obtain @⟨name, w, w', v, digits, v', kind, payload, hn, hw, hw', hv, hd, hv'⟩ := h
  obtain ⟨hstrip, hname⟩ := Kind.strip_name hn
  have hnot : ∀ {u : List Char}, AllBlank u → '=' ∉ u := fun hu hm => by
    have := hu _ hm
    revert this
    decide
  have hb : '=' ∉ w ++ name.toList ++ w' := by
    simp only [List.mem_append, not_or]
    exact ⟨⟨hnot hw, hname⟩, hnot hw'⟩
  have hkind : Kind.ofSupplicantName? (String.ofList (strip (w ++ name.toList ++ w'))) =
      some kind := by
    rw [strip_append_append hw hw', hstrip, String.ofList_toList]
    exact Kind.ofSupplicantName?_eq_some_iff.mpr hn
  have hpayload : readOctets (strip (v ++ digits ++ v')) = .ok payload := by
    rw [readOctets_strip_eq_ok_iff, strip_append_append hv hv', hd.strip_eq]
    exact hd
  rw [ofLine_of_split ht hb, hkind]
  simp only [hpayload]

theorem ofLine_of_skipped (h : Skipped line.toList n) : Reading.ofLine line = .skipped n := by
  generalize ht : line.toList = cs at h
  cases h with
  | noSeparator hb h =>
    subst ht
    exact ofLine_of_notMem hb h
  | @unknownName before after hb hn =>
    have hkind : Kind.ofSupplicantName? (String.ofList (strip before)) = none := by
      cases hk : Kind.ofSupplicantName? (String.ofList (strip before)) with
      | none => rfl
      | some kind =>
        have hne := hn _ (Kind.ofSupplicantName?_eq_some_iff.mp hk)
        rw [String.toList_ofList] at hne
        exact absurd rfl hne
    rw [ofLine_of_split ht hb, hkind]
  | @badPayload before after p hb hp hn hd =>
    have hkind : Kind.ofSupplicantName? (String.ofList (strip before)) = some p.2 := by
      rw [hn, String.ofList_toList]
      exact Kind.ofSupplicantName?_eq_some_iff.mpr hp
    cases hr : readOctets (strip after) with
    | ok payload => exact absurd ⟨payload, readOctets_strip_eq_ok_iff.mp hr⟩ hd
    | error pos =>
      rw [ofLine_of_split ht hb, hkind]
      simp only [hr]

theorem ofLine_of_means (h : Means line.toList r) : Reading.ofLine line = r := by
  cases h with
  | blank h => exact ofLine_of_allBlank h
  | answer h => exact ofLine_of_answer h
  | skipped h => exact ofLine_of_skipped h

/-- A line is read as what it is. -/
theorem ofLine_eq_iff : Reading.ofLine line = r ↔ Means line.toList r := by
  refine ⟨fun h => ?_, ofLine_of_means⟩
  obtain ⟨r', hr⟩ := exists_means line.toList
  rwa [← h, ofLine_of_means hr]

theorem existsUnique_means (line : String) : ∃! r, Means line.toList r :=
  ⟨Reading.ofLine line, ofLine_eq_iff.mp rfl, fun _ h => (ofLine_eq_iff.mpr h).symm⟩

theorem answer?_ofLine_eq_some_iff :
    (Reading.ofLine line).answer? = some a ↔ Says line.toList a := by
  constructor
  · intro h
    obtain ⟨r, hm⟩ := exists_means line.toList
    rw [ofLine_of_means hm] at h
    cases hm with
    | blank => cases h
    | skipped => cases h
    | answer hs =>
      cases h
      exact hs
  · intro h
    rw [ofLine_of_answer h]
    rfl

/-! ## Reading lines -/

variable {lines more : List String} {k : Kind}

/-- The answers that lines say, in their order. -/
def said (lines : List String) : List Answer :=
  lines.filterMap fun l => (Reading.ofLine l).answer?

theorem said_append (lines more : List String) : said (lines ++ more) = said lines ++ said more :=
  List.filterMap_append

theorem said_cons (line : String) (lines : List String) :
    said (line :: lines) = (Reading.ofLine line).answer?.toList ++ said lines := by
  rw [said, List.filterMap_cons]
  cases (Reading.ofLine line).answer? <;> rfl

theorem mem_said_iff : a ∈ said lines ↔ ∃ l ∈ lines, Says l.toList a := by
  simp only [said, List.mem_filterMap, answer?_ofLine_eq_some_iff]

theorem ofLines_append (lines more : List String) :
    Answers.ofLines (lines ++ more) = (Answers.ofLines lines).update (.ofLines more) := by
  have h := Answers.ofList_append (said lines) (said more)
  rwa [← said_append] at h

theorem notesOfLines_append (lines more : List String) :
    notesOfLines (lines ++ more) = notesOfLines lines ++ notesOfLines more :=
  List.filterMap_append

theorem notesOfLines_cons (line : String) (lines : List String) :
    notesOfLines (line :: lines) = (Reading.ofLine line).note?.toList ++ notesOfLines lines := by
  rw [notesOfLines, List.filterMap_cons]
  cases (Reading.ofLine line).note? <;> rfl

/-- A line that is no answer leaves the answers as they are. -/
theorem ofLines_insert_of_none (h : (Reading.ofLine line).answer? = none)
    (lines more : List String) :
    Answers.ofLines (lines ++ line :: more) = Answers.ofLines (lines ++ more) := by
  have hs : said (lines ++ line :: more) = said (lines ++ more) := by
    rw [said_append, said_cons, h, said_append]
    rfl
  exact congrArg Answers.ofList hs

theorem ofLines_insert_of_answer (h : Says line.toList a) (lines more : List String) :
    Answers.ofLines (lines ++ line :: more) =
      ((Answers.ofLines lines).put a).update (.ofLines more) := by
  have hs : said (lines ++ line :: more) = (said lines ++ [a]) ++ said more := by
    rw [said_append, said_cons, ofLine_of_answer h, List.append_assoc]
    rfl
  have hl := Answers.ofList_append (said lines ++ [a]) (said more)
  rwa [← hs, Answers.ofList_concat] at hl

/-- `LastSays lines a`: a line says the answer, and no line behind it says one of that kind. -/
def LastSays (lines : List String) (a : Answer) : Prop :=
  ∃ before line after, lines = before ++ line :: after ∧ Says line.toList a ∧
    ∀ l ∈ after, ∀ b, Says l.toList b → b.kind ≠ a.kind

theorem lastSays_iff : LastSays lines a ↔ (said lines).findRev? (·.kind = a.kind) = some a := by
  rw [findRev?_eq_some_iff_append]
  constructor
  · rintro ⟨before, line, after, rfl, hs, hafter⟩
    refine ⟨by simp, said before, said after, ?_, fun b hb => ?_⟩
    · rw [said_append, said_cons, ofLine_of_answer hs]
      rfl
    · obtain ⟨l, hl, hb⟩ := mem_said_iff.mp hb
      simpa using hafter l hl b hb
  · rintro ⟨-, before, after, hsaid, hafter⟩
    obtain ⟨front, back, rfl, -, hback⟩ := List.filterMap_eq_append_iff.mp hsaid
    obtain ⟨quiet, line, rest, rfl, -, hline, rfl⟩ := List.filterMap_eq_cons_iff.mp hback
    refine ⟨front ++ quiet, line, rest, by simp, answer?_ofLine_eq_some_iff.mp hline, ?_⟩
    exact fun l hl b hb => by simpa using hafter b (mem_said_iff.mpr ⟨l, hl, hb⟩)

theorem get?_ofLines_eq_some_iff :
    (Answers.ofLines lines).get? k = some a ↔ a.kind = k ∧ LastSays lines a := by
  have hget : (Answers.ofLines lines).get? k = (said lines).findRev? (·.kind = k) :=
    (Answers.collected_ofList (said lines)).get? k
  constructor
  · intro h
    have hk := Answers.kind_of_get? h
    subst hk
    exact ⟨rfl, lastSays_iff.mpr (hget ▸ h)⟩
  · rintro ⟨rfl, h⟩
    exact hget.trans (lastSays_iff.mp h)

/-- **Lines are read one by one, and of a kind the last answer counts.** The reader never fails.
What two runs of lines come to is the first updated by the second: a kind that is there keeps its
place and takes the later answer, and new kinds follow in their order; the notes follow one another
too. Each line is just one thing: blank, which leaves no trace; an answer, which takes its place
without a note; or skipped, which leaves one warning and no other trace. The answer that stands for
a kind is that of the last line that says one of this kind. -/
theorem ofLines_reads_one_by_one (lines more : List String) :
    (∀ (m : Type → Type) [Pure m], (Reader.supplicant (some (lines ++ more)) : m Answers) =
      pure ((Answers.ofLines lines).update (.ofLines more))) ∧
    (Answers.ofLines (lines ++ more)).kinds = (Answers.ofLines lines).kinds ++
      (Answers.ofLines more).kinds.filter (· ∉ (Answers.ofLines lines).kinds) ∧
    (∀ k, (Answers.ofLines (lines ++ more)).get? k =
      ((Answers.ofLines more).get? k).or ((Answers.ofLines lines).get? k)) ∧
    notesOfLines (lines ++ more) = notesOfLines lines ++ notesOfLines more ∧
    (∀ line : String, ∃! r, Means line.toList r) ∧
    (∀ line : String, AllBlank line.toList →
      Answers.ofLines (lines ++ line :: more) = Answers.ofLines (lines ++ more) ∧
      notesOfLines (lines ++ line :: more) = notesOfLines (lines ++ more)) ∧
    (∀ (line : String) (a : Answer), Says line.toList a →
      Answers.ofLines (lines ++ line :: more) =
        ((Answers.ofLines lines).put a).update (.ofLines more) ∧
      notesOfLines (lines ++ line :: more) = notesOfLines (lines ++ more)) ∧
    (∀ (line : String) (n : Note), Skipped line.toList n →
      Answers.ofLines (lines ++ line :: more) = Answers.ofLines (lines ++ more) ∧
      notesOfLines (lines ++ line :: more) = notesOfLines lines ++ n :: notesOfLines more ∧
      n.line.level = .warning) ∧
    ∀ k a, (Answers.ofLines lines).get? k = some a ↔ a.kind = k ∧ LastSays lines a := by
  refine ⟨?reader, ?kinds, ?answers, notesOfLines_append lines more, existsUnique_means, ?blank,
    ?answer, ?skipped, fun _ _ => get?_ofLines_eq_some_iff⟩
  case reader =>
    intro m _
    rw [← ofLines_append]
    rfl
  case kinds => rw [ofLines_append, Answers.kinds_update]
  case answers =>
    intro k
    rw [ofLines_append, Answers.get?_update]
  case blank =>
    intro line h
    have hr := ofLine_of_allBlank h
    refine ⟨ofLines_insert_of_none (by rw [hr]; rfl) lines more, ?_⟩
    rw [notesOfLines_append, notesOfLines_cons, hr, notesOfLines_append]
    rfl
  case answer =>
    intro line a h
    refine ⟨ofLines_insert_of_answer h lines more, ?_⟩
    rw [notesOfLines_append, notesOfLines_cons, ofLine_of_answer h, notesOfLines_append]
    rfl
  case skipped =>
    intro line n h
    have hr := ofLine_of_skipped h
    refine ⟨ofLines_insert_of_none (by rw [hr]; rfl) lines more, ?_, rfl⟩
    rw [notesOfLines_append, notesOfLines_cons, hr]
    rfl

/-- Two runs that answer one kind each, the second once badly; a wide space, a foreign name and one
more answer between them. -/
theorem ofLines_reads_one_by_one_mixed :
    let lines := ["\ths20_wan_metrics = 01", "anqp_venue_name=0a 0B"]
    let more := ["hs20_wan_metrics=03", "hs20_wan_metrics=0 4", "anqp_domain_name="]
    AllBlank "\u3000".toList ∧ Says "anqp_3gpp=fF".toList ⟨.cellularNetwork, [0xFF]⟩ ∧
    Skipped " x =00".toList (.unknownName "x ") ∧
    (Answers.ofLines (lines ++ more)).kinds = [.wanMetrics, .venueName, .domainName] ∧
    (Answers.ofLines (lines ++ more)).get? .wanMetrics = some ⟨.wanMetrics, [3]⟩ ∧
    notesOfLines (lines ++ " x =00" :: more) =
      [.unknownName "x ", .badPayload "hs20_wan_metrics"] ∧
    Answers.ofLines (lines ++ " x =00" :: more) = Answers.ofLines (lines ++ "\u3000" :: more) ∧
    (Answers.ofLines (lines ++ "anqp_3gpp=fF" :: more)).kinds =
      [.wanMetrics, .venueName, .cellularNetwork, .domainName] ∧
    LastSays more ⟨.wanMetrics, [3]⟩ := by
  intro lines more
  have hblank : AllBlank "\u3000".toList := by decide
  have hsaid : Says "anqp_3gpp=fF".toList ⟨.cellularNetwork, [0xFF]⟩ :=
    answer?_ofLine_eq_some_iff.mp (by decide +kernel)
  have hskipped : Skipped " x =00".toList (.unknownName "x ") := by
    have hr : Reading.ofLine " x =00" = .skipped (.unknownName "x ") := by decide +kernel
    cases ofLine_eq_iff.mp hr with
    | skipped h => exact h
  obtain ⟨-, hkinds, hget, -, -, hb, ha, hs, -⟩ := ofLines_reads_one_by_one lines more
  obtain ⟨hquiet, hnotes, -⟩ := hs _ _ hskipped
  have hlast := ((ofLines_reads_one_by_one more []).2.2.2.2.2.2.2.2 .wanMetrics
    ⟨.wanMetrics, [3]⟩).mp (by decide +kernel)
  refine ⟨hblank, hsaid, hskipped, hkinds.trans (by decide +kernel), (hget _).trans (by
    decide +kernel), hnotes.trans (by decide +kernel), hquiet.trans (hb _ hblank).1.symm, ?_,
    hlast.2⟩
  rw [(ha _ _ hsaid).1]
  decide +kernel

end Passpoint.Anqp
