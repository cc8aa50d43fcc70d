import Mathlib.Data.List.Basic
import Passpoint.Proofs.ElementText

/-! The ways to a network. A buffer can be given as octets or spelled in a text, answers can be
there from the start or be filled in later, and lines can be left to a reader of any kind. All ways
come to one network or to one fault, and no line is read before everything else is known to be
sound. -/

namespace Passpoint

/-! ## Buffers in texts -/

/-- The octets of a buffer, written behind anything without an equals sign, are read back. -/
theorem Element.ScanText.parse_hexOfOctets {before : String} (h : '=' ∉ before.toList)
    (data : Octets) : parse (before ++ "=" ++ Text.hexOfOctets data) = .ok data := by
  have ht : (before ++ "=" ++ Text.hexOfOctets data).toList =
      before.toList ++ '=' :: ([] ++ Text.octetsDigits data ++ []) := by
    simp [Text.hexOfOctets]
  rw [parse_eq_ok_iff_spelled, ht]
  exact .octets h nofun (Text.map_toLower_octetsDigits data) nofun

namespace Network

open Anqp (Answers Reader)

/-! ## What is examined before lines are read -/

/-- The address and the findings, with the address examined first. -/
def examined (bssid : Option String) (data : Octets) : Except Fault (Nat × Element.Findings) := do
  let address ← (Address.parse? bssid).mapError .address
  let s ← (Element.scan data).mapError .element
  return (address, s)

/-- The same for a buffer in a text, which is looked at before the address. -/
def examinedText (bssid elements : Option String) : Except Fault (Nat × Element.Findings) := do
  let data ← (Element.ScanText.parse? elements).mapError .text
  examined bssid data

variable {bssid elements : Option String} {data : Octets} {lines : Option (List String)}
variable {address : Nat} {s : Element.Findings}

theorem examined_of_bad_address {f : Address.Fault} (h : Address.parse? bssid = .error f) :
    examined bssid data = .error (.address f) := by
  rw [examined, h]
  rfl

theorem examined_of_bad_buffer {f : Element.Fault} (ha : Address.parse? bssid = .ok address)
    (hs : Element.scan data = .error f) : examined bssid data = .error (.element f) := by
  rw [examined, ha, hs]
  rfl

theorem examined_of_sound (ha : Address.parse? bssid = .ok address)
    (hs : Element.scan data = .ok s) : examined bssid data = .ok (address, s) := by
  rw [examined, ha, hs]
  rfl

theorem examinedText_of_parse (h : Element.ScanText.parse? elements = .ok data) :
    examinedText bssid elements = examined bssid data := by
  rw [examinedText, h]
  rfl

theorem examined_eq_ok_iff :
    examined bssid data = .ok (address, s) ↔
      Address.parse? bssid = .ok address ∧ Element.scan data = .ok s := by
  constructor
  · intro h
    cases ha : Address.parse? bssid with
    | error f => cases h.symm.trans (examined_of_bad_address ha)
    | ok a =>
      cases hs : Element.scan data with
      | error f => cases h.symm.trans (examined_of_bad_buffer ha hs)
      | ok found =>
        cases h.symm.trans (examined_of_sound ha hs)
        exact ⟨rfl, rfl⟩
  · rintro ⟨ha, hs⟩
    exact examined_of_sound ha hs

theorem examinedText_eq_ok_iff :
    examinedText bssid elements = .ok (address, s) ↔
      ∃ data, Element.ScanText.parse? elements = .ok data ∧
        Address.parse? bssid = .ok address ∧ Element.scan data = .ok s := by
  cases ht : Element.ScanText.parse? elements with
  | error f =>
    rw [examinedText, ht]
    exact iff_of_false nofun (by simp)
  | ok data =>
    rw [examinedText_of_parse ht, examined_eq_ok_iff]
    simp

/-- Answers at hand go into the network as they are. -/
theorem ofOctets_eq_map (answers : Answers) :
    ofOctets bssid data answers =
      (examined bssid data).map fun p => ofFindings p.1 p.2 answers := by
  rw [ofOctets, examined]
  cases Address.parse? bssid <;> cases Element.scan data <;> rfl

theorem ofScanText_eq_map (answers : Answers) :
    ofScanText bssid elements answers =
      (examinedText bssid elements).map fun p => ofFindings p.1 p.2 answers := by
  rw [ofScanText, examinedText]
  cases Element.ScanText.parse? elements with
  | error f => rfl
  | ok data => exact ofOctets_eq_map answers

/-! ## Readers -/

section

variable {m : Type → Type} [Monad m] [LawfulMonad m]

theorem run_lift_bind {ε α β : Type} (e : Except ε α) (next : α → ExceptT ε m β) :
    (liftM e >>= next).run = e.casesOn (fun f => pure (.error f)) fun a => (next a).run := by
  have hl : (liftM e : ExceptT ε m α) = ExceptT.mk (pure e) := rfl
  rw [hl, ExceptT.run_bind, ExceptT.run_mk, pure_bind]
  cases e <;> rfl

theorem run_lift_map {ε α β : Type} (f : α → β) (x : m α) :
    (do return f (← x) : ExceptT ε m β).run = (fun a => .ok (f a)) <$> x := by
  simp [Except.map]

/-- What is done about the lines: nothing after a fault, and otherwise the reader is called, once,
and what it gives goes into the network. -/
def readIf (read : Reader m) (lines : Option (List String)) :
    Except Fault (Nat × Element.Findings) → m (Except Fault Network)
  | .error f => pure (.error f)
  | .ok (address, s) => (fun answers => .ok (ofFindings address s answers)) <$> read lines

theorem run_ofOctetsWith (read : Reader m) (bssid : Option String) (data : Octets)
    (lines : Option (List String)) :
    (ofOctetsWith read bssid data lines).run = readIf read lines (examined bssid data) := by
  rw [ofOctetsWith, examined, run_lift_bind]
  cases Address.parse? bssid with
  | error f => rfl
  | ok address =>
    dsimp only [Except.mapError]
    rw [run_lift_bind]
    cases Element.scan data with
    | error f => rfl
    | ok s => exact run_lift_map _ (read lines)

theorem run_ofScanTextWith (read : Reader m) (bssid elements : Option String)
    (lines : Option (List String)) :
    (ofScanTextWith read bssid elements lines).run =
      readIf read lines (examinedText bssid elements) := by
  rw [ofScanTextWith, examinedText, run_lift_bind]
  cases Element.ScanText.parse? elements with
  | error f => rfl
  | ok data => exact run_ofOctetsWith read bssid data lines

/-- The call of a reader is listed behind those before it. -/
theorem run_listed (read : Reader m) (lines : Option (List String))
    (calls : List (Option (List String))) :
    (read.listed lines).run calls = (fun answers => (answers, calls ++ [lines])) <$> read lines := by
  simp [Reader.listed]

theorem run_readIf_listed (read : Reader m) (lines : Option (List String))
    (e : Except Fault (Nat × Element.Findings)) :
    (readIf read.listed lines e).run [] =
      e.casesOn (fun f => pure (.error f, [])) fun p =>
        (fun answers => (.ok (ofFindings p.1 p.2 answers), [lines])) <$> read lines := by
  cases e with
  | error f => rfl
  | ok p =>
    rw [readIf, StateT.run_map, run_listed]
    simp

/-- A run that lists the calls of a reader has called it once, with the lines, and gone on with the
answers, if there are an address and findings for that; if not, it has ended in a fault without a
call. -/
def CallsOnceIf (sound : Nat → Element.Findings → Prop) (read : Reader m)
    (lines : Option (List String))
    (run : m (Except Fault Network × List (Option (List String)))) : Prop :=
  (∀ address s, sound address s →
    run = (fun answers => (.ok (ofFindings address s answers), [lines])) <$> read lines) ∧
  ((¬ ∃ address s, sound address s) → ∃ f, run = pure (.error f, []))

theorem callsOnceIf_readIf (read : Reader m) (lines : Option (List String))
    (e : Except Fault (Nat × Element.Findings)) :
    CallsOnceIf (fun address s => e = .ok (address, s)) read lines
      ((readIf read.listed lines e).run []) := by
  rw [run_readIf_listed]
  constructor
  · rintro address s rfl
    rfl
  · intro hn
    cases e with
    | error f => exact ⟨f, rfl⟩
    | ok p => exact absurd ⟨p.1, p.2, rfl⟩ hn

end

/-! ## All ways -/

/-- The ways from the text of an address, a buffer and lines of answers: by a text that spells the
buffer, by the buffer itself, by what the scan of it has found, and with the answers filled in
later. The first two are there with the usual reader and with answers at hand. -/
def routes (before : String) (bssid : Option String) (data : Octets)
    (lines : Option (List String)) : List (Except Fault Network) :=
  let text := some (before ++ "=" ++ Text.hexOfOctets data)
  let answers := Answers.ofLines? lines
  [Id.run (ofScanTextWith .supplicant bssid text lines).run,
   ofScanText bssid text answers,
   Id.run (ofOctetsWith .supplicant bssid data lines).run,
   ofOctets bssid data answers,
   do
     let address ← (Address.parse? bssid).mapError .address
     let s ← (Element.scan data).mapError .element
     return ofFindings address s answers,
   do
     let n ← Id.run (ofOctetsWith .supplicant bssid data none).run
     return n.complete answers]

theorem readIf_supplicant (lines : Option (List String))
    (e : Except Fault (Nat × Element.Findings)) :
    Id.run (readIf .supplicant lines e) =
      e.map fun p => ofFindings p.1 p.2 (.ofLines? lines) := by
  cases e <;> rfl

/-- Every way comes to what the examination comes to, with the answers put in. -/
theorem eq_map_of_mem_routes {before : String} (h : '=' ∉ before.toList)
    {route : Except Fault Network} (hr : route ∈ routes before bssid data lines) :
    route = (examined bssid data).map fun p => ofFindings p.1 p.2 (.ofLines? lines) := by
  have ht : examinedText bssid (some (before ++ "=" ++ Text.hexOfOctets data)) =
      examined bssid data :=
    examinedText_of_parse (Element.ScanText.parse_hexOfOctets h data)
  simp only [routes, run_ofScanTextWith, run_ofOctetsWith, readIf_supplicant, ofScanText_eq_map, ht,
    List.mem_cons, List.not_mem_nil, or_false] at hr
  rcases hr with rfl | rfl | rfl | rfl | rfl | rfl
  · rfl
  · rfl
  · rfl
  · exact ofOctets_eq_map _
  · exact ofOctets_eq_map _
  · cases examined bssid data <;> rfl

/-- **All ways to a network agree.** From the text of an address, a buffer and lines of answers, all
come to the same network, field for field and with the answers in one order, or to the same fault; a
bad address is reported before a bad buffer. A reader of any kind that is put in for the usual one is
called exactly once, with the given lines, if the text of the elements, the address and the buffer
are all sound, and is not called otherwise. -/
theorem routes_agree {before : String} (h : '=' ∉ before.toList) (bssid : Option String)
    (data : Octets) (lines : Option (List String)) :
    (∃ r, (∀ route ∈ routes before bssid data lines, route = r) ∧
      (∀ f, Address.parse? bssid = .error f → r = .error (.address f)) ∧
      (∀ address f, Address.parse? bssid = .ok address → Element.scan data = .error f →
        r = .error (.element f)) ∧
      ∀ address s, Address.parse? bssid = .ok address → Element.scan data = .ok s →
        r = .ok (ofFindings address s (.ofLines? lines))) ∧
    ∀ (m : Type → Type) [Monad m] [LawfulMonad m] (read : Reader m) (elements : Option String),
      CallsOnceIf
        (fun address s => ∃ data, Element.ScanText.parse? elements = .ok data ∧
          Address.parse? bssid = .ok address ∧ Element.scan data = .ok s)
        read lines ((ofScanTextWith read.listed bssid elements lines).run.run []) ∧
      CallsOnceIf
        (fun address s => Address.parse? bssid = .ok address ∧ Element.scan data = .ok s)
        read lines ((ofOctetsWith read.listed bssid data lines).run.run []) := by
  refine ⟨⟨_, fun _ => eq_map_of_mem_routes h, ?_, ?_, ?_⟩, ?_⟩
  · intro f ha
    rw [examined_of_bad_address ha]
    rfl
  · intro address f ha hs
    rw [examined_of_bad_buffer ha hs]
    rfl
  · intro address s ha hs
    rw [examined_of_sound ha hs]
    rfl
  · intro m _ _ read elements
    rw [run_ofScanTextWith, run_ofOctetsWith]
    constructor
    · simp only [← examinedText_eq_ok_iff]
      exact callsOnceIf_readIf read lines _
    · simp only [← examined_eq_ok_iff]
      exact callsOnceIf_readIf read lines _

/-- A name, and lines of which one repeats a kind of answer and one is no answer. -/
theorem routes_agree_answers :
    let lines := some ["hs20_wan_metrics=01", "anqp_venue_name=02", "other", "hs20_wan_metrics=03"]
    '=' ∉ "ie".toList ∧
    ∃ n : Network,
      (∀ route ∈ routes "ie" (some "61:04:08:62:12:05") [0, 1, 0x61] lines, route = .ok n) ∧
      n.ssid = some "a" ∧
      n.answers.toList = [⟨.wanMetrics, [3]⟩, ⟨.venueName, [2]⟩] ∧
      Id.run ((ofScanTextWith Reader.supplicant.listed (some "61:04:08:62:12:05")
        (some "ie=000161") lines).run.run []) = (.ok n, [lines]) := by
  intro lines
  have h : '=' ∉ "ie".toList := by decide
  have hb : Address.parse? (some "61:04:08:62:12:05") = .ok 0x610408621205 := by decide +kernel
  have hs : Element.scan [0, 1, 0x61] =
      .ok { name := some [0x61], seen := 1, consumed := 3 } := by
    decide +kernel
  have ht : Element.ScanText.parse? (some "ie=000161") = .ok [0, 1, 0x61] := by decide +kernel
  obtain ⟨⟨r, hr, -, -, hok⟩, hread⟩ :=
    routes_agree h (some "61:04:08:62:12:05") [0, 1, 0x61] lines
  cases hok _ _ hb hs
  have hcall := (hread Id .supplicant (some "ie=000161")).1.1 _ _ ⟨_, ht, hb, hs⟩
  exact ⟨h, _, hr, by decide +kernel, by decide +kernel, hcall⟩

end Network

end Passpoint
