import Passpoint.Proofs.AddressText
import Passpoint.Report.Json

/-! The text of a report tells what is reported: no two values have one text, in whatever layout. A
value is legible, which is to say that its text is no other value's, and that one sees where it ends
as long as no digit follows. -/

namespace Passpoint.Report.Json

/-! ## Characters -/

def readUnit? : List Char → Option (Nat × List Char)
  | a :: b :: c :: d :: rest => do
    let n := 4096 * (← Text.hexValue? a) + 256 * (← Text.hexValue? b) +
      16 * (← Text.hexValue? c) + (← Text.hexValue? d)
    return (n, rest)
  | _ => none

/-- What stands behind a backslash for a character. -/
def escapes : List (Char × Char) :=
  [('\x22', '\x22'), ('\\', '\\'), ('n', '\n'), ('r', '\r'), ('t', '\t'), ('f', '\x0c'),
   ('b', '\x08')]

/-- The first half of a pair says that a second one follows. -/
def readNumber? (cs : List Char) : Option (Char × List Char) := do
  let (high, rest) ← readUnit? cs
  if high < 0xD800 ∨ 0xDC00 ≤ high then return (Char.ofNat high, rest)
  let (low, rest) ← readUnit? (rest.drop 2)
  return (Char.ofNat (0x10000 + (high - 0xD800) * 0x400 + (low - 0xDC00)), rest)

/-- One character of a quoted text, and what follows it. -/
def readChar? : List Char → Option (Char × List Char)
  | '\\' :: 'u' :: rest => readNumber? rest
  | '\\' :: e :: rest => (escapes.lookup e).map fun c => (c, rest)
  | c :: rest => some (c, rest)
  | [] => none

theorem readUnit?_unit {n : Nat} (h : n < 0x10000) (rest : List Char) :
    readUnit? ((unit n ++ rest).drop 2) = some (n, rest) := by
  have hd : ∀ k : Nat, Text.hexValue? (Text.hexDigit (k % 16)) = some (k % 16) := fun k =>
    Text.hexValue?_hexDigit (Nat.mod_lt k (by decide))
  have hn : 4096 * (n / 4096 % 16) + 256 * (n / 256 % 16) + 16 * (n / 16 % 16) + n % 16 = n := by
    omega
  simp [unit, readUnit?, hd, hn]

theorem readChar?_unit (n : Nat) (rest : List Char) :
    readChar? (unit n ++ rest) = readNumber? ((unit n ++ rest).drop 2) := rfl

theorem readChar?_of_ne {c : Char} (h : c ≠ '\\') (rest : List Char) :
    readChar? (c :: rest) = some (c, rest) := by
  rw [readChar?.eq_def]
  split
  next he => exact absurd (List.cons.inj he).1 h
  next he => exact absurd (List.cons.inj he).1 h
  next he =>
    obtain ⟨rfl, rfl⟩ := List.cons.inj he
    rfl
  next he => cases he

/-- A character that needs no pair. -/
theorem readChar?_single {n : Nat} (h : n < 0xD800 ∨ 0xDC00 ≤ n) (hn : n < 0x10000)
    (rest : List Char) : readChar? (unit n ++ rest) = some (Char.ofNat n, rest) := by
  rw [readChar?_unit, readNumber?, readUnit?_unit hn]
  exact if_pos h

theorem readChar?_pair {high low : Nat} (hh : 0xD800 ≤ high ∧ high < 0xDC00) (hl : low < 0x10000)
    (rest : List Char) :
    readChar? (unit high ++ unit low ++ rest) =
      some (Char.ofNat (0x10000 + (high - 0xD800) * 0x400 + (low - 0xDC00)), rest) := by
  have hn : ¬ (high < 0xD800 ∨ 0xDC00 ≤ high) := by omega
  rw [List.append_assoc, readChar?_unit, readNumber?, readUnit?_unit (by omega)]
  simp only [Option.bind_eq_bind, Option.bind_some, if_neg hn]
  rw [readUnit?_unit hl]
  rfl

/-- Every character is read back as it was written, and nothing of what follows. -/
theorem readChar?_charText (c : Char) (rest : List Char) :
    readChar? (charText c ++ rest) = some (c, rest) := by
  have hc : Char.ofNat c.toNat = c := Char.ofNat_toNat c
  have hv : c.toNat < 0xD800 ∨ 0xDFFF < c.toNat ∧ c.toNat < 0x110000 := c.valid
  rw [charText]
  -- Seven characters have an escape of their own.
  iterate 7
    split
    next h =>
      rw [← hc, h]
      rfl
  split
  next hb _ _ _ _ _ _ =>
    have hne : c ≠ '\\' := fun h => hb (congrArg Char.toNat h)
    exact readChar?_of_ne hne rest
  split
  next h => rw [readChar?_single (by omega) h, hc]
  next h =>
    have hn : 0x10000 + (0xD800 + (c.toNat - 0x10000) / 0x400 - 0xD800) * 0x400 +
        (0xDC00 + (c.toNat - 0x10000) % 0x400 - 0xDC00) = c.toNat := by
      omega
    rw [readChar?_pair (by omega) (by omega), hn, hc]

theorem charText_append_inj {c d : Char} {r r' : List Char}
    (h : charText c ++ r = charText d ++ r') : c = d ∧ r = r' := by
  have hr := readChar?_charText c r
  rw [h, readChar?_charText] at hr
  obtain ⟨hc, hr⟩ := Prod.mk.inj (Option.some.inj hr)
  exact ⟨hc.symm, hr.symm⟩

/-- No character is written like the mark at the end of a text. -/
theorem charText_append_ne (c : Char) (r r' : List Char) : charText c ++ r ≠ '\x22' :: r' := by
  intro h
  have hr := readChar?_charText c r
  rw [h, readChar?_of_ne (by decide)] at hr
  obtain ⟨rfl, rfl⟩ := Prod.mk.inj (Option.some.inj hr)
  simp [charText] at h

/-- A quoted text is no other's, and one sees where it ends. -/
theorem quote_append_inj {s t : String} {r r' : List Char} (h : quote s ++ r = quote t ++ r') :
    s = t ∧ r = r' := by
  have hbody : ∀ cs ds : List Char,
      cs.flatMap charText ++ '\x22' :: r = ds.flatMap charText ++ '\x22' :: r' →
        cs = ds ∧ r = r' := by
    intro cs
    induction cs with
    | nil =>
      intro ds hd
      cases ds with
      | nil => exact ⟨rfl, (List.cons.inj hd).2⟩
      | cons d ds =>
        rw [List.flatMap_cons, List.append_assoc] at hd
        exact absurd hd.symm (charText_append_ne d _ _)
    | cons c cs ih =>
      intro ds hd
      rw [List.flatMap_cons, List.append_assoc] at hd
      cases ds with
      | nil => exact absurd hd (charText_append_ne c _ _)
      | cons d ds =>
        rw [List.flatMap_cons, List.append_assoc] at hd
        obtain ⟨rfl, htail⟩ := charText_append_inj hd
        obtain ⟨rfl, hr⟩ := ih ds htail
        exact ⟨rfl, hr⟩
  obtain ⟨hs, hr⟩ := hbody s.toList t.toList (by simpa [quote] using h)
  exact ⟨String.toList_inj.mp hs, hr⟩

/-! ## Numbers -/

/-- No digit follows. -/
def Ends (r : List Char) : Prop := ∀ c ∈ r.head?, c.isDigit = false

/-- A text that `f` writes is no other's, and one sees where it ends. -/
def Legible {α : Type} (f : α → List Char) (a : α) : Prop :=
  ∀ b r r', Ends r → Ends r' → f a ++ r = f b ++ r' → a = b ∧ r = r'

theorem ends_cons {c : Char} (h : c.isDigit = false) (r : List Char) : Ends (c :: r) := by
  intro d hd
  cases hd
  exact h

theorem takeWhile_isDigit_append {ds r : List Char} (hd : ∀ c ∈ ds, c.isDigit = true)
    (hr : Ends r) : (ds ++ r).takeWhile Char.isDigit = ds := by
  rw [List.takeWhile_append_of_pos hd]
  cases r with
  | nil => simp
  | cons c r => simp [hr c rfl]

theorem legible_toDigits (n : Nat) : Legible (Nat.toDigits 10) n := by
  intro m r r' hr hr' h
  have hd : ∀ k, ∀ c ∈ Nat.toDigits 10 k, c.isDigit = true := fun k c hc =>
    Nat.isDigit_of_mem_toDigits (by decide) (by decide) hc
  have ht := congrArg (List.takeWhile Char.isDigit) h
  rw [takeWhile_isDigit_append (hd n) hr, takeWhile_isDigit_append (hd m) hr'] at ht
  rw [ht] at h
  have hn := congrArg (fun ds => Nat.ofDigitChars 10 ds 0) ht
  rw [Nat.ofDigitChars_toDigits (by decide) (by decide),
    Nat.ofDigitChars_toDigits (by decide) (by decide)] at hn
  exact ⟨hn, List.append_cancel_left h⟩

/-- The first character of a number is a digit. -/
theorem exists_toDigits_eq_cons (n : Nat) :
    ∃ c cs, Nat.toDigits 10 n = c :: cs ∧ c.isDigit = true := by
  cases hd : Nat.toDigits 10 n with
  | nil => exact absurd hd (List.ne_nil_of_length_pos Nat.length_toDigits_pos)
  | cons c cs =>
    refine ⟨c, cs, rfl, Nat.isDigit_of_mem_toDigits (b := 10) (n := n) (by decide) (by decide) ?_⟩
    rw [hd]
    exact List.mem_cons_self

theorem toList_toString_ofNat (n : Nat) : (toString (Int.ofNat n)).toList = Nat.toDigits 10 n := by
  have h : toString (Int.ofNat n) = toString n := rfl
  rw [h, Nat.toString_eq_ofList_toDigits, String.toList_ofList]

theorem toList_toString_negSucc (n : Nat) :
    (toString (Int.negSucc n)).toList = '-' :: Nat.toDigits 10 (n + 1) := by
  have h : toString (Int.negSucc n) = "-" ++ toString (n + 1) := rfl
  rw [h, String.toList_append, Nat.toString_eq_ofList_toDigits,
    String.toList_ofList (l := Nat.toDigits 10 (n + 1))]
  rfl

theorem legible_int (n : Int) : Legible (fun n : Int => (toString n).toList) n := by
  have hsign : ∀ (m : Nat) (cs r r' : List Char), Nat.toDigits 10 m ++ r ≠ '-' :: cs ++ r' := by
    intro m cs r r' h
    obtain ⟨c, ds, hd, hc⟩ := exists_toDigits_eq_cons m
    rw [hd] at h
    rw [(List.cons.inj h).1] at hc
    revert hc
    decide
  intro m r r' hr hr' h
  cases n with
  | ofNat n =>
    cases m with
    | ofNat m =>
      simp only [toList_toString_ofNat] at h
      obtain ⟨rfl, hr⟩ := legible_toDigits n m r r' hr hr' h
      exact ⟨rfl, hr⟩
    | negSucc m =>
      simp only [toList_toString_ofNat, toList_toString_negSucc] at h
      exact absurd h (hsign n _ r r')
  | negSucc n =>
    cases m with
    | ofNat m =>
      simp only [toList_toString_ofNat, toList_toString_negSucc] at h
      exact absurd h.symm (hsign m _ r' r)
    | negSucc m =>
      simp only [toList_toString_negSucc, List.cons_append] at h
      obtain ⟨hn, hr⟩ := legible_toDigits (n + 1) (m + 1) r r' hr hr' (List.cons.inj h).2
      exact ⟨by rw [Nat.succ.inj hn], hr⟩

/-! ## Brackets -/

section

variable {α : Type} {f : α → List Char} {l : Layout} {opening closing : Char} {depth : Nat}

theorem newLine_eq (l : Layout) (depth : Nat) :
    l.newLine depth = [] ∨ ∃ cs, l.newLine depth = '\n' :: cs := by
  rw [Layout.newLine]
  cases l.indent with
  | none => exact .inl rfl
  | some i => exact .inr ⟨_, rfl⟩

theorem separator_eq (l : Layout) (depth : Nat) : ∃ cs, l.separator depth = ',' :: cs := by
  rw [Layout.separator]
  cases l.indent with
  | none => exact ⟨_, rfl⟩
  | some i => exact ⟨_, rfl⟩

/-- Neither a bracket nor what may stand in front of it is a digit or a comma. -/
theorem exists_closing_eq (l : Layout) (depth : Nat) (hd : closing.isDigit = false)
    (hc : closing ≠ ',') :
    ∃ c cs, l.newLine depth ++ [closing] = c :: cs ∧ c.isDigit = false ∧ c ≠ ',' := by
  rcases newLine_eq l depth with h | ⟨cs, h⟩
  · exact ⟨closing, [], by rw [h]; rfl, hd, hc⟩
  · exact ⟨'\n', cs ++ [closing], by rw [h]; rfl, by decide, by decide⟩

theorem intercalate_map_cons (sep : List Char) (f : α → List Char) (a a' : α) (as : List α)
    (r : List Char) :
    sep.intercalate ((a :: a' :: as).map f) ++ r =
      f a ++ (sep ++ (sep.intercalate ((a' :: as).map f) ++ r)) := by
  simp [List.intercalate_cons_cons]

theorem intercalate_map_singleton (sep : List Char) (f : α → List Char) (a : α) (r : List Char) :
    sep.intercalate ([a].map f) ++ r = f a ++ r := by
  simp

/-- Items with separators between are legible if each of them is. -/
theorem intercalate_append_inj (hd : closing.isDigit = false) (hc : closing ≠ ',') {a b : α}
    {as bs : List α} (h : ∀ x ∈ a :: as, Legible f x) {r r' : List Char}
    (he : (l.separator (depth + 1)).intercalate ((a :: as).map f) ++
        (l.newLine depth ++ [closing] ++ r) =
      (l.separator (depth + 1)).intercalate ((b :: bs).map f) ++
        (l.newLine depth ++ [closing] ++ r')) : a :: as = b :: bs ∧ r = r' := by
  obtain ⟨c, cs, hclose, hcd, hcc⟩ := exists_closing_eq l depth hd hc
  obtain ⟨ds, hsep⟩ := separator_eq l (depth + 1)
  have hends : ∀ r, Ends (l.newLine depth ++ [closing] ++ r) := by
    intro r
    rw [hclose]
    exact ends_cons hcd (cs ++ r)
  have hends' : ∀ r, Ends (l.separator (depth + 1) ++ r) := by
    intro r
    rw [hsep]
    exact ends_cons (by decide) (ds ++ r)
  -- What stands behind an item tells whether another one follows.
  have hne : ∀ r r', l.newLine depth ++ [closing] ++ r ≠ l.separator (depth + 1) ++ r' := by
    intro r r' h
    rw [hclose, hsep] at h
    exact hcc (List.cons.inj h).1
  induction as generalizing a b bs with
  | nil =>
    have ha : Legible f a := h a List.mem_cons_self
    rw [intercalate_map_singleton] at he
    cases bs with
    | nil =>
      rw [intercalate_map_singleton] at he
      obtain ⟨rfl, hr⟩ := ha b _ _ (hends r) (hends r') he
      exact ⟨rfl, List.append_cancel_left hr⟩
    | cons b' bs =>
      rw [intercalate_map_cons] at he
      exact absurd (ha b _ _ (hends r) (hends' _) he).2 (hne r _)
  | cons a' as ih =>
    have ha : Legible f a := h a List.mem_cons_self
    rw [intercalate_map_cons] at he
    cases bs with
    | nil =>
      rw [intercalate_map_singleton] at he
      exact absurd (ha b _ _ (hends' _) (hends r') he).2.symm (hne r' _)
    | cons b' bs =>
      rw [intercalate_map_cons] at he
      obtain ⟨rfl, htail⟩ := ha b _ _ (hends' _) (hends' _) he
      have hs : ∀ x ∈ a' :: as, Legible f x := fun x hx => h x (List.mem_cons_of_mem a hx)
      obtain ⟨heq, hr⟩ := ih hs (List.append_cancel_left htail)
      rw [heq]
      exact ⟨rfl, hr⟩

theorem enclose_nil (l : Layout) (opening closing : Char) (depth : Nat) :
    l.enclose opening closing depth [] = [opening, closing] := rfl

theorem enclose_cons (l : Layout) (opening closing : Char) (depth : Nat) (x : List Char)
    (xs : List (List Char)) (r : List Char) :
    l.enclose opening closing depth (x :: xs) ++ r =
      opening :: (l.newLine (depth + 1) ++ ((l.separator (depth + 1)).intercalate (x :: xs) ++
        (l.newLine depth ++ [closing] ++ r))) := by
  simp [Layout.enclose]

/-- An empty pair of brackets is no other's. -/
theorem closing_ne_newLine (hn : closing ≠ '\n')
    (hstart : ∀ x r r', f x ++ r ≠ closing :: r') (b : α) (bs : List α) (r r' : List Char) :
    closing :: r ≠ l.newLine (depth + 1) ++
      ((l.separator (depth + 1)).intercalate ((b :: bs).map f) ++ r') := by
  intro h
  rcases newLine_eq l (depth + 1) with hl | ⟨cs, hl⟩
  · rw [hl, List.nil_append] at h
    cases bs with
    | nil =>
      rw [intercalate_map_singleton] at h
      exact hstart b _ _ h.symm
    | cons b' bs =>
      rw [intercalate_map_cons] at h
      exact hstart b _ _ h.symm
  · rw [hl] at h
    exact hn (List.cons.inj h).1

/-- Items in brackets are legible if each of them is and none begins like the closing bracket. -/
theorem enclose_append_inj (hd : closing.isDigit = false) (hc : closing ≠ ',')
    (hn : closing ≠ '\n') (hstart : ∀ x r r', f x ++ r ≠ closing :: r') {as bs : List α}
    (h : ∀ x ∈ as, Legible f x) {r r' : List Char}
    (he : l.enclose opening closing depth (as.map f) ++ r =
      l.enclose opening closing depth (bs.map f) ++ r') : as = bs ∧ r = r' := by
  cases as with
  | nil =>
    cases bs with
    | nil =>
      rw [List.map_nil, enclose_nil] at he
      exact ⟨rfl, (List.cons.inj (List.cons.inj he).2).2⟩
    | cons b bs =>
      rw [List.map_nil, enclose_nil, List.map_cons, enclose_cons, ← List.map_cons] at he
      exact absurd (List.cons.inj he).2 (closing_ne_newLine hn hstart b bs r _)
  | cons a as =>
    rw [List.map_cons, enclose_cons, ← List.map_cons] at he
    cases bs with
    | nil =>
      rw [List.map_nil, enclose_nil] at he
      exact absurd (List.cons.inj he).2.symm (closing_ne_newLine hn hstart a as r' _)
    | cons b bs =>
      rw [List.map_cons (f := f) (a := b), enclose_cons, ← List.map_cons] at he
      exact intercalate_append_inj hd hc h (List.append_cancel_left (List.cons.inj he).2)

end

/-! ## Values -/

/-- A value is of a sort, and what holds of the parts of a list or an object holds of it. -/
theorem induction {motive : Json → Prop} (null : motive .null) (bool : ∀ b, motive (.bool b))
    (int : ∀ n, motive (.int n)) (text : ∀ s, motive (.text s))
    (list : ∀ items, (∀ v ∈ items, motive v) → motive (.list items))
    (object : ∀ members, (∀ m ∈ members, motive m.2) → motive (.object members)) :
    ∀ v, motive v
  | .null => null
  | .bool b => bool b
  | .int n => int n
  | .text s => text s
  | .list items => list items fun v hv =>
    have _ := List.sizeOf_lt_of_mem hv
    induction null bool int text list object v
  | .object members => object members fun m hm =>
    have _ : sizeOf m.2 < sizeOf m := by cases m; simp
    have _ := List.sizeOf_lt_of_mem hm
    induction null bool int text list object m.2
termination_by v => v
decreasing_by
  all_goals
    simp
    omega

theorem writeItems_eq (l : Layout) (depth : Nat) (items : List Json) :
    writeItems l depth items = items.map (write l depth) := by
  induction items with
  | nil => rw [writeItems, List.map_nil]
  | cons v items ih => rw [writeItems, List.map_cons, ih]

/-- The text of a member. -/
def writeMember (l : Layout) (depth : Nat) (m : String × Json) : List Char :=
  quote m.1 ++ [':', ' '] ++ write l depth m.2

theorem writeMembers_eq (l : Layout) (depth : Nat) (members : List (String × Json)) :
    writeMembers l depth members = members.map (writeMember l depth) := by
  induction members with
  | nil => rw [writeMembers, List.map_nil]
  | cons m members ih => rw [writeMembers, List.map_cons, ih, writeMember]

theorem write_list (l : Layout) (depth : Nat) (items : List Json) :
    write l depth (.list items) = l.enclose '[' ']' depth (items.map (write l (depth + 1))) := by
  rw [write, writeItems_eq]

theorem write_object (l : Layout) (depth : Nat) (members : List (String × Json)) :
    write l depth (.object members) =
      l.enclose '\x7b' '\x7d' depth (members.map (writeMember l (depth + 1))) := by
  rw [write, writeMembers_eq]

inductive Shape where
  | null
  | bool
  | int
  | text
  | list
  | object

def shape : Json → Shape
  | .null => .null
  | .bool _ => .bool
  | .int _ => .int
  | .text _ => .text
  | .list _ => .list
  | .object _ => .object

/-- The shape of a value, as its first character tells. -/
def shapeOf (c : Char) : Shape :=
  if c = 'n' then .null
  else if c = 't' ∨ c = 'f' then .bool
  else if c = '\x22' then .text
  else if c = '[' then .list
  else if c = '\x7b' then .object
  else .int

theorem shapeOf_of_isDigit {c : Char} (h : c.isDigit = true) : shapeOf c = .int ∧ c ≠ ']' := by
  have hne : ∀ d : Char, d.isDigit = false → c ≠ d := by
    rintro d hd rfl
    rw [h] at hd
    cases hd
  constructor
  · rw [shapeOf, if_neg (hne _ (by decide)), if_neg (not_or.mpr ⟨hne _ (by decide),
      hne _ (by decide)⟩), if_neg (hne _ (by decide)), if_neg (hne _ (by decide)),
      if_neg (hne _ (by decide))]
  · exact hne _ (by decide)

theorem exists_enclose_eq (l : Layout) (opening closing : Char) (depth : Nat)
    (xs : List (List Char)) : ∃ cs, l.enclose opening closing depth xs = opening :: cs := by
  cases xs with
  | nil => exact ⟨_, enclose_nil l opening closing depth⟩
  | cons x xs =>
    have h := enclose_cons l opening closing depth x xs []
    rw [List.append_nil] at h
    exact ⟨_, h⟩

theorem exists_write_eq (l : Layout) (depth : Nat) (v : Json) :
    ∃ c cs, write l depth v = c :: cs ∧ shapeOf c = v.shape ∧ c ≠ ']' := by
  cases v with
  | null => exact ⟨'n', _, by rw [write]; rfl, rfl, by decide⟩
  | bool b =>
    cases b with
    | true => exact ⟨'t', _, by rw [write]; rfl, rfl, by decide⟩
    | false => exact ⟨'f', _, by rw [write]; rfl, rfl, by decide⟩
  | int n =>
    cases n with
    | ofNat n =>
      obtain ⟨c, cs, hd, hc⟩ := exists_toDigits_eq_cons n
      obtain ⟨hs, hne⟩ := shapeOf_of_isDigit hc
      exact ⟨c, cs, by rw [write, toList_toString_ofNat, hd], hs, hne⟩
    | negSucc n =>
      exact ⟨'-', _, by rw [write, toList_toString_negSucc], rfl, by decide⟩
  | text s => exact ⟨'\x22', _, by rw [write]; rfl, rfl, by decide⟩
  | list items =>
    obtain ⟨cs, h⟩ := exists_enclose_eq l '[' ']' depth (items.map (write l (depth + 1)))
    exact ⟨'[', cs, by rw [write_list, h], rfl, by decide⟩
  | object members =>
    obtain ⟨cs, h⟩ :=
      exists_enclose_eq l '\x7b' '\x7d' depth (members.map (writeMember l (depth + 1)))
    exact ⟨'\x7b', cs, by rw [write_object, h], rfl, by decide⟩

theorem shape_eq_of_write {l : Layout} {depth : Nat} {v w : Json} {r r' : List Char}
    (h : write l depth v ++ r = write l depth w ++ r') : v.shape = w.shape := by
  obtain ⟨c, cs, hv, hc, -⟩ := exists_write_eq l depth v
  obtain ⟨d, ds, hw, hd, -⟩ := exists_write_eq l depth w
  rw [hv, hw] at h
  rw [← hc, ← hd, (List.cons.inj h).1]

theorem legible_writeMember {l : Layout} {depth : Nat} {m : String × Json}
    (h : Legible (write l depth) m.2) : Legible (writeMember l depth) m := by
  intro m' r r' hr hr' he
  rw [writeMember, writeMember, List.append_assoc, List.append_assoc, List.append_assoc,
    List.append_assoc] at he
  obtain ⟨hn, he⟩ := quote_append_inj he
  obtain ⟨hv, hr⟩ := h m'.2 r r' hr hr' (List.append_cancel_left he)
  exact ⟨Prod.ext hn hv, hr⟩

/-- Every value is legible: its text is no other's, and one sees where it ends. -/
theorem legible_write (l : Layout) (depth : Nat) (v : Json) : Legible (write l depth) v := by
  -- The parts of a value stand one level deeper.
  induction v using Json.induction generalizing depth with
  | null =>
    intro w r r' _ _ h
    have hs := shape_eq_of_write h
    cases w with
    | null => exact ⟨rfl, List.append_cancel_left h⟩
    | _ => cases hs
  | bool b =>
    intro w r r' _ _ h
    have hs := shape_eq_of_write h
    cases w with
    | bool b' =>
      rw [write, write] at h
      cases b with
      | true =>
        cases b' with
        | true => exact ⟨rfl, List.append_cancel_left h⟩
        | false => simp at h
      | false =>
        cases b' with
        | true => simp at h
        | false => exact ⟨rfl, List.append_cancel_left h⟩
    | _ => cases hs
  | int n =>
    intro w r r' hr hr' h
    have hs := shape_eq_of_write h
    cases w with
    | int m =>
      rw [write, write] at h
      obtain ⟨rfl, hr⟩ := legible_int n m r r' hr hr' h
      exact ⟨rfl, hr⟩
    | _ => cases hs
  | text s =>
    intro w r r' _ _ h
    have hs := shape_eq_of_write h
    cases w with
    | text t =>
      rw [write, write] at h
      obtain ⟨rfl, hr⟩ := quote_append_inj h
      exact ⟨rfl, hr⟩
    | _ => cases hs
  | list items ih =>
    intro w r r' _ _ h
    have hs := shape_eq_of_write h
    have hstart : ∀ v r r', write l (depth + 1) v ++ r ≠ ']' :: r' := by
      intro v r r' hv
      obtain ⟨c, cs, hw, -, hc⟩ := exists_write_eq l (depth + 1) v
      rw [hw] at hv
      exact hc (List.cons.inj hv).1
    cases w with
    | list items' =>
      rw [write_list, write_list] at h
      obtain ⟨rfl, hr⟩ := enclose_append_inj (by decide) (by decide) (by decide) hstart
        (fun v hv => ih v hv (depth + 1)) h
      exact ⟨rfl, hr⟩
    | _ => cases hs
  | object members ih =>
    intro w r r' _ _ h
    have hs := shape_eq_of_write h
    have hstart : ∀ m r r', writeMember l (depth + 1) m ++ r ≠ '\x7d' :: r' := by
      intro m r r' hm
      exact absurd (List.cons.inj hm).1 (by decide)
    cases w with
    | object members' =>
      rw [write_object, write_object] at h
      obtain ⟨rfl, hr⟩ := enclose_append_inj (by decide) (by decide) (by decide) hstart
        (fun m hm => legible_writeMember (ih m hm (depth + 1))) h
      exact ⟨rfl, hr⟩
    | _ => cases hs

/-- In one layout, no two values have one text. -/
theorem render_injective (indent : Option Indent) : Function.Injective (render indent) := by
  intro v w h
  have ends_nil : Ends [] := by
    intro c hc
    cases hc
  have hw : write ⟨indent⟩ 0 v ++ [] = write ⟨indent⟩ 0 w ++ [] :=
    congrArg (· ++ []) (String.ofList_injective h)
  exact (legible_write ⟨indent⟩ 0 v w [] [] ends_nil ends_nil hw).1

end Passpoint.Report.Json
