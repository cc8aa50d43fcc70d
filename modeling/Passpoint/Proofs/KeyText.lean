import Passpoint.Proofs.AddressText

/-! Name and address as one text. The address at the end has a fixed length, so that a name can hold
anything, quotes and colons included, and the text still tells both. What it does not tell is a
missing name from the name `None`. -/

namespace Passpoint.Network

variable {a b : Network}

theorem toList_keyText (n : Network) :
    n.keyText.toList =
      ('\'' :: n.nameText.toList) ++ ('\'' :: ':' :: (Address.format n.bssid).toList) := by
  have h : n.keyText = "'" ++ n.nameText ++ "':" ++ Address.format n.bssid := by
    rw [keyText, addressText]
    rfl
  rw [h, String.toList_append, String.toList_append, String.toList_append]
  simp

theorem keyText_eq_iff_nameText (ha : 0 ≤ a.bssid ∧ a.bssid < 2 ^ 48)
    (hb : 0 ≤ b.bssid ∧ b.bssid < 2 ^ 48) :
    a.keyText = b.keyText ↔ a.nameText = b.nameText ∧ a.bssid = b.bssid := by
  constructor
  · intro h
    have hl := congrArg String.toList h
    -- Both addresses have one length, so both texts are cut at one place, whatever the names hold.
    rw [toList_keyText, toList_keyText] at hl
    have hlen : ('\'' :: ':' :: (Address.format a.bssid).toList).length =
        ('\'' :: ':' :: (Address.format b.bssid).toList).length := by
      simp [Address.length_format]
    obtain ⟨hname, haddress⟩ := List.append_inj' hl hlen
    have hname := String.toList_inj.mp (List.cons.inj hname).2
    have haddress := String.toList_inj.mp (List.cons.inj (List.cons.inj haddress).2).2
    exact ⟨hname, Address.format_injOn ha hb haddress⟩
  · rintro ⟨hname, haddress⟩
    rw [keyText, keyText, addressText, addressText, hname, haddress]

/-- A missing name reads like the name `None`, and like no other. -/
theorem nameText_eq_iff :
    a.nameText = b.nameText ↔
      a.ssid = b.ssid ∨ (a.ssid = none ∧ b.ssid = some "None") ∨
        (a.ssid = some "None" ∧ b.ssid = none) := by
  rw [nameText, nameText]
  cases a.ssid with
  | none =>
    cases b.ssid with
    | none => simp
    | some s => simp [eq_comm]
  | some r => cases b.ssid <;> simp

/-- **The key tells name and address, but not whether there is a name.** Two networks with addresses
of 48 bits have one key exactly if they are the same, in name and address, or have one address and
one of them has no name and the other the name `None`. -/
theorem keyText_eq_iff (ha : 0 ≤ a.bssid ∧ a.bssid < 2 ^ 48)
    (hb : 0 ≤ b.bssid ∧ b.bssid < 2 ^ 48) :
    a.keyText = b.keyText ↔
      a.sameAs b = true ∨ (a.bssid = b.bssid ∧
        ((a.ssid = none ∧ b.ssid = some "None") ∨ (a.ssid = some "None" ∧ b.ssid = none))) := by
  rw [keyText_eq_iff_nameText ha hb, nameText_eq_iff, sameAs, Bool.and_eq_true, decide_eq_true_iff,
    decide_eq_true_iff, or_and_right]
  exact or_congr Iff.rfl and_comm

/-- A name that ends like a key, beside the name that is cut off there. -/
theorem keyText_eq_iff_quoted :
    let a : Network := { ssid := some "a':61:04:08:62:12:05", bssid := 0x610408621205 }
    let b : Network := { ssid := some "a", bssid := 0x610408621205 }
    (0 ≤ a.bssid ∧ a.bssid < 2 ^ 48) ∧ (0 ≤ b.bssid ∧ b.bssid < 2 ^ 48) ∧
      a.keyText ≠ b.keyText := by
  intro a b
  have ha : 0 ≤ a.bssid ∧ a.bssid < 2 ^ 48 := by decide
  have hb : 0 ≤ b.bssid ∧ b.bssid < 2 ^ 48 := by decide
  refine ⟨ha, hb, fun h => ?_⟩
  have hk := (keyText_eq_iff ha hb).mp h
  revert hk
  decide

/-- It is not so that two networks, as address and elements describe them, have one key only if they
are the same: one without a name and one with the name `None` have one key. -/
theorem keyText_eq_iff_nameless :
    ¬ ∀ (first second : String) (data data' : Octets) (a b : Network),
      ofOctets (some first) data .empty = .ok a → ofOctets (some second) data' .empty = .ok b →
      0 ≤ a.bssid ∧ a.bssid < 2 ^ 48 → 0 ≤ b.bssid ∧ b.bssid < 2 ^ 48 →
      (a.keyText = b.keyText ↔ a.sameAs b = true) := by
  intro h
  have ha : ofOctets (some "610408621205") [] .empty =
      .ok { ssid := none, bssid := 0x610408621205 } := by
    decide +kernel
  have hb : ofOctets (some "610408621205") [0, 4, 0x4E, 0x6F, 0x6E, 0x65] .empty =
      .ok { ssid := some "None", bssid := 0x610408621205 } := by
    decide +kernel
  have hk := (h _ _ _ _ _ _ ha hb (by decide) (by decide)).mp (by decide +kernel)
  revert hk
  decide

end Passpoint.Network
