set_option autoImplicit false

/-!
Sixteen-bit code units: a character above `0xffff` is a pair of surrogates. Units that hold a
surrogate outside such a pair stand for no text.
-/

namespace QueueSupply.Text

def isHighSurrogate (u : UInt16) : Bool := decide (0xd800 ≤ u.toNat) && decide (u.toNat < 0xdc00)

def isLowSurrogate (u : UInt16) : Bool := decide (0xdc00 ≤ u.toNat) && decide (u.toNat < 0xe000)

def unitsOfChar (c : Char) : List UInt16 :=
  if c.toNat < 0x10000 then [UInt16.ofNat c.toNat]
  else
    [UInt16.ofNat (0xd800 + (c.toNat - 0x10000) / 0x400),
      UInt16.ofNat (0xdc00 + (c.toNat - 0x10000) % 0x400)]

def unitsOfText (text : List Char) : List UInt16 := text.flatMap unitsOfChar

def joinSurrogates (high low : UInt16) : Char :=
  Char.ofNat (0x10000 + (high.toNat - 0xd800) * 0x400 + (low.toNat - 0xdc00))

def textOfUnits? : List UInt16 → Option (List Char)
  | [] => some []
  | u :: units =>
    if isHighSurrogate u then
      match units with
      | [] => none
      | v :: units =>
        if isLowSurrogate v then (textOfUnits? units).map (joinSurrogates u v :: ·) else none
    else if isLowSurrogate u then none
    else (textOfUnits? units).map (Char.ofNat u.toNat :: ·)

theorem textOfUnits?_unit {u : UInt16} (high : isHighSurrogate u = false)
    (low : isLowSurrogate u = false) (units : List UInt16) :
    textOfUnits? (u :: units) = (textOfUnits? units).map (Char.ofNat u.toNat :: ·) := by
  cases units <;> simp [textOfUnits?, high, low]

theorem textOfUnits?_pair {u v : UInt16} (high : isHighSurrogate u = true)
    (low : isLowSurrogate v = true) (units : List UInt16) :
    textOfUnits? (u :: v :: units) = (textOfUnits? units).map (joinSurrogates u v :: ·) := by
  simp [textOfUnits?, high, low]

theorem textOfUnits?_append_char (c : Char) (units : List UInt16) :
    textOfUnits? (unitsOfChar c ++ units) = (textOfUnits? units).map (c :: ·) := by
  have valid : c.toNat < 0xd800 ∨ 0xdfff < c.toNat ∧ c.toNat < 0x110000 := c.valid
  by_cases basic : c.toNat < 0x10000
  · have unit : (UInt16.ofNat c.toNat).toNat = c.toNat := UInt16.toNat_ofNat_of_lt basic
    have high : isHighSurrogate (UInt16.ofNat c.toNat) = false := by
      simp only [isHighSurrogate, unit, Bool.and_eq_false_iff, decide_eq_false_iff_not]
      omega
    have low : isLowSurrogate (UInt16.ofNat c.toNat) = false := by
      simp only [isLowSurrogate, unit, Bool.and_eq_false_iff, decide_eq_false_iff_not]
      omega
    rw [unitsOfChar, if_pos basic, List.singleton_append, textOfUnits?_unit high low, unit,
      Char.ofNat_toNat]
  · have unitHigh : (UInt16.ofNat (0xd800 + (c.toNat - 0x10000) / 0x400)).toNat =
        0xd800 + (c.toNat - 0x10000) / 0x400 :=
      UInt16.toNat_ofNat_of_lt (show _ < 65536 by omega)
    have unitLow : (UInt16.ofNat (0xdc00 + (c.toNat - 0x10000) % 0x400)).toNat =
        0xdc00 + (c.toNat - 0x10000) % 0x400 :=
      UInt16.toNat_ofNat_of_lt (show _ < 65536 by omega)
    have high : isHighSurrogate (UInt16.ofNat (0xd800 + (c.toNat - 0x10000) / 0x400)) = true := by
      simp only [isHighSurrogate, unitHigh, Bool.and_eq_true, decide_eq_true_eq]
      omega
    have low : isLowSurrogate (UInt16.ofNat (0xdc00 + (c.toNat - 0x10000) % 0x400)) = true := by
      simp only [isLowSurrogate, unitLow, Bool.and_eq_true, decide_eq_true_eq]
      omega
    have sum : 0x10000 + (0xd800 + (c.toNat - 0x10000) / 0x400 - 0xd800) * 0x400 +
        (0xdc00 + (c.toNat - 0x10000) % 0x400 - 0xdc00) = c.toNat := by
      omega
    have join : joinSurrogates (UInt16.ofNat (0xd800 + (c.toNat - 0x10000) / 0x400))
        (UInt16.ofNat (0xdc00 + (c.toNat - 0x10000) % 0x400)) = c := by
      rw [joinSurrogates, unitHigh, unitLow, sum, Char.ofNat_toNat]
    rw [unitsOfChar, if_neg basic, List.cons_append, List.singleton_append,
      textOfUnits?_pair high low, join]

@[simp] theorem textOfUnits?_unitsOfText (text : List Char) :
    textOfUnits? (unitsOfText text) = some text := by
  induction text with
  | nil => rfl
  | cons c rest ih =>
    rw [unitsOfText, List.flatMap_cons, textOfUnits?_append_char]
    rw [unitsOfText] at ih
    simp [ih]

theorem toNat_charOfNat {n : Nat} (valid : n.isValidChar) : (Char.ofNat n).toNat = n := by
  rw [Char.ofNat, dif_pos valid]
  rfl

theorem unitsOfChar_unit {u : UInt16} (high : isHighSurrogate u = false)
    (low : isLowSurrogate u = false) : unitsOfChar (Char.ofNat u.toNat) = [u] := by
  simp only [isHighSurrogate, isLowSurrogate, Bool.and_eq_false_iff, decide_eq_false_iff_not]
    at high low
  have unit : u.toNat < 65536 := u.toNat_lt
  have valid : u.toNat.isValidChar := by
    unfold Nat.isValidChar
    omega
  rw [unitsOfChar, toNat_charOfNat valid, if_pos unit, UInt16.ofNat_toNat]

theorem unitsOfChar_joinSurrogates {u v : UInt16} (high : isHighSurrogate u = true)
    (low : isLowSurrogate v = true) : unitsOfChar (joinSurrogates u v) = [u, v] := by
  simp only [isHighSurrogate, isLowSurrogate, Bool.and_eq_true, decide_eq_true_eq] at high low
  have valid : (0x10000 + (u.toNat - 0xd800) * 0x400 + (v.toNat - 0xdc00)).isValidChar := by
    unfold Nat.isValidChar
    omega
  have above : ¬ 0x10000 + (u.toNat - 0xd800) * 0x400 + (v.toNat - 0xdc00) < 0x10000 := by
    omega
  have first : 0xd800 + (0x10000 + (u.toNat - 0xd800) * 0x400 + (v.toNat - 0xdc00) - 0x10000) /
      0x400 = u.toNat := by
    omega
  have second : 0xdc00 + (0x10000 + (u.toNat - 0xd800) * 0x400 + (v.toNat - 0xdc00) - 0x10000) %
      0x400 = v.toNat := by
    omega
  rw [unitsOfChar, joinSurrogates, toNat_charOfNat valid, if_neg above, first, second,
    UInt16.ofNat_toNat, UInt16.ofNat_toNat]

/-- Units stand for a text exactly when they are the units of this text. -/
theorem textOfUnits?_eq_some_iff {units : List UInt16} {text : List Char} :
    textOfUnits? units = some text ↔ units = unitsOfText text := by
  constructor
  · intro read
    fun_induction textOfUnits? units generalizing text with
    | case1 =>
      obtain rfl := Option.some.inj read
      rfl
    | case2 => cases read
    | case3 u high v units low ih =>
      obtain ⟨rest, rest_read, rfl⟩ := Option.map_eq_some_iff.mp read
      have first := unitsOfChar_joinSurrogates high low
      simp [ih rest_read, unitsOfText, first]
    | case4 => cases read
    | case5 => cases read
    | case6 u units high low ih =>
      obtain ⟨rest, rest_read, rfl⟩ := Option.map_eq_some_iff.mp read
      have first := unitsOfChar_unit (u := u) (by simpa using high) (by simpa using low)
      simp [ih rest_read, unitsOfText, first]
  · rintro rfl
    exact textOfUnits?_unitsOfText text

end QueueSupply.Text
