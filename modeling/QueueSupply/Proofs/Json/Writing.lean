import QueueSupply.Proofs.Json.Reading

set_option autoImplicit false

namespace QueueSupply.Json

open Text

theorem chunk_spellUnit (u : UInt16) : Chunk [u] (spellUnit u) := by
  have unit := u.toNat_lt
  rw [spellUnit]
  split
  · next graphic =>
    obtain ⟨printable, ascii, no_quote, no_backslash⟩ := graphic
    have valid : u.toNat.isValidChar := .inl (by omega)
    have worth : (Char.ofNat u.toNat).toNat = u.toNat := toNat_charOfNat valid
    have units : unitsOfChar (Char.ofNat u.toNat) = [u] := by
      rw [unitsOfChar, worth, if_pos (by omega), UInt16.ofNat_toNat]
    have other {c : Char} (differs : u.toNat ≠ c.toNat) : Char.ofNat u.toNat ≠ c := by
      rintro rfl
      exact differs worth.symm
    rw [← units]
    exact .plain (other no_quote) (other no_backslash) (by omega)
  · have digit (n : Nat) : HexDigit (n % 16).digitChar (n % 16) := .lower (Nat.mod_lt n (by decide))
    exact .hex (digit _) (digit _) (digit _) (digit _) (by omega)

theorem body_flatMap_spellUnit (units : List UInt16) : Body units (units.flatMap spellUnit) := by
  induction units with
  | nil => exact .nil
  | cons u units ih => exact .cons (chunk_spellUnit u) ih

theorem Token.spelt_spell (t : Token) : Spelt t t.spell := by
  cases t with
  | bool b =>
    cases b with
    | true => exact .boolTrue
    | false => exact .boolFalse
  | number n => exact .number (isLiteral_iff.mp n.wellFormed)
  | string units => exact .string (body_flatMap_spellUnit units)
  | openBrace => exact .openBrace
  | closeBrace => exact .closeBrace
  | openBracket => exact .openBracket
  | closeBracket => exact .closeBracket
  | comma => exact .comma
  | colon => exact .colon
  | null => exact .null

theorem laid_flatMap_spell (ts : List Token) : Laid ts (ts.flatMap Token.spell) := by
  induction ts with
  | nil => exact .nil nofun
  | cons t ts ih =>
    have no_blanks : ∀ c ∈ ([] : List Char), isSpace c = true := nofun
    exact .cons no_blanks t.spelt_spell ih

theorem written_compact (v : Json) : Written v v.compact := laid_flatMap_spell v.tokens

@[simp] theorem parse?_compact (v : Json) : parse? v.compact = some v :=
  parse?_eq_some_iff.mpr (written_compact v)

end QueueSupply.Json
