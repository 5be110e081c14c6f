set_option autoImplicit false

namespace QueueSupply.Text

def Continues (b : UInt8) : Prop := 0x80 ≤ b.toNat ∧ b.toNat < 0xc0

inductive CharBytes (n : Nat) : List UInt8 → Prop
  | one {a : UInt8} (first : a.toNat < 0x80) (worth : n = a.toNat) : CharBytes n [a]
  | two {a b : UInt8} (first : 0xc2 ≤ a.toNat ∧ a.toNat < 0xe0) (second : Continues b)
      (worth : n = (a.toNat - 0xc0) * 0x40 + (b.toNat - 0x80)) : CharBytes n [a, b]
  | three {a b c : UInt8} (first : 0xe0 ≤ a.toNat ∧ a.toNat < 0xf0) (second : Continues b)
      (third : Continues c) (no_longer : a.toNat = 0xe0 → 0xa0 ≤ b.toNat)
      (no_surrogate : a.toNat = 0xed → b.toNat < 0xa0)
      (worth : n = (a.toNat - 0xe0) * 0x1000 + (b.toNat - 0x80) * 0x40 + (c.toNat - 0x80)) :
      CharBytes n [a, b, c]
  | four {a b c d : UInt8} (first : 0xf0 ≤ a.toNat ∧ a.toNat < 0xf5) (second : Continues b)
      (third : Continues c) (fourth : Continues d) (no_longer : a.toNat = 0xf0 → 0x90 ≤ b.toNat)
      (not_above : a.toNat = 0xf4 → b.toNat < 0x90)
      (worth : n = (a.toNat - 0xf0) * 0x40000 + (b.toNat - 0x80) * 0x1000 +
        (c.toNat - 0x80) * 0x40 + (d.toNat - 0x80)) :
      CharBytes n [a, b, c, d]

inductive Utf8 : List Char → List UInt8 → Prop
  | nil : Utf8 [] []
  | cons {c : Char} {text : List Char} {word bytes : List UInt8} (front : CharBytes c.toNat word)
      (rest : Utf8 text bytes) : Utf8 (c :: text) (word ++ bytes)

theorem ofNat_eq_of_toNat {b : UInt8} {n : Nat} (worth : b.toNat = n) : UInt8.ofNat n = b := by
  rw [← worth, UInt8.ofNat_toNat]

theorem CharBytes.eq_utf8EncodeChar {c : Char} {word : List UInt8}
    (form : CharBytes c.toNat word) : word = String.utf8EncodeChar c := by
  have value : c.val.toNat = c.toNat := rfl
  simp only [String.utf8EncodeChar, value]
  cases form with
  | one first worth =>
    rw [if_pos (by omega), ofNat_eq_of_toNat worth.symm]
  | @two a b first second worth =>
    obtain ⟨low, high⟩ := second
    have byte₁ : a.toNat = c.toNat / 64 % 0x20 + 0xc0 := by omega
    have byte₂ : b.toNat = c.toNat % 0x40 + 0x80 := by omega
    rw [if_neg (by omega), if_pos (by omega), ofNat_eq_of_toNat byte₁, ofNat_eq_of_toNat byte₂]
  | @three a b d first second third no_longer no_surrogate worth =>
    obtain ⟨low₂, high₂⟩ := second
    obtain ⟨low₃, high₃⟩ := third
    have byte₁ : a.toNat = c.toNat / 4096 % 0x10 + 0xe0 := by omega
    have byte₂ : b.toNat = c.toNat / 64 % 0x40 + 0x80 := by omega
    have byte₃ : d.toNat = c.toNat % 0x40 + 0x80 := by omega
    rw [if_neg (by omega), if_neg (by omega), if_pos (by omega), ofNat_eq_of_toNat byte₁,
      ofNat_eq_of_toNat byte₂, ofNat_eq_of_toNat byte₃]
  | @four a b d e first second third fourth no_longer not_above worth =>
    obtain ⟨low₂, high₂⟩ := second
    obtain ⟨low₃, high₃⟩ := third
    obtain ⟨low₄, high₄⟩ := fourth
    have byte₁ : a.toNat = c.toNat / 262144 % 0x08 + 0xf0 := by omega
    have byte₂ : b.toNat = c.toNat / 4096 % 0x40 + 0x80 := by omega
    have byte₃ : d.toNat = c.toNat / 64 % 0x40 + 0x80 := by omega
    have byte₄ : e.toNat = c.toNat % 0x40 + 0x80 := by omega
    rw [if_neg (by omega), if_neg (by omega), if_neg (by omega), ofNat_eq_of_toNat byte₁,
      ofNat_eq_of_toNat byte₂, ofNat_eq_of_toNat byte₃, ofNat_eq_of_toNat byte₄]

theorem toNat_continuation (n : Nat) :
    (UInt8.ofNat (n % 0x40 + 0x80)).toNat = n % 0x40 + 0x80 :=
  UInt8.toNat_ofNat_of_lt (show _ < 256 by omega)

theorem continues_continuation (n : Nat) : Continues (UInt8.ofNat (n % 0x40 + 0x80)) := by
  rw [Continues, toNat_continuation]
  omega

theorem charBytes_utf8EncodeChar (c : Char) : CharBytes c.toNat (String.utf8EncodeChar c) := by
  have valid : c.toNat < 0xd800 ∨ 0xdfff < c.toNat ∧ c.toNat < 0x110000 := c.valid
  have value : c.val.toNat = c.toNat := rfl
  simp only [String.utf8EncodeChar, value]
  split
  · have byte : (UInt8.ofNat c.toNat).toNat = c.toNat :=
      UInt8.toNat_ofNat_of_lt (show _ < 256 by omega)
    exact .one (by omega) byte.symm
  split
  · have byte : (UInt8.ofNat (c.toNat / 64 % 0x20 + 0xc0)).toNat = c.toNat / 64 % 0x20 + 0xc0 :=
      UInt8.toNat_ofNat_of_lt (show _ < 256 by omega)
    refine .two ?_ (continues_continuation _) ?_
    all_goals
      simp only [byte, toNat_continuation]
      omega
  split
  · have byte : (UInt8.ofNat (c.toNat / 4096 % 0x10 + 0xe0)).toNat =
        c.toNat / 4096 % 0x10 + 0xe0 :=
      UInt8.toNat_ofNat_of_lt (show _ < 256 by omega)
    refine .three ?_ (continues_continuation _) (continues_continuation _) ?_ ?_ ?_
    all_goals
      simp only [byte, toNat_continuation]
      omega
  · have byte : (UInt8.ofNat (c.toNat / 262144 % 0x08 + 0xf0)).toNat =
        c.toNat / 262144 % 0x08 + 0xf0 :=
      UInt8.toNat_ofNat_of_lt (show _ < 256 by omega)
    refine .four ?_ (continues_continuation _) (continues_continuation _)
      (continues_continuation _) ?_ ?_ ?_
    all_goals
      simp only [byte, toNat_continuation]
      omega

theorem utf8_iff {text : List Char} {bytes : List UInt8} :
    Utf8 text bytes ↔ bytes = text.flatMap String.utf8EncodeChar := by
  constructor
  · intro form
    induction form with
    | nil => rfl
    | cons front rest ih => rw [front.eq_utf8EncodeChar, ih, List.flatMap_cons]
  · rintro rfl
    induction text with
    | nil => exact .nil
    | cons c text ih => exact .cons (charBytes_utf8EncodeChar c) ih

/-- Bytes are read as a text exactly when they are the bytes of its characters. -/
theorem fromUTF8?_eq_some_iff {bytes : ByteArray} {text : String} :
    String.fromUTF8? bytes = some text ↔ Utf8 text.toList bytes.data.toList := by
  have encoded : text.toByteArray.data.toList = text.toList.flatMap String.utf8EncodeChar := by
    rw [← String.utf8Encode_toList, List.utf8Encode, List.toList_data_toByteArray]
  rw [utf8_iff, ← encoded, Array.toList_inj]
  constructor
  · intro read
    unfold String.fromUTF8? at read
    split at read
    · rw [← Option.some.inj read]
      rfl
    · cases read
  · intro same
    obtain rfl : bytes = text.toByteArray := ByteArray.ext same
    exact dif_pos text.isValidUTF8

/-- A longer form than needed, a surrogate, a form that is cut short, and a value above
`0x10ffff`. -/
example : [#[0xc0, 0xaf], #[0xed, 0xa0, 0x80], #[0xe2, 0x82], #[0xf4, 0x90, 0x80, 0x80]].all
    (fun bytes => (String.fromUTF8? ⟨bytes⟩).isNone) = true := by
  decide +kernel

end QueueSupply.Text
