import QueueSupply.Text.Ranges

set_option autoImplicit false

/-!
Blanks: the code points with the character standard's white space property, and the text that is
left when blanks are taken off both ends.
-/

namespace QueueSupply.Text

def blankRanges : List (Nat × Nat) := [
    (0x9, 0xd), (0x20, 0x20), (0x85, 0x85), (0xa0, 0xa0), (0x1680, 0x1680), (0x2000, 0x200a),
    (0x2028, 0x2029), (0x202f, 0x202f), (0x205f, 0x205f), (0x3000, 0x3000)]

def isBlank (c : Char) : Bool := inRanges blankRanges c

def trimLeft (text : List Char) : List Char := text.dropWhile isBlank

def trimRight (text : List Char) : List Char := (trimLeft text.reverse).reverse

def trim (text : List Char) : List Char := trimRight (trimLeft text)

theorem exists_trim (text : List Char) : ∃ before after, text = before ++ trim text ++ after ∧
    (∀ c ∈ before, isBlank c = true) ∧ ∀ c ∈ after, isBlank c = true := by
  have left : text.takeWhile isBlank ++ trimLeft text = text := List.takeWhile_append_dropWhile
  have right := congrArg List.reverse
    (List.takeWhile_append_dropWhile (p := isBlank) (l := (trimLeft text).reverse))
  rw [List.reverse_append, List.reverse_reverse] at right
  refine ⟨text.takeWhile isBlank, ((trimLeft text).reverse.takeWhile isBlank).reverse, ?_, ?_, ?_⟩
  · rw [List.append_assoc]
    exact (left.symm.trans (congrArg (text.takeWhile isBlank ++ ·) right.symm))
  · exact List.all_eq_true.mp List.all_takeWhile
  · intro c mem
    exact List.all_eq_true.mp List.all_takeWhile c (List.mem_reverse.mp mem)

theorem trimLeft_append {before core : List Char} (blank : ∀ c ∈ before, isBlank c = true) :
    trimLeft (before ++ core) = trimLeft core :=
  List.dropWhile_append_of_pos blank

theorem trimLeft_solid {core : List Char} (solid : ∀ c ∈ core, isBlank c = false)
    (after : List Char) (some_core : core ≠ []) : trimLeft (core ++ after) = core ++ after := by
  cases core with
  | nil => exact absurd rfl some_core
  | cons c core => simp [trimLeft, solid c]

theorem trim_append {before core after : List Char} (blank_before : ∀ c ∈ before, isBlank c = true)
    (some_core : core ≠ []) (solid : ∀ c ∈ core, isBlank c = false)
    (blank_after : ∀ c ∈ after, isBlank c = true) : trim (before ++ core ++ after) = core := by
  have backwards : trimLeft core.reverse = core.reverse := by
    have solid_reverse : ∀ c ∈ core.reverse, isBlank c = false := by simpa using solid
    have stays := trimLeft_solid solid_reverse [] (by simpa using some_core)
    rwa [List.append_nil] at stays
  rw [trim, trimRight, List.append_assoc, trimLeft_append blank_before,
    trimLeft_solid solid after some_core, List.reverse_append,
    trimLeft_append (by simpa using blank_after), backwards, List.reverse_reverse]

theorem isBlank_of_isDigit {c : Char} (digit : c.isDigit = true) : isBlank c = false := by
  simp only [Char.isDigit, Bool.and_eq_true, decide_eq_true_eq, ge_iff_le, UInt32.le_iff_toNat_le]
    at digit
  change 48 ≤ c.toNat ∧ c.toNat ≤ 57 at digit
  simp only [isBlank, inRanges, blankRanges, List.any_cons, List.any_nil, Bool.or_eq_false_iff,
    Bool.and_eq_false_iff, decide_eq_false_iff_not, and_true]
  omega

end QueueSupply.Text
