import QueueSupply.Text.Extending
import QueueSupply.Text.Ranges
import QueueSupply.Text.Unassigned

set_option autoImplicit false

/-!
Graphic characters: those that stand for themselves in quoted text. Controls, formats, private and
unassigned code points, marks drawn upon the character before them, characters that show nothing by
default and every separator other than the plain space are not graphic.
-/

namespace QueueSupply.Text

def controlRanges : List (Nat × Nat) := [(0x0, 0x1f), (0x7f, 0x9f)]

def formatRanges : List (Nat × Nat) := [
    (0xad, 0xad), (0x600, 0x605), (0x61c, 0x61c), (0x6dd, 0x6dd), (0x70f, 0x70f), (0x890, 0x891),
    (0x8e2, 0x8e2), (0x180e, 0x180e), (0x200b, 0x200f), (0x202a, 0x202e), (0x2060, 0x2064),
    (0x2066, 0x206f), (0xfeff, 0xfeff), (0xfff9, 0xfffb), (0x110bd, 0x110bd), (0x110cd, 0x110cd),
    (0x13430, 0x1343f), (0x1bca0, 0x1bca3), (0x1d173, 0x1d17a), (0xe0001, 0xe0001),
    (0xe0020, 0xe007f)]

/-- The separators of words, lines and paragraphs, the plain space apart. -/
def separatorRanges : List (Nat × Nat) := [
    (0xa0, 0xa0), (0x1680, 0x1680), (0x2000, 0x200a), (0x2028, 0x2029), (0x202f, 0x202f),
    (0x205f, 0x205f), (0x3000, 0x3000)]

def privateRanges : List (Nat × Nat) := [
    (0xe000, 0xf8ff), (0xf0000, 0xffffd), (0x100000, 0x10fffd)]

/-- The code points that show nothing by default, the fillers of incomplete Hangul syllables among
them. Most are formats, marks or unassigned too. -/
def ignorableRanges : List (Nat × Nat) := [
    (0xad, 0xad), (0x34f, 0x34f), (0x61c, 0x61c), (0x115f, 0x1160), (0x17b4, 0x17b5),
    (0x180b, 0x180f), (0x200b, 0x200f), (0x202a, 0x202e), (0x2060, 0x206f), (0x3164, 0x3164),
    (0xfe00, 0xfe0f), (0xfeff, 0xfeff), (0xffa0, 0xffa0), (0xfff0, 0xfff8), (0x1bca0, 0x1bca3),
    (0x1d173, 0x1d17a), (0xe0000, 0xe0fff)]

def isGraphic (c : Char) : Bool :=
  if 0x20 ≤ c.toNat ∧ c.toNat < 0x7f then true
  else
    [controlRanges, formatRanges, separatorRanges, privateRanges, ignorableRanges, extendingRanges,
      unassignedRanges].all fun ranges => !inRanges ranges c

end QueueSupply.Text
