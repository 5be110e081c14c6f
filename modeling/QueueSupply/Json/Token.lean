import QueueSupply.Json.Number
import QueueSupply.Text.Utf16

set_option autoImplicit false

/-!
The tokens of a JSON text. A string is kept as sixteen-bit code units, because an escape may name
half of a surrogate pair; whether the units are a text is asked only where the string is used.
-/

namespace QueueSupply.Json

inductive Token
  | openBrace
  | closeBrace
  | openBracket
  | closeBracket
  | comma
  | colon
  | null
  | bool (b : Bool)
  | number (n : Number)
  | string (units : List UInt16)
  deriving DecidableEq

def isSpace (c : Char) : Bool := c == ' ' || c == '\t' || c == '\n' || c == '\r'

def hexDigit? (c : Char) : Option Nat :=
  if c.isDigit then some (c.toNat - '0'.toNat)
  else if 'a' ≤ c ∧ c ≤ 'f' then some (c.toNat - 'a'.toNat + 10)
  else if 'A' ≤ c ∧ c ≤ 'F' then some (c.toNat - 'A'.toNat + 10)
  else none

def hexUnit? (a b c d : Char) : Option UInt16 := do
  let a ← hexDigit? a
  let b ← hexDigit? b
  let c ← hexDigit? c
  let d ← hexDigit? d
  return UInt16.ofNat (((a * 16 + b) * 16 + c) * 16 + d)

def shortEscape? (c : Char) : Option Char :=
  if c = '"' then some '"'
  else if c = '\\' then some '\\'
  else if c = '/' then some '/'
  else if c = 'b' then some '\x08'
  else if c = 'f' then some '\x0c'
  else if c = 'n' then some '\n'
  else if c = 'r' then some '\r'
  else if c = 't' then some '\t'
  else none

def scanUnits? : List Char → Option (List UInt16 × List Char)
  | [] => none
  | '\\' :: 'u' :: a :: b :: c :: d :: rest => (hexUnit? a b c d).map fun u => ([u], rest)
  | '\\' :: c :: rest => (shortEscape? c).map fun c => (Text.unitsOfChar c, rest)
  | c :: rest =>
    if c = '\\' ∨ c = '"' ∨ c < ' ' then none else some (Text.unitsOfChar c, rest)

theorem scanUnits?_length {text rest : List Char} {units : List UInt16}
    (h : scanUnits? text = some (units, rest)) : rest.length < text.length := by
  unfold scanUnits? at h
  split at h
  · exact absurd h (by simp)
  · obtain ⟨u, -, hu⟩ := Option.map_eq_some_iff.mp h
    rw [← (Prod.mk.inj hu).2]
    simp only [List.length_cons]
    omega
  · obtain ⟨u, -, hu⟩ := Option.map_eq_some_iff.mp h
    rw [← (Prod.mk.inj hu).2]
    simp only [List.length_cons]
    omega
  · split at h
    · exact absurd h (by simp)
    · rw [← (Prod.mk.inj (Option.some.inj h)).2]
      exact Nat.lt_succ_self _

def scanString? (text : List Char) : Option (List UInt16 × List Char) :=
  match text with
  | '"' :: rest => some ([], rest)
  | text =>
    match _h : scanUnits? text with
    | none => none
    | some (units, rest) =>
      (scanString? rest).map fun (tail, rest) => (units ++ tail, rest)
termination_by text.length
decreasing_by exact scanUnits?_length (by assumption)

theorem scanString?_length {text rest : List Char} {units : List UInt16}
    (h : scanString? text = some (units, rest)) : rest.length < text.length := by
  fun_induction scanString? text generalizing units rest with
  | case1 rest' =>
    rw [← (Prod.mk.inj (Option.some.inj h)).2]
    exact Nat.lt_succ_self _
  | case2 => exact absurd h (by simp)
  | case3 text _ front middle step ih =>
    obtain ⟨⟨tail, last⟩, inner, eq⟩ := Option.map_eq_some_iff.mp h
    rw [← (Prod.mk.inj eq).2]
    exact Nat.lt_trans (ih inner) (scanUnits?_length step)

def scanToken? : List Char → Option (Token × List Char)
  | '\x7b' :: rest => some (.openBrace, rest)
  | '\x7d' :: rest => some (.closeBrace, rest)
  | '[' :: rest => some (.openBracket, rest)
  | ']' :: rest => some (.closeBracket, rest)
  | ',' :: rest => some (.comma, rest)
  | ':' :: rest => some (.colon, rest)
  | 'n' :: 'u' :: 'l' :: 'l' :: rest => some (.null, rest)
  | 't' :: 'r' :: 'u' :: 'e' :: rest => some (.bool true, rest)
  | 'f' :: 'a' :: 'l' :: 's' :: 'e' :: rest => some (.bool false, rest)
  | '"' :: rest => (scanString? rest).map fun (units, rest) => (.string units, rest)
  | text => (scanNumber? text).map fun (n, rest) => (.number n, rest)

theorem scanToken?_length {text rest : List Char} {t : Token}
    (h : scanToken? text = some (t, rest)) : rest.length < text.length := by
  unfold scanToken? at h
  split at h
  case h_10 =>
    obtain ⟨⟨units, last⟩, inner, eq⟩ := Option.map_eq_some_iff.mp h
    rw [← (Prod.mk.inj eq).2]
    exact Nat.lt_succ_of_lt (scanString?_length inner)
  case h_11 =>
    obtain ⟨⟨n, last⟩, inner, eq⟩ := Option.map_eq_some_iff.mp h
    rw [← (Prod.mk.inj eq).2]
    exact scanNumber?_length inner
  all_goals
    rw [← (Prod.mk.inj (Option.some.inj h)).2]
    simp only [List.length_cons]
    omega

def scan? (text : List Char) : Option (List Token) :=
  match _start : text.dropWhile isSpace with
  | [] => some []
  | c :: rest =>
    match _step : scanToken? (c :: rest) with
    | none => none
    | some (t, rest) => (scan? rest).map (t :: ·)
termination_by text.length
decreasing_by
  have short := scanToken?_length (by assumption)
  have := (List.dropWhile_sublist (l := text) isSpace).length_le
  rw [_start] at this
  omega

end QueueSupply.Json
