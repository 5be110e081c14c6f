import QueueSupply.Json.Token

set_option autoImplicit false

/-!
JSON values and their tokens. Reading keeps a stack of the arrays and objects that are still open,
so one pass over the tokens is enough and no value is too deep to be read. The members of an object
keep their order, and a key may occur more than once.
-/

namespace QueueSupply

inductive Json
  | null
  | bool (b : Bool)
  | number (n : Json.Number)
  | string (units : List UInt16)
  | array (items : List Json)
  | object (members : List (List UInt16 × Json))

namespace Json

mutual
def tokens : Json → List Token
  | .null => [.null]
  | .bool b => [.bool b]
  | .number n => [.number n]
  | .string units => [.string units]
  | .array items => .openBracket :: (itemTokens items ++ [.closeBracket])
  | .object members => .openBrace :: (memberTokens members ++ [.closeBrace])

def itemTokens : List Json → List Token
  | [] => []
  | [v] => tokens v
  | v :: w :: rest => tokens v ++ .comma :: itemTokens (w :: rest)

def memberTokens : List (List UInt16 × Json) → List Token
  | [] => []
  | [(key, v)] => .string key :: .colon :: tokens v
  | (key, v) :: member :: rest =>
    .string key :: .colon :: (tokens v ++ .comma :: memberTokens (member :: rest))
end

/-- An array or object that is still open, with what it holds so far. -/
inductive Frame
  | array (items : List Json)
  | object (members : List (List UInt16 × Json))
  | member (members : List (List UInt16 × Json)) (key : List UInt16)

inductive Expected
  | value
  | firstItem
  | firstKey
  | key
  | colon
  | afterValue (v : Json)

structure Reader where
  expected : Expected
  stack : List Frame

def Reader.begin (stack : List Frame) : Token → Option Reader
  | .null => some ⟨.afterValue .null, stack⟩
  | .bool b => some ⟨.afterValue (.bool b), stack⟩
  | .number n => some ⟨.afterValue (.number n), stack⟩
  | .string units => some ⟨.afterValue (.string units), stack⟩
  | .openBracket => some ⟨.firstItem, .array [] :: stack⟩
  | .openBrace => some ⟨.firstKey, .object [] :: stack⟩
  | _ => none

def Reader.name : List Frame → Token → Option Reader
  | .object members :: stack, .string key => some ⟨.colon, .member members key :: stack⟩
  | _, _ => none

def Reader.proceed (v : Json) : List Frame → Token → Option Reader
  | .array items :: stack, .comma => some ⟨.value, .array (items ++ [v]) :: stack⟩
  | .array items :: stack, .closeBracket => some ⟨.afterValue (.array (items ++ [v])), stack⟩
  | .member members key :: stack, .comma =>
    some ⟨.key, .object (members ++ [(key, v)]) :: stack⟩
  | .member members key :: stack, .closeBrace =>
    some ⟨.afterValue (.object (members ++ [(key, v)])), stack⟩
  | _, _ => none

def Reader.step (r : Reader) (t : Token) : Option Reader :=
  match r.expected with
  | .value => begin r.stack t
  | .firstItem =>
    match r.stack, t with
    | .array [] :: stack, .closeBracket => some ⟨.afterValue (.array []), stack⟩
    | stack, t => begin stack t
  | .firstKey =>
    match r.stack, t with
    | .object [] :: stack, .closeBrace => some ⟨.afterValue (.object []), stack⟩
    | stack, t => name stack t
  | .key => name r.stack t
  | .colon => if t = .colon then some ⟨.value, r.stack⟩ else none
  | .afterValue v => proceed v r.stack t

def ofTokens? (ts : List Token) : Option Json :=
  match ts.foldlM Reader.step ⟨.value, []⟩ with
  | some ⟨.afterValue v, []⟩ => some v
  | _ => none

def parse? (text : List Char) : Option Json := (scan? text).bind ofTokens?

def hexDigits (n : Nat) : List Char :=
  [Nat.digitChar (n / 4096 % 16), Nat.digitChar (n / 256 % 16), Nat.digitChar (n / 16 % 16),
    Nat.digitChar (n % 16)]

def spellUnit (u : UInt16) : List Char :=
  if 0x20 ≤ u.toNat ∧ u.toNat < 0x7f ∧ u.toNat ≠ 0x22 ∧ u.toNat ≠ 0x5c then
    [Char.ofNat u.toNat]
  else '\\' :: 'u' :: hexDigits u.toNat

def Token.spell : Token → List Char
  | .openBrace => ['\x7b']
  | .closeBrace => ['\x7d']
  | .openBracket => ['[']
  | .closeBracket => [']']
  | .comma => [',']
  | .colon => [':']
  | .null => ['n', 'u', 'l', 'l']
  | .bool true => ['t', 'r', 'u', 'e']
  | .bool false => ['f', 'a', 'l', 's', 'e']
  | .number n => n.literal
  | .string units => '"' :: (units.flatMap spellUnit ++ ['"'])

/-- The text of a value without blanks and in ASCII only. -/
def compact (v : Json) : List Char := v.tokens.flatMap Token.spell

end Json

end QueueSupply
