import QueueSupply.Config.Basic
import QueueSupply.Json.Value

set_option autoImplicit false

/-!
Configurations as JSON: an object with a member for each size, or an array of the sizes in order.
Members of other names are ignored, a missing size stands for the default one, and a size is an
integer literal without sign, fraction or exponent.
-/

namespace QueueSupply.Config

def xsMember : List Char := "xs_buffer_size".toList

def smallMember : List Char := "small_buffer_size".toList

def jsonSize? : Json → Option UInt64
  | .number n => n.size?
  | _ => none

/-- The keys as texts; none if a key has half of a surrogate pair. -/
def textMembers? (members : List (List UInt16 × Json)) : Option (List (List Char × Json)) :=
  members.mapM fun (key, v) => (Text.textOfUnits? key).map fun key => (key, v)

/-- The size of the member called `name`, which may be missing but must not be there twice. -/
def memberSize? (name : List Char) (missing : UInt64) (members : List (List Char × Json)) :
    Option UInt64 :=
  match members.filter fun (key, _) => key == name with
  | [] => some missing
  | [(_, v)] => jsonSize? v
  | _ => none

def ofMembers? (members : List (List Char × Json)) : Option Config := do
  let xs ← memberSize? xsMember defaultXs members
  let small ← memberSize? smallMember defaultSmall members
  return ofSizes xs small

def ofItems? : List Json → Option Config
  | [] => some default
  | [xs] => (jsonSize? xs).map fun xs => ofSizes xs defaultSmall
  | [xs, small] => do
    let xs ← jsonSize? xs
    let small ← jsonSize? small
    return ofSizes xs small
  | _ => none

def ofJson? : Json → Option Config
  | .object members => (textMembers? members).bind ofMembers?
  | .array items => ofItems? items
  | _ => none

def ofJsonText? (text : String) : Option Config := (Json.parse? text.toList).bind ofJson?

def toJson (c : Config) : Json :=
  .object [(Text.unitsOfText xsMember, .number (.ofNat c.xs.toNat)),
    (Text.unitsOfText smallMember, .number (.ofNat c.small.toNat))]

def jsonText (c : Config) : String := String.ofList c.toJson.compact

end QueueSupply.Config
