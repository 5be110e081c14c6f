import QueueSupply.Config.Basic
import QueueSupply.Text.Blank

set_option autoImplicit false

namespace QueueSupply

structure ConfigError where
  key : String
  value : String
  deriving DecidableEq

namespace ConfigError

def message (e : ConfigError) : String :=
  "Invalid value for " ++ e.key ++ ": " ++ describe e.value

instance : Describe ConfigError where
  describe e :=
    describeRecord "InvalidConfig" [("key", describe e.key), ("value", describe e.value)]

end ConfigError

namespace Config

def xsKey : String := "NEXUS_QUEUES_BUFFER_SIZE_XS"

def smallKey : String := "NEXUS_QUEUES_BUFFER_SIZE_SMALL"

def readSize? (text : String) : Option UInt64 := Text.readPlusSize? (Text.trim text.toList)

def lookupSize (lookup : String → Option String) (key : String) (missing : UInt64) :
    Except ConfigError UInt64 :=
  match lookup key with
  | none => .ok missing
  | some text =>
    match readSize? text with
    | some size => .ok size
    | none => .error ⟨key, text⟩

/-- Reads the extra small size first, so its error is the one that is reported. -/
def ofLookup (lookup : String → Option String) : Except ConfigError Config :=
  match lookupSize lookup xsKey defaultXs with
  | .error e => .error e
  | .ok xs =>
    match lookupSize lookup smallKey defaultSmall with
    | .error e => .error e
    | .ok small => .ok (ofSizes xs small)

end Config

abbrev Environment := String → Option ByteArray

namespace Environment

def text? (env : Environment) (key : String) : Option String := (env key).bind String.fromUTF8?

end Environment

namespace Config

def ofEnvironment (env : Environment) : Except ConfigError Config := ofLookup env.text?

/-- The configuration of the process-wide factory: the default one if the environment's is bad. -/
def shared (env : Environment) : Config :=
  match ofEnvironment env with
  | .ok c => c
  | .error _ => default

end Config

end QueueSupply
