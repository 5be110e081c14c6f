import QueueSupply.Text.Describe

set_option autoImplicit false

namespace QueueSupply

def Config.minXs : UInt64 := 8

def Config.minSmall : UInt64 := 16

structure Config where
  xs : UInt64
  small : UInt64
  minXs_le : Config.minXs ≤ xs
  minSmall_le : Config.minSmall ≤ small
  deriving DecidableEq

namespace Config

def atLeast (minimum size : UInt64) : UInt64 := if size < minimum then minimum else size

theorem le_atLeast (minimum size : UInt64) : minimum ≤ atLeast minimum size := by
  unfold atLeast
  split
  · exact UInt64.le_refl _
  · next h => exact UInt64.not_lt.mp h

def defaultXs : UInt64 := 32

def defaultSmall : UInt64 := 256

def ofSizes (xs small : UInt64) : Config :=
  ⟨atLeast minXs xs, atLeast minSmall small, le_atLeast minXs xs, le_atLeast minSmall small⟩

def default : Config := ofSizes defaultXs defaultSmall

inductive Setting
  | xs (size : UInt64)
  | small (size : UInt64)
  deriving DecidableEq

def set (c : Config) : Setting → Config
  | .xs size => { c with xs := atLeast minXs size, minXs_le := le_atLeast minXs size }
  | .small size =>
    { c with small := atLeast minSmall size, minSmall_le := le_atLeast minSmall size }

def ofSettings (settings : List Setting) : Config := settings.foldl set default

instance : Describe Setting where
  describe
    | .xs size => describeVariant "SetXsBufferSize" (describe size)
    | .small size => describeVariant "SetSmallBufferSize" (describe size)

instance : Describe Config where
  describe c :=
    describeRecord "QueuesConfig"
      [("xs_buffer_size", describe c.xs), ("small_buffer_size", describe c.small)]

end Config

end QueueSupply
