import Mathlib.Tactic.Common

/-!
The order tests of binary32 floating point on bit patterns. Below the sign bit
the patterns of ordered values increase with the value, so a pattern is compared
as a sign and a magnitude; a comparison with a NaN is false.
-/

namespace Binary32

def magnitude (word : UInt32) : Int := (word &&& 0x7fffffff).toNat

def signed (word : UInt32) : Int :=
  if word &&& 0x80000000 == 0 then magnitude word else -magnitude word

def isNaN (word : UInt32) : Bool :=
  word &&& 0x7f800000 == 0x7f800000 && word &&& 0x007fffff != 0

def lt (left right : UInt32) : Bool :=
  !isNaN left && !isNaN right && decide (signed left < signed right)

def le (left right : UInt32) : Bool :=
  !isNaN left && !isNaN right && decide (signed left ≤ signed right)

def eq (left right : UInt32) : Bool :=
  !isNaN left && !isNaN right && decide (signed left = signed right)

example : lt 0x3f800000 0x40000000 = true ∧ eq 0 0x80000000 = true ∧ lt 0xbf800000 0 = true ∧
    le 0x7fc00000 0x7fc00000 = false := by
  decide

end Binary32
