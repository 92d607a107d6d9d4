set_option autoImplicit false

namespace Relevance

/-- The datum of a format nearest to the given one, of two the one with the even mantissa. -/
def regrade (format : Float.Model.Format) :
    Float.Model.UnpackedFloat → Float.Model.UnpackedFloat
  | .finite sign mantissa exponent _ => .round format sign mantissa exponent
  | datum => datum

def widen (x : Float32) : Float :=
  .ofModel (.pack (regrade .binary64 x.toModel.unpack))

def narrow (x : Float) : Float32 :=
  .ofModel (.pack (regrade .binary32 x.toModel.unpack))

/-- A count below `2 ^ 64` as the nearest single. -/
def countToSingle (n : Nat) : Float32 :=
  (UInt64.ofNat n).toFloat32

/-- A count below `2 ^ 64` as the nearest double. -/
def countToDouble (n : Nat) : Float :=
  (UInt64.ofNat n).toFloat

end Relevance
