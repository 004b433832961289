/-!
# Single and double precision

The two widths of floats, converted by the numbers that they stand for: a single is a double as it
is, and of a double the nearest single is taken, an even one where two are equally near.
-/

namespace EvidenceRank.Decimal

open Float.Model (Format UnpackedFloat)

/-- The nearest float of a format; one too large for it is packed as infinite. -/
def nearest (format : Format) : UnpackedFloat → UnpackedFloat
  | .finite sign mantissa exponent _ => .round format sign mantissa exponent
  | x => x

/-- The double of a single. -/
def widen (x : Float32) : Float := .ofModel (.pack (nearest .binary64 x.toModel.unpack))

/-- The nearest single of a double. -/
def narrow (x : Float) : Float32 := .ofModel (.pack (nearest .binary32 x.toModel.unpack))

end EvidenceRank.Decimal
