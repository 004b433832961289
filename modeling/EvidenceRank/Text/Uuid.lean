/-!
# Random identifiers

The text of an identifier made of random bits: 32 hexadecimal digits in five groups, of which one
tells that the identifier is random and the top of another tells the variant.
-/

namespace EvidenceRank.Text

/-- The lower-case hexadecimal digits of `n`, the last `count` of them. -/
def hexField (count n : Nat) : List Char :=
  (List.range count).reverse.map fun i => Nat.digitChar (n / Nat.pow 16 i % 16)

/-- The identifier of 122 random bits. -/
def randomId (bits : Nat) : String :=
  let group (count skip : Nat) : List Char := hexField count (bits / Nat.pow 16 skip)
  String.ofList (group 8 0 ++ '-' :: group 4 8 ++ '-' :: '4' :: group 3 12
    ++ '-' :: hexField 1 (8 + bits / Nat.pow 16 15 % 4) ++ group 3 16 ++ '-' :: group 12 19)

end EvidenceRank.Text
