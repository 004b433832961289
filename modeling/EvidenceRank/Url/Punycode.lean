/-!
# Punycode

A text beyond ASCII, written in ASCII: its ASCII characters come first; behind a hyphen follow the
places and values of the others, in the order of their values. Each is one number, the distance
from the one before, written in digits whose weights adapt to the distances seen so far.

* `encode`: the code of a text.
* `decode?`: the text of a code.
-/

namespace EvidenceRank.Url.Punycode

/-- The digit of a value below 36. -/
def digit (n : Nat) : Char := if n < 26 then Char.ofNat (97 + n) else Char.ofNat (22 + n)

/-- The value of a digit. -/
def digit? (c : Char) : Option Nat :=
  if 'a' ≤ c && c ≤ 'z' then some (c.toNat - 97)
  else if '0' ≤ c && c ≤ '9' then some (c.toNat - 22)
  else none

/-- A digit below the threshold of its place is the last one. Places count 36, 72, …. -/
def threshold (place bias : Nat) : Nat := max 1 (min 26 (place - bias))

theorem threshold_pos (place bias : Nat) : 0 < threshold place bias := by
  unfold threshold; omega

/-- The bias that fits distances about as large as `distance`. -/
def biasOf (place distance : Nat) : Nat :=
  if 455 < distance then biasOf (place + 36) (distance / 35)
  else place + 36 * distance / (distance + 38)
termination_by distance

/-- The bias behind a distance, which made a text of `count` characters. -/
def adapted (distance count : Nat) (isFirst : Bool) : Nat :=
  let distance := distance / (if isFirst then 700 else 2)
  biasOf 0 (distance + distance / count)

/-! ## Encoding -/

/-- The digits of a number, from a place on. -/
def digitsFrom (bias place n : Nat) : List Char :=
  let t := threshold place bias
  if n < t then [digit n]
  else digit (t + (n - t) % (36 - t)) :: digitsFrom bias (place + 36) ((n - t) / (36 - t))
termination_by n
decreasing_by
  have := threshold_pos place bias
  exact Nat.lt_of_le_of_lt (Nat.div_le_self _ _) (by omega)

/-- What has been encoded. -/
structure Encoding where
  code : List Char
  distance : Nat := 0
  bias : Nat := 72
  /-- How many characters the code stands for. -/
  count : Nat

/-- Pass a character of the text when the characters of value `n` are encoded; `first` is the number
of those in ASCII. -/
def Encoding.pass (first n : Nat) (e : Encoding) (c : Char) : Encoding :=
  if c.toNat < n then { e with distance := e.distance + 1 }
  else if c.toNat = n then
    { code := e.code ++ digitsFrom e.bias 36 e.distance
      bias := adapted e.distance (e.count + 1) (e.count == first)
      count := e.count + 1 }
  else e

/-- Encode the characters of the values that are left, in order; `n` is the least that was not yet
looked at. -/
def Encoding.finish (cs : List Char) (first n : Nat) (e : Encoding) : List Nat → List Char
  | [] => e.code
  | value :: values =>
    let e := { e with distance := e.distance + (value - n) * (e.count + 1) }
    let e := cs.foldl (Encoding.pass first value) e
    Encoding.finish cs first (value + 1) { e with distance := e.distance + 1 } values

/-- The code of a text. -/
def encode (cs : List Char) : List Char :=
  let (plain, others) := cs.partition (·.toNat < 128)
  let code := if plain.isEmpty then [] else plain ++ ['-']
  let values := (others.map Char.toNat).eraseDups.mergeSort
  Encoding.finish cs plain.length 128 { code, count := plain.length } values

/-! ## Decoding -/

/-- The number in front of a code, its digits weighing `weight` from a place on. -/
def number? (bias place weight : Nat) : List Char → Option (Nat × List Char)
  | [] => none
  | c :: cs => do
    let d ← digit? c
    let t := threshold place bias
    if d < t then return (d * weight, cs)
    let (n, rest) ← number? bias (place + 36) (weight * (36 - t)) cs
    return (d * weight + n, rest)

theorem length_lt_of_number? {bias place weight n : Nat} {cs rest : List Char}
    (h : number? bias place weight cs = some (n, rest)) : rest.length < cs.length := by
  induction cs generalizing place weight n rest with
  | nil => simp [number?] at h
  | cons c cs ih =>
    rw [number?] at h
    cases hd : digit? c with
    | none => simp [hd] at h
    | some d =>
      simp only [hd, Option.bind_eq_bind, Option.bind_some] at h
      split at h
      · simp only [Option.pure_def, Option.some.injEq, Prod.mk.injEq] at h
        simp [← h.2]
      · cases hr : number? bias (place + 36) (weight * (36 - threshold place bias)) cs with
        | none => simp [hr] at h
        | some r =>
          simp only [hr, Option.bind_some, Option.pure_def, Option.some.injEq, Prod.mk.injEq] at h
          have := @ih (place + 36) _ r.1 r.2 hr
          simp only [h.2] at this
          simp only [List.length_cons]
          omega

/-- Put the characters of a code into a text. The last one had value `n`, and the next comes at
place `i` at the earliest. -/
def decodeFrom (n i bias : Nat) (text : List Char) (code : List Char) : Option (List Char) :=
  if code.isEmpty then some text
  else match h : number? bias 36 1 code with
    | none => none
    | some (distance, rest) =>
      let count := text.length + 1
      let n := n + (i + distance) / count
      let place := (i + distance) % count
      if n.isValidChar then
        decodeFrom n (place + 1) (adapted distance count (i == 0))
          (text.insertIdx place (Char.ofNat n)) rest
      else none
termination_by code.length
decreasing_by exact length_lt_of_number? h

/-- The text of a code, whose letters are small. -/
def decode? (code : List Char) : Option (List Char) :=
  let tail := (code.reverse.takeWhile (· != '-')).reverse
  let plain := code.take (code.length - tail.length - 1)
  if plain.any (128 ≤ ·.toNat) then none
  else decodeFrom 128 0 72 plain (if plain.isEmpty then code else tail)

end EvidenceRank.Url.Punycode
