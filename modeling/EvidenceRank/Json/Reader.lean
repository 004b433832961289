import EvidenceRank.Json.Numeral

/-!
# Reading interchange text

`Json.read?` reads a whole text as one value. Every function takes the characters that are left
and returns what it read with the characters behind it.

Some well-formed parts are read as `sealed`: a container below more than 127 others, a numeral too
large for a double, and a string with half of a surrogate pair.
-/

namespace EvidenceRank.Json

/-- The four blanks of the format. -/
def isGap (c : Char) : Bool := c == ' ' || c == '\n' || c == '\t' || c == '\r'

def skipGaps (cs : List Char) : List Char := cs.dropWhile isGap

/-- The value of a hexadecimal digit. -/
def hexValue? (c : Char) : Option Nat :=
  if '0' ≤ c && c ≤ '9' then some (c.toNat - 48)
  else if 'a' ≤ c && c ≤ 'f' then some (c.toNat - 87)
  else if 'A' ≤ c && c ≤ 'F' then some (c.toNat - 55)
  else none

/-- A piece of a string: a character, or a 16-bit unit given by its number. -/
inductive Piece where
  | char (c : Char)
  | unit (n : Nat)

/-- Four hexadecimal digits. -/
def unit? : List Char → Option (Nat × List Char)
  | a :: b :: c :: d :: rest => do
    let a ← hexValue? a
    let b ← hexValue? b
    let c ← hexValue? c
    let d ← hexValue? d
    return (((a * 16 + b) * 16 + c) * 16 + d, rest)
  | _ => none

/-- The character for the letter of a short escape. -/
def escaped? : Char → Option Char
  | '"' => some '"'
  | '\\' => some '\\'
  | '/' => some '/'
  | 'b' => some '\x08'
  | 'f' => some '\x0c'
  | 'n' => some '\n'
  | 'r' => some '\r'
  | 't' => some '\t'
  | _ => none

/-- The pieces of a string up to its closing quote; `fuel` bounds the characters. -/
def pieces? : Nat → List Char → Option (List Piece × List Char)
  | 0, _ => none
  | fuel + 1, cs =>
    match cs with
    | [] => none
    | '"' :: rest => some ([], rest)
    | '\\' :: 'u' :: rest => do
      let (n, rest) ← unit? rest
      let (ps, rest) ← pieces? fuel rest
      return (.unit n :: ps, rest)
    | '\\' :: c :: rest => do
      let c ← escaped? c
      let (ps, rest) ← pieces? fuel rest
      return (.char c :: ps, rest)
    | c :: rest =>
      if c.toNat < 0x20 || c == '\\' then none
      else do
        let (ps, rest) ← pieces? fuel rest
        return (.char c :: ps, rest)

def isHighHalf (n : Nat) : Bool := 0xD800 ≤ n && n ≤ 0xDBFF

def isLowHalf (n : Nat) : Bool := 0xDC00 ≤ n && n ≤ 0xDFFF

/-- Join the halves of surrogate pairs. `none` when a half stands alone. -/
def joinPieces : List Piece → Option (List Char)
  | [] => some []
  | .char c :: ps => (joinPieces ps).map (c :: ·)
  | .unit h :: .unit l :: ps =>
    if isHighHalf h then
      if isLowHalf l then
        (joinPieces ps).map (Char.ofNat (0x10000 + (h - 0xD800) * 0x400 + (l - 0xDC00)) :: ·)
      else none
    else if isLowHalf h then none
    else (joinPieces (.unit l :: ps)).map (Char.ofNat h :: ·)
  | .unit n :: ps =>
    if isHighHalf n || isLowHalf n then none
    else (joinPieces ps).map (Char.ofNat n :: ·)

/-- A string behind its opening quote; the inner `none` stands for a broken surrogate pair. -/
def string? (cs : List Char) : Option (Option String × List Char) := do
  let (ps, rest) ← pieces? (cs.length + 1) cs
  return ((joinPieces ps).map String.ofList, rest)

def isDigit (c : Char) : Bool := '0' ≤ c && c ≤ '9'

/-- The digits at the front, of which there must be one. -/
def digits? (cs : List Char) : Option (List Char × List Char) :=
  match cs.takeWhile isDigit with
  | [] => none
  | ds => some (ds, cs.dropWhile isDigit)

/-- The digits in front of the point: no zero leads others. -/
def wholeDigits? (cs : List Char) : Option (List Char × List Char) := do
  let (ds, rest) ← digits? cs
  if ds.length > 1 && ds.head? == some '0' then none else return (ds, rest)

def fractionDigits? : List Char → Option (Option (List Char) × List Char)
  | '.' :: cs => (digits? cs).map fun (ds, rest) => (some ds, rest)
  | cs => some (none, cs)

def exponentDigits? (cs : List Char) : Option (Option (Bool × List Char) × List Char) :=
  let signedDigits (cs : List Char) : Option (Option (Bool × List Char) × List Char) :=
    match cs with
    | '-' :: cs => (digits? cs).map fun (ds, rest) => (some (true, ds), rest)
    | '+' :: cs => (digits? cs).map fun (ds, rest) => (some (false, ds), rest)
    | cs => (digits? cs).map fun (ds, rest) => (some (false, ds), rest)
  match cs with
  | 'e' :: cs => signedDigits cs
  | 'E' :: cs => signedDigits cs
  | cs => some (none, cs)

/-- A numeral behind its sign. -/
def numeral? (negative : Bool) (cs : List Char) : Option (Numeral × List Char) := do
  let (whole, cs) ← wholeDigits? cs
  let (fraction, cs) ← fractionDigits? cs
  let (exponent, cs) ← exponentDigits? cs
  return (⟨negative, whole, fraction, exponent⟩, cs)

/-- Seal a container below which nothing is kept. -/
def within (room : Nat) (v : Json) : Json := if room = 0 then .sealed else v

mutual

/-- One value; `room` is how many nested containers may still be kept. -/
def value? : Nat → Nat → List Char → Option (Json × List Char)
  | 0, _, _ => none
  | fuel + 1, room, cs =>
    match skipGaps cs with
    | 'n' :: 'u' :: 'l' :: 'l' :: rest => some (.null, rest)
    | 't' :: 'r' :: 'u' :: 'e' :: rest => some (.bool true, rest)
    | 'f' :: 'a' :: 'l' :: 's' :: 'e' :: rest => some (.bool false, rest)
    | '"' :: rest => (string? rest).map fun (s, rest) => (s.elim .sealed .str, rest)
    | '[' :: rest =>
      match skipGaps rest with
      | ']' :: rest => some (within room (.arr []), rest)
      | rest => (items? fuel (room - 1) rest).map fun (vs, rest) => (within room (.arr vs), rest)
    | '{' :: rest =>
      match skipGaps rest with
      | '}' :: rest => some (within room (.obj []), rest)
      | rest => (members? fuel (room - 1) rest).map fun (ms, rest) =>
          (within room (ms.elim .sealed .obj), rest)
    | '-' :: rest => (numeral? true rest).map fun (n, rest) => (n.toJson, rest)
    | rest => (numeral? false rest).map fun (n, rest) => (n.toJson, rest)

/-- The values of an array up to its closing bracket. -/
def items? : Nat → Nat → List Char → Option (List Json × List Char)
  | 0, _, _ => none
  | fuel + 1, room, cs => do
    let (v, rest) ← value? fuel room cs
    match skipGaps rest with
    | ',' :: rest =>
      let (vs, rest) ← items? fuel room rest
      return (v :: vs, rest)
    | ']' :: rest => return ([v], rest)
    | _ => none

/-- The members of an object up to its closing brace; the inner `none` stands for a key that
cannot be kept. -/
def members? : Nat → Nat → List Char → Option (Option (List (String × Json)) × List Char)
  | 0, _, _ => none
  | fuel + 1, room, cs =>
    match skipGaps cs with
    | '"' :: rest => do
      let (key, rest) ← string? rest
      match skipGaps rest with
      | ':' :: rest =>
        let (v, rest) ← value? fuel room rest
        let member := key.map fun k => (k, v)
        match skipGaps rest with
        | ',' :: rest =>
          let (ms, rest) ← members? fuel room rest
          return ((do let m ← member; let ms ← ms; return m :: ms), rest)
        | '}' :: rest => return (member.map ([·]), rest)
        | _ => none
      | _ => none
    | _ => none

end

/-- How many containers may stand around a value that is kept. -/
def depthLimit : Nat := 127

/-- Read a whole text as one value. -/
def read? (text : String) : Option Json := do
  let cs := text.toList
  let (v, rest) ← value? (2 * cs.length + 2) depthLimit cs
  if (skipGaps rest).isEmpty then return v else none

end EvidenceRank.Json
