import EvidenceRank.Url.Domain
import EvidenceRank.Url.Escape

/-!
# Hosts

The host of a URL is a name or an address. The addresses of version 4 may be written in several
bases and with fewer than four parts; those of version 6 stand between brackets and may leave out
one run of zeros.
-/

namespace EvidenceRank.Url

inductive Host where
  | name (text : String)
  /-- An address of version 4: a number below two to the power of 32. -/
  | ipv4 (address : Nat)
  /-- An address of version 6: eight numbers below two to the power of 16. -/
  | ipv6 (pieces : List Nat)
deriving DecidableEq

/-- The number that digits of a base stand for. -/
def numberInBase? (base : Nat) (cs : List Char) : Option Nat :=
  cs.foldl (fun n? c => do
    let n ← n?
    let d ← hexDigit? c
    if d < base then return base * n + d else none) (some 0)

/-! ## Addresses of version 4 -/

/-- A part of an address: decimal, octal behind a zero, or hexadecimal behind `0x`. -/
def ipv4Number? : List Char → Option Nat
  | [] => none
  | '0' :: 'x' :: cs => numberInBase? 16 cs
  | '0' :: 'X' :: cs => numberInBase? 16 cs
  | ['0'] => some 0
  | '0' :: cs => numberInBase? 8 cs
  | cs => numberInBase? 10 cs

/-- The parts of a name between dots; a dot at the end does not count. -/
def ipv4Parts (cs : List Char) : List (List Char) :=
  let ps := parts '.' cs
  if 1 < ps.length && ps.getLast? == some [] then ps.dropLast else ps

/-- A name that ends in a number has to be an address. -/
def endsInNumber (cs : List Char) : Bool :=
  match (ipv4Parts cs).getLast? with
  | some p => (!p.isEmpty && p.all Char.isDigit) || (ipv4Number? p).isSome
  | none => false

/-- The address of at most four parts. Each stands for a byte, the last for all that are left. -/
def ipv4? (cs : List Char) : Option Nat := do
  let numbers ← (ipv4Parts cs).mapM ipv4Number?
  let low ← numbers.getLast?
  let high := numbers.dropLast
  if 3 < high.length || high.any (255 < ·) then none
  if Nat.pow 256 (4 - high.length) ≤ low then none
  return high.foldl (fun n b => 256 * n + b) 0 * Nat.pow 256 (4 - high.length) + low

def ipv4Text (address : Nat) : String :=
  ".".intercalate ([3, 2, 1, 0].map fun i => toString (address / Nat.pow 256 i % 256))

/-! ## Addresses of version 6 -/

/-- A decimal byte without leading zeros. -/
def decimalByte? (cs : List Char) : Option Nat :=
  if cs.isEmpty || 3 < cs.length || (1 < cs.length && cs.head? == some '0') then none
  else (numberInBase? 10 cs).filter (· ≤ 255)

/-- Two pieces from four decimal bytes. -/
def embeddedPieces? (cs : List Char) : Option (List Nat) := do
  match ← (parts '.' cs).mapM decimalByte? with
  | [a, b, c, d] => return [256 * a + b, 256 * c + d]
  | _ => none

/-- A piece of one to four hexadecimal digits. -/
def piece? (cs : List Char) : Option Nat :=
  if cs.isEmpty || 4 < cs.length then none else numberInBase? 16 cs

/-- The pieces of a text without gap. The last may be four decimal bytes if `final`. -/
def pieces? (final : Bool) (cs : List Char) : Option (List Nat) := do
  if cs.isEmpty then return []
  let ps := parts ':' cs
  let last ← ps.getLast?
  let initial ← ps.dropLast.mapM piece?
  if final && last.contains '.' then return initial ++ (← embeddedPieces? last)
  else return initial ++ [← piece? last]

/-- Split a text at its first gap, two colons. -/
def splitGap? : List Char → Option (List Char × List Char)
  | [] => none
  | ':' :: ':' :: cs => some ([], cs)
  | c :: cs => (splitGap? cs).map fun (a, b) => (c :: a, b)

/-- The pieces of an address. A gap stands for one zero or more. -/
def ipv6? (cs : List Char) : Option (List Nat) :=
  match splitGap? cs with
  | none => do
    let ps ← pieces? true cs
    if ps.length = 8 then return ps else none
  | some (front, back) => do
    let front ← pieces? false front
    let back ← pieces? true back
    if front.length + back.length < 8 then
      return front ++ List.replicate (8 - front.length - back.length) 0 ++ back
    else none

/-- How many zeros the list starts with. -/
def zeroRun (ps : List Nat) : Nat := (ps.takeWhile (· == 0)).length

/-- Where the first of the longest runs of at least two zeros starts, and its length. -/
def longestGap? (ps : List Nat) : Option (Nat × Nat) :=
  (List.range ps.length).foldl (fun best i =>
    let n := zeroRun (ps.drop i)
    if n < 2 then best
    else match best with
      | some (_, m) => if m < n then some (i, n) else best
      | none => some (i, n)) none

def piecesText (ps : List Nat) : String :=
  ":".intercalate (ps.map fun p => String.ofList (Nat.toDigits 16 p))

def ipv6Text (ps : List Nat) : String :=
  match longestGap? ps with
  | some (i, n) => piecesText (ps.take i) ++ "::" ++ piecesText (ps.drop (i + n))
  | none => piecesText ps

/-! ## Reading and writing -/

namespace Host

/-- An address between brackets. -/
def bracketed? (cs : List Char) : Option Host :=
  if cs.getLast? == some ']' then (ipv6? cs.tail.dropLast).map .ipv6 else none

/-- The host of one of the common schemes, which is not empty. -/
def common? (cs : List Char) : Option Host := do
  if cs.head? == some '[' then bracketed? cs
  else
    let name ← domain? (← unescaped? cs).toList
    if name.isEmpty then none
    else if endsInNumber name then return .ipv4 (← ipv4? name)
    else return .name (String.ofList name)

/-- The characters that cannot stand in a host. -/
def forbidden : List Char :=
  ['\x00', '\t', '\n', '\r', ' ', '#', '/', ':', '<', '>', '?', '@', '[', '\\', ']', '^', '|']

/-- The host of another scheme, which may be empty. -/
def plain? (cs : List Char) : Option Host :=
  if cs.head? == some '[' then bracketed? cs
  else if cs.any forbidden.contains then none
  else some (.name (escape [] cs))

/-- The host as it stands in a URL. -/
def text : Host → String
  | name text => text
  | ipv4 address => ipv4Text address
  | ipv6 pieces => "[" ++ ipv6Text pieces ++ "]"

end Host
end EvidenceRank.Url
