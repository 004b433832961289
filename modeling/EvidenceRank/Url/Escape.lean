/-!
# Escapes in URLs

A character that may not stand in a part of a URL is written as the bytes of its encoding, each as
a percent sign and two hexadecimal digits. Control characters and everything beyond ASCII are always
written so; each part has a set of further characters.
-/

namespace EvidenceRank.Url

/-- The digit of a value below sixteen, in capitals. -/
def capitalHexDigit (n : Nat) : Char :=
  if n < 10 then Char.ofNat (48 + n) else Char.ofNat (55 + n)

/-- The bytes of a character's encoding. -/
def encodedBytes (c : Char) : List UInt8 := (String.ofList [c]).toUTF8.toList

/-- A byte as an escape. -/
def escapeByte (b : UInt8) : List Char :=
  ['%', capitalHexDigit (b.toNat / 16), capitalHexDigit (b.toNat % 16)]

/-- A character in a part with a set of characters that are escaped. -/
def escapeChar (escaped : List Char) (c : Char) : List Char :=
  if c.toNat < 0x20 || 0x7F ≤ c.toNat || escaped.contains c then
    (encodedBytes c).flatMap escapeByte
  else [c]

/-- A text in a part with a set of characters that are escaped. -/
def escape (escaped : List Char) (cs : List Char) : String :=
  String.ofList (cs.flatMap (escapeChar escaped))

/-- What is escaped behind the mark of a fragment. -/
def fragmentEscaped : List Char := [' ', '"', '<', '>', '\x60']

/-- What is escaped in a segment of a path. -/
def pathEscaped : List Char := fragmentEscaped ++ ['#', '?', '{', '}']

/-- What is escaped in a name or a password. -/
def credentialEscaped : List Char :=
  pathEscaped ++ ['/', ':', ';', '=', '@', '[', '\\', ']', '^', '|']

/-- What is escaped in a query. In the common schemes that includes the single quote. -/
def queryEscaped (common : Bool) : List Char :=
  [' ', '"', '#', '<', '>'] ++ (if common then ['\''] else [])

/-- The value of a hexadecimal digit. -/
def hexDigit? (c : Char) : Option Nat :=
  if '0' ≤ c && c ≤ '9' then some (c.toNat - 48)
  else if 'a' ≤ c && c ≤ 'f' then some (c.toNat - 87)
  else if 'A' ≤ c && c ≤ 'F' then some (c.toNat - 55)
  else none

/-- The bytes of a text, its escapes undone. What looks like an escape but is none stays. -/
def unescape : List Char → List UInt8
  | [] => []
  | '%' :: a :: b :: cs =>
    match hexDigit? a, hexDigit? b with
    | some x, some y => (16 * x + y).toUInt8 :: unescape cs
    | _, _ => '%'.toUInt8 :: unescape (a :: b :: cs)
  | c :: cs => encodedBytes c ++ unescape cs
termination_by cs => cs.length

/-- The text of a text, its escapes undone, if it is one. -/
def unescaped? (cs : List Char) : Option String := String.fromUTF8? ⟨(unescape cs).toArray⟩

end EvidenceRank.Url
