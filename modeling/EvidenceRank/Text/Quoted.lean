import EvidenceRank.Text.Escaped
import EvidenceRank.Text.LowerCase

/-!
# Quoted text in reports

How a text stands in a report that shows its structure (`ExpansionOutcome`): between quotes, on one
line, with the characters that would break it written as escapes.
-/

namespace EvidenceRank.Text

/-- The lower-case hexadecimal digits of a number, without leading zeros. -/
def hexDigits (n : Nat) : List Char := Nat.toDigits 16 n

/-- A character inside a quoted text. One that is not visible on its own is written by its
number. -/
def escapeForReport (c : Char) : List Char :=
  if c == '"' then ['\\', '"']
  else if c == '\\' then ['\\', '\\']
  else if c == '\n' then ['\\', 'n']
  else if c == '\r' then ['\\', 'r']
  else if c == '\t' then ['\\', 't']
  else if c == '\x00' then ['\\', '0']
  else if inRanges escapedRanges c then
    '\\' :: 'u' :: '\x7b' :: hexDigits c.toNat ++ ['\x7d']
  else [c]

/-- A text between quotes. -/
def quoteForReport (s : String) : String :=
  String.ofList ('"' :: s.toList.flatMap escapeForReport ++ ['"'])

end EvidenceRank.Text
