import EvidenceRank.Decimal.Layout
import EvidenceRank.Json.Value

/-!
# Writing interchange text

`compact` writes a value without blanks. `pretty` puts every item and member on a line of its own,
indented by two blanks per level; an empty container stays on its line.
-/

namespace EvidenceRank.Json

/-- The four digits of a control character's escape. -/
def controlDigits (n : Nat) : List Char :=
  let digit (d : Nat) : Char := if d < 10 then Char.ofNat (48 + d) else Char.ofNat (87 + d)
  ['0', '0', digit (n / 16), digit (n % 16)]

/-- A character inside a string. -/
def escape (c : Char) : List Char :=
  if c == '"' then ['\\', '"']
  else if c == '\\' then ['\\', '\\']
  else if c == '\x08' then ['\\', 'b']
  else if c == '\x0c' then ['\\', 'f']
  else if c == '\n' then ['\\', 'n']
  else if c == '\r' then ['\\', 'r']
  else if c == '\t' then ['\\', 't']
  else if c.toNat < 0x20 then '\\' :: 'u' :: controlDigits c.toNat
  else [c]

/-- A string between quotes. -/
def quote (s : String) : String :=
  String.ofList ('"' :: s.toList.flatMap escape ++ ['"'])

/-- A number: an integer by its digits, a float by its shortest decimal. -/
def numberText : Number → String
  | .int i => toString i
  | .double x => Decimal.interchange.text (.ofDouble x)
  | .single x => Decimal.interchangeSingle.text (.ofSingle x)

mutual

/-- The value without blanks. -/
def compact : Json → String
  | .null => "null"
  | .bool b => if b then "true" else "false"
  | .num n => numberText n
  | .str s => quote s
  | .arr items => "[" ++ ",".intercalate (compactItems items) ++ "]"
  | .obj members => "\x7b" ++ ",".intercalate (compactMembers members) ++ "\x7d"
  | .sealed => "null"

def compactItems : List Json → List String
  | [] => []
  | v :: vs => compact v :: compactItems vs

def compactMembers : List (String × Json) → List String
  | [] => []
  | (k, v) :: ms => (quote k ++ ":" ++ compact v) :: compactMembers ms

end

/-- A line break and the indentation of a level. -/
def lineAt (level : Nat) : String :=
  String.ofList ('\n' :: List.replicate (2 * level) ' ')

/-- Entries between brackets, each on a line one level in. -/
def bracketed (level : Nat) (left right : String) (entries : List String) : String :=
  if entries.isEmpty then left ++ right
  else left ++ lineAt (level + 1) ++ ("," ++ lineAt (level + 1)).intercalate entries
    ++ lineAt level ++ right

mutual

/-- The value on several lines, at an indentation level. -/
def prettyAt (level : Nat) : Json → String
  | .null => "null"
  | .bool b => if b then "true" else "false"
  | .num n => numberText n
  | .str s => quote s
  | .arr items => bracketed level "[" "]" (prettyItems (level + 1) items)
  | .obj members => bracketed level "\x7b" "\x7d" (prettyMembers (level + 1) members)
  | .sealed => "null"

def prettyItems (level : Nat) : List Json → List String
  | [] => []
  | v :: vs => prettyAt level v :: prettyItems level vs

def prettyMembers (level : Nat) : List (String × Json) → List String
  | [] => []
  | (k, v) :: ms => (quote k ++ ": " ++ prettyAt level v) :: prettyMembers level ms

end

/-- The value on several lines. -/
def pretty (v : Json) : String := prettyAt 0 v

end EvidenceRank.Json
