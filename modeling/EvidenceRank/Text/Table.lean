/-!
# Tables as text

A table of numbers, written in hexadecimal digits. Numbers are set apart by blanks or line breaks,
and each row ends with a semicolon.

* `rows`: the rows of a table.
* `ranges`: the ranges that the rows of a table stand for.
-/

namespace EvidenceRank.Text

/-- What is read of a table: the rows, the numbers of the row at hand, both last first, and the
number at hand. -/
structure TableRows where
  rows : List (List Nat) := []
  row : List Nat := []
  number : Option Nat := none

/-- The value of a digit. -/
def tableDigit? (c : Char) : Option Nat :=
  if c.isDigit then some (c.toNat - 48)
  else if 'A' ≤ c && c ≤ 'F' then some (c.toNat - 55)
  else none

/-- Read one character of a table. -/
def TableRows.read (t : TableRows) (c : Char) : TableRows :=
  match tableDigit? c with
  | some d => { t with number := some (16 * t.number.getD 0 + d) }
  | none =>
    let row := t.number.toList ++ t.row
    if c == ';' then { rows := row.reverse :: t.rows } else { rows := t.rows, row }

/-- The rows of a table. -/
def rows (table : String) : List (List Nat) :=
  (table.toList.foldl TableRows.read {}).rows.reverse

/-- The ranges that the rows of a table stand for: one number is a range of its own. -/
def ranges (table : String) : List (Nat × Nat) :=
  (rows table).filterMap fun
    | [n] => some (n, n)
    | [first, last] => some (first, last)
    | _ => none

end EvidenceRank.Text
