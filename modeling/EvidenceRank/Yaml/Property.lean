import EvidenceRank.Yaml.Scalar

/-!
# Names, tags and directives

The marks that a text puts on its nodes: a name that other places refer to, and a tag that says
what kind of value the node is. Directives at the top of a document say which version of the format
it uses and which handles its tags have.
-/

namespace EvidenceRank.Yaml

/-- A name behind its mark. It must end where a word ends or before one of a few indicators. -/
def name? (cur : Cursor) : Option (String × Cursor) :=
  let (name, cur) := cur.span isNameChar
  let ends := endsWord cur.rest
    || cur.rest.head?.any ['?', ':', ',', ']', '\x7d', '%', '@', '\x60'].contains
  if !name.isEmpty && ends then some (String.ofList name, cur) else none

/-! ## Tags -/

/-- The character may stand in a tag; some only in one between angle brackets. -/
def isTagChar (bracketed : Bool) (c : Char) : Bool :=
  isNameChar c
    || [';', '/', '?', ':', '@', '&', '=', '+', '$', '.', '%', '!', '~', '*', '\'', '(',
      ')'].contains c
    || (bracketed && [',', '[', ']'].contains c)

/-- The byte that an escape of three characters stands for. -/
def escapedByte? : List Char → Option UInt8
  | '%' :: a :: b :: _ => do return (16 * (← hexDigit? a) + (← hexDigit? b)).toUInt8
  | _ => none

/-- How many bytes the character has that starts with a byte. -/
def encodedLength? (b : UInt8) : Option Nat :=
  if b < 0x80 then some 1
  else if b &&& 0xE0 == 0xC0 then some 2
  else if b &&& 0xF0 == 0xE0 then some 3
  else if b &&& 0xF8 == 0xF0 then some 4
  else none

/-- The character that escapes at the cursor stand for, and how many escapes those are. -/
def escapedChar? (cs : List Char) : Option (Char × Nat) := do
  let n ← encodedLength? (← escapedByte? cs)
  let bytes ← (List.range n).mapM fun i => escapedByte? (cs.drop (3 * i))
  match (← String.fromUTF8? ⟨bytes.toArray⟩).toList with
  | [c] => return (c, n)
  | _ => none

/-- The rest of a tag, which is held from last to first. -/
def tagText? (bracketed : Bool) : Nat → List Char → Cursor → Option (List Char × Cursor)
  | 0, _, _ => none
  | fuel + 1, text, cur =>
    match cur.rest with
    | [] => some (text.reverse, cur)
    | c :: _ =>
      if !isTagChar bracketed c then some (text.reverse, cur)
      else if c == '%' then do
        let (d, n) ← escapedChar? cur.rest
        tagText? bracketed fuel (d :: text) (cur.skip (3 * n))
      else tagText? bracketed fuel (c :: text) cur.next

/-- A handle: an exclamation mark, and perhaps a name and a second one. -/
def tagHandle? (cur : Cursor) : Option (List Char × Cursor) :=
  match cur.rest with
  | '!' :: _ =>
    let (name, cur) := cur.next.span isNameChar
    if cur.rest.head? == some '!' then some ('!' :: name ++ ['!'], cur.next)
    else some ('!' :: name, cur)
  | _ => none

/-- A tag by its handle and what follows it. A tag that is written out has no handle. -/
structure Tag where
  handle : String
  content : String
deriving DecidableEq

/-- The tag at the cursor. -/
def tag? (inFlow : Bool) (cur : Cursor) : Option (Tag × Cursor) := do
  let fuel := cur.rest.length + 1
  let (tag, cur) ←
    if cur.rest[1]? == some '<' then do
      let (text, cur) ← tagText? true fuel [] (cur.skip 2)
      if text.isEmpty || cur.rest.head? != some '>' then none
      pure (⟨"", String.ofList text⟩, cur.next)
    else do
      let (handle, cur) ← tagHandle? cur
      if 1 < handle.length && handle.getLast? == some '!' then
        let (text, cur) ← tagText? false fuel [] cur
        if text.isEmpty then none
        pure (⟨String.ofList handle, String.ofList text⟩, cur)
      else
        let (text, cur) ← tagText? false fuel handle.tail.reverse cur
        pure (if text.isEmpty then ⟨"", "!"⟩ else ⟨"!", String.ofList text⟩, cur)
  if endsWord cur.rest || (inFlow && cur.rest.head? == some ',') then return (tag, cur) else none

/-! ## Directives -/

inductive Directive where
  | version (major minor : Nat)
  /-- Tags with the handle start with the text. -/
  | handle (handle start : String)

/-- A number of at most nine digits. -/
def versionNumber? (cur : Cursor) : Option (Nat × Cursor) :=
  let (digits, cur) := cur.span Char.isDigit
  if digits.isEmpty || 9 < digits.length then none
  else some (digits.foldl (fun n d => 10 * n + (d.toNat - 48)) 0, cur)

/-- The directive behind its mark, up to the end of its line. -/
def directive? (cur : Cursor) : Option (Directive × Cursor) := do
  let (name, cur) := cur.span isNameChar
  if !endsWord cur.rest then none
  let cur := (cur.span isBlank).2
  if name == ['Y', 'A', 'M', 'L'] then
    let (major, cur) ← versionNumber? cur
    if cur.rest.head? != some '.' then none
    let (minor, cur) ← versionNumber? cur.next
    return (.version major minor, ← endLine? cur)
  else if name == ['T', 'A', 'G'] then
    let (handle, cur) ← tagHandle? cur
    if 1 < handle.length && handle.getLast? != some '!' then none
    let (blanks, cur) := cur.span isBlank
    if blanks.isEmpty then none
    let (start, cur) ← tagText? true (cur.rest.length + 1) [] cur
    if start.isEmpty || !endsWord cur.rest then none
    return (.handle (String.ofList handle) (String.ofList start), ← endLine? cur)
  else none

end EvidenceRank.Yaml
