import EvidenceRank.Yaml.Cursor

/-!
# Scalars

The texts of scalars. A plain scalar ends where its context goes on, a quoted one at its quote.
Both may run over several lines: a single line break between words reads as a blank, and of more
in a row all but the first are kept. A block scalar takes the lines that are further in than its
context; a literal one keeps their breaks, a folded one treats them like the other scalars.
-/

namespace EvidenceRank.Yaml

/-- How the text of a scalar is written. -/
inductive Style where
  | plain
  | quoted
  | literal
  | folded
deriving DecidableEq

/-- The blanks and line breaks between two words of a scalar. -/
structure Between where
  /-- The blanks, as long as no line break was met. -/
  blanks : List Char := []
  /-- A line break was met. -/
  broken : Bool := false
  /-- The first line break, as text. -/
  firstBreak : List Char := []
  /-- The later line breaks, as text. -/
  moreBreaks : List Char := []

/-- What stands for the blanks and line breaks in the value. -/
def Between.text (b : Between) : List Char :=
  if !b.broken then b.blanks
  else if b.firstBreak == ['\n'] then
    if b.moreBreaks.isEmpty then [' '] else b.moreBreaks
  else b.firstBreak ++ b.moreBreaks

/-- Read blanks and line breaks. A tab may not stand to the left of `indent` on a later line. -/
def skipBetween (indent : Nat) : Nat → Between → Cursor → Option (Between × Cursor)
  | 0, _, _ => none
  | fuel + 1, b, cur =>
    match cur.rest with
    | [] => some (b, cur)
    | c :: _ =>
      if isBlank c then
        if b.broken then
          if c == '\t' && cur.column < indent then none
          else skipBetween indent fuel b cur.next
        else skipBetween indent fuel { b with blanks := b.blanks ++ [c] } cur.next
      else if isBreak c then
        if b.broken then
          skipBetween indent fuel { b with moreBreaks := b.moreBreaks ++ cur.breakText }
            cur.nextLine
        else
          skipBetween indent fuel { b with broken := true, firstBreak := cur.breakText }
            cur.nextLine
      else some (b, cur)

/-! ## Plain scalars -/

/-- The character ends a plain scalar inside brackets. -/
def endsFlowWord (c : Char) : Bool :=
  c == ',' || c == '[' || c == ']' || c == '{' || c == '}'

/-- The word of a plain scalar at the cursor, last character first. -/
def plainWord (inFlow : Bool) : Nat → List Char → Cursor → Option (List Char × Cursor)
  | 0, _, _ => none
  | fuel + 1, word, cur =>
    match cur.rest with
    | [] => some (word, cur)
    | c :: rest =>
      if isBlank c || isBreak c then some (word, cur)
      else if c == ':' && endsWord rest then some (word, cur)
      else if c == ':' && inFlow && rest.head?.any (fun d => endsFlowWord d || d == '?') then none
      else if inFlow && endsFlowWord c then some (word, cur)
      else plainWord inFlow fuel (c :: word) cur.next

/-- A plain scalar: its text and whether a line break stands behind it. `text` is held from last to
first; `indent` is the least column that later lines may start at. -/
def plainScalar (inFlow : Bool) (indent : Nat) :
    Nat → List Char → Between → Cursor → Option (String × Bool × Cursor)
  | 0, _, _, _ => none
  | fuel + 1, text, between, cur =>
    let done (b : Between) : Option (String × Bool × Cursor) :=
      some (String.ofList text.reverse, b.broken, cur)
    if cur.atSeparator || cur.rest.head? == some '#' then done between
    else do
      let (word, after) ← plainWord inFlow (cur.rest.length + 1) [] cur
      if word.isEmpty then done between
      else
        let text := word ++ between.text.reverse ++ text
        let (b, behind) ← skipBetween indent (after.rest.length + 1) {} after
        if after.rest.length == behind.rest.length || (!inFlow && behind.column < indent) then
          return (String.ofList text.reverse, b.broken, behind)
        else plainScalar inFlow indent fuel text b behind

/-! ## Quoted scalars -/

def hexDigit? (c : Char) : Option Nat :=
  if '0' ≤ c && c ≤ '9' then some (c.toNat - 48)
  else if 'a' ≤ c && c ≤ 'f' then some (c.toNat - 87)
  else if 'A' ≤ c && c ≤ 'F' then some (c.toNat - 55)
  else none

/-- The character with the number given by `n` hexadecimal digits. -/
def numbered? (n : Nat) (cs : List Char) : Option Char := do
  let ds ← (cs.take n).mapM hexDigit?
  let v := ds.foldl (fun v d => 16 * v + d) 0
  if ds.length = n && v.isValidChar then return Char.ofNat v else none

/-- The character for an escape, and how many characters stand behind the backslash. -/
def escape? : List Char → Option (Char × Nat)
  | '0' :: _ => some ('\x00', 1)
  | 'a' :: _ => some ('\x07', 1)
  | 'b' :: _ => some ('\x08', 1)
  | 't' :: _ => some ('\t', 1)
  | '\t' :: _ => some ('\t', 1)
  | 'n' :: _ => some ('\n', 1)
  | 'v' :: _ => some ('\x0b', 1)
  | 'f' :: _ => some ('\x0c', 1)
  | 'r' :: _ => some ('\r', 1)
  | 'e' :: _ => some ('\x1b', 1)
  | ' ' :: _ => some (' ', 1)
  | '"' :: _ => some ('"', 1)
  | '/' :: _ => some ('/', 1)
  | '\\' :: _ => some ('\\', 1)
  | 'N' :: _ => some ('\u0085', 1)
  | '_' :: _ => some ('\u00a0', 1)
  | 'L' :: _ => some ('\u2028', 1)
  | 'P' :: _ => some ('\u2029', 1)
  | 'x' :: cs => (numbered? 2 cs).map (·, 3)
  | 'u' :: cs => (numbered? 4 cs).map (·, 5)
  | 'U' :: cs => (numbered? 8 cs).map (·, 9)
  | _ => none

/-- A quoted scalar behind its opening quote. `text` is held from last to first. -/
def quotedScalar (quote : Char) : Nat → List Char → Cursor → Option (String × Cursor)
  | 0, _, _ => none
  | fuel + 1, text, cur =>
    if cur.atSeparator then none
    else match cur.rest with
      | [] => none
      | c :: rest =>
        if isBlank c || isBreak c then do
          let (b, cur) ← skipBetween 0 (cur.rest.length + 1) {} cur
          quotedScalar quote fuel (b.text.reverse ++ text) cur
        else if c == quote then
          if quote == '\'' && rest.head? == some '\'' then
            quotedScalar quote fuel ('\'' :: text) (cur.skip 2)
          else some (String.ofList text.reverse, cur.next)
        else if quote == '"' && c == '\\' then
          if rest.head?.any isBreak then do
            let (b, cur) ← skipBetween 0 (rest.length + 1) { broken := true } cur.next.nextLine
            quotedScalar quote fuel (b.text.reverse ++ text) cur
          else do
            let (d, n) ← escape? rest
            quotedScalar quote fuel (d :: text) (cur.skip (n + 1))
        else quotedScalar quote fuel (c :: text) cur.next

/-! ## Block scalars -/

/-- What becomes of the line breaks behind the last line of a block scalar. -/
inductive Chomping where
  /-- All are dropped. -/
  | strip
  /-- One is kept. -/
  | clip
  /-- All are kept. -/
  | keep

/-- The marks behind the indicator of a block scalar, in either order: what becomes of its last
line breaks, and how far in its lines are. -/
def blockMarks? (cur : Cursor) : Option (Chomping × Option Nat × Cursor) :=
  let chomping? (cur : Cursor) : Option (Chomping × Cursor) := match cur.rest with
    | '+' :: _ => some (.keep, cur.next)
    | '-' :: _ => some (.strip, cur.next)
    | _ => none
  let step? (cur : Cursor) : Option (Option Nat × Cursor) := match cur.rest with
    | c :: _ =>
      if c == '0' then none
      else if c.isDigit then some (some (c.toNat - 48), cur.next)
      else some (none, cur)
    | [] => some (none, cur)
  match chomping? cur with
  | some (chomping, cur) => (step? cur).map fun (step, cur) => (chomping, step, cur)
  | none => do
    let (step, cur) ← step? cur
    match step, chomping? cur with
    | some _, some (chomping, cur) => return (chomping, step, cur)
    | _, _ => return (.clip, step, cur)

/-- Go past the blanks and the comment at the end of a line, and its break. -/
def endLine? (cur : Cursor) : Option Cursor :=
  let cur := (cur.span isBlank).2
  let cur := if cur.rest.head? == some '#' then (cur.span (!isBreak ·)).2 else cur
  match cur.rest with
  | [] => some cur
  | c :: _ => if isBreak c then some cur.nextLine else none

/-- Go past the indentation and the empty lines in front of a line of a block scalar. `indent` is
how far in the scalar is, zero if that is not known yet; `deepest` is how far in the lines so far
are. A tab may not stand for indentation. -/
def blockBreaks? (indent : Nat) :
    Nat → Nat → List Char → Cursor → Option (Nat × List Char × Cursor)
  | 0, _, _, _ => none
  | fuel + 1, deepest, breaks, cur =>
    let spaces := (cur.rest.takeWhile (· == ' ')).length
    let cur := cur.skip (if indent = 0 then spaces else min spaces (indent - cur.column))
    let deepest := max deepest cur.column
    match cur.rest with
    | [] => some (deepest, breaks, cur)
    | c :: _ =>
      if c == '\t' && (indent = 0 || cur.column < indent) then none
      else if isBreak c then
        blockBreaks? indent fuel deepest (breaks ++ cur.breakText) cur.nextLine
      else some (deepest, breaks, cur)

/-- The lines of a block scalar from the cursor on. `text` is held from last to first; `lineBreak`
and `breaks` are the first and the further line breaks behind it, and `blank` says that its last
line starts with a blank. -/
def blockLines? (folded : Bool) (indent : Nat) :
    Nat → List Char → List Char → List Char → Bool → Cursor →
      Option (List Char × List Char × List Char × Cursor)
  | 0, _, _, _, _, _ => none
  | fuel + 1, text, lineBreak, breaks, blank, cur =>
    if cur.column = indent && !cur.rest.isEmpty then do
      let startsBlank := cur.rest.head?.any isBlank
      let joint :=
        if folded && lineBreak == ['\n'] && !blank && !startsBlank then
          if breaks.isEmpty then [' '] else []
        else lineBreak
      let (line, cur) := cur.span (!isBreak ·)
      let text := line.reverse ++ breaks.reverse ++ joint.reverse ++ text
      let (lineBreak, cur) := if cur.rest.isEmpty then ([], cur) else (cur.breakText, cur.nextLine)
      let (_, breaks, cur) ← blockBreaks? indent (cur.rest.length + 1) 0 [] cur
      blockLines? folded indent fuel text lineBreak breaks startsBlank cur
    else some (text, lineBreak, breaks, cur)

/-- A block scalar behind its indicator. `outer` is the column of the block that it stands in. -/
def blockScalar? (folded : Bool) (outer : Option Nat) (cur : Cursor) :
    Option (String × Cursor) := do
  let (chomping, step, cur) ← blockMarks? cur
  let cur ← endLine? cur
  let fuel := cur.rest.length + 1
  let (deepest, breaks, cur) ← blockBreaks? ((step.map (outer.getD 0 + ·)).getD 0) fuel 0 [] cur
  let indent := match step with
    | some n => outer.getD 0 + n
    | none => max deepest ((outer.map (· + 1)).getD 1)
  let (text, lineBreak, breaks, cur) ← blockLines? folded indent fuel [] [] breaks false cur
  let text := match chomping with
    | .strip => text
    | .clip => lineBreak.reverse ++ text
    | .keep => breaks.reverse ++ lineBreak.reverse ++ text
  return (String.ofList text.reverse, cur)

end EvidenceRank.Yaml
