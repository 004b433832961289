import EvidenceRank.Yaml.Property

/-!
# Tokens of a configuration text

A text is cut into tokens that make its structure explicit: where blocks open and close follows
from indentation, and a node becomes a key when a colon is found behind it on the same line.

* `Token.ofText?`: the tokens of a text, unless it cannot be cut.
-/

namespace EvidenceRank.Yaml

inductive Token where
  | directive (d : Directive)
  | documentStart
  | documentEnd
  | blockSeqStart
  | blockMapStart
  | blockEnd
  | flowSeqStart
  | flowSeqEnd
  | flowMapStart
  | flowMapEnd
  | blockEntry
  | flowEntry
  | key
  | value
  | anchor (name : String)
  | alias (name : String)
  | tag (t : Tag)
  | scalar (text : String) (style : Style)

/-- A place where a key starts if a colon follows. -/
structure KeyMark where
  /-- How many tokens stand in front of it. -/
  token : Nat
  line : Nat
  column : Nat
  offset : Nat
  /-- Nothing but a key can stand here. -/
  required : Bool

/-- A text that is being cut into tokens. -/
structure Lexer where
  cursor : Cursor
  tokens : Array Token := #[]
  /-- The columns of the open blocks, innermost first. -/
  blocks : List Nat := []
  /-- The possible key of each open bracket, innermost first, and of the block context last. -/
  marks : List (Option KeyMark) := [none]
  /-- A key may start at the cursor. -/
  keyAllowed : Bool := true

namespace Lexer

def inFlow (l : Lexer) : Bool := 1 < l.marks.length

def emit (l : Lexer) (t : Token) : Lexer := { l with tokens := l.tokens.push t }

/-- A key takes at most so many bytes. -/
def keyWidth : Nat := 1024

/-- The possible key can no longer become one. -/
def isStale (l : Lexer) (m : KeyMark) : Bool :=
  m.line < l.cursor.line || m.offset + keyWidth < l.cursor.offset

/-- Give up possible keys that the cursor has left behind; a required one must not be. -/
def dropStale? (l : Lexer) : Option Lexer := do
  let marks ← l.marks.mapM fun mark => match mark with
    | some m => if l.isStale m then (if m.required then none else some none) else some (some m)
    | none => some none
  return { l with marks }

/-- Give up the innermost possible key. -/
def dropMark? (l : Lexer) : Option Lexer :=
  match l.marks with
  | some m :: marks => if m.required then none else some { l with marks := none :: marks }
  | _ => some l

/-- The innermost block's column is `column`. -/
def atBlock (l : Lexer) (column : Nat) : Bool := l.blocks.head? == some column

/-- Remember that a key may start at the cursor. -/
def saveMark? (l : Lexer) : Option Lexer :=
  if l.keyAllowed then do
    let l ← l.dropMark?
    let c := l.cursor
    let mark : KeyMark :=
      { token := l.tokens.size
        line := c.line
        column := c.column
        offset := c.offset
        required := !l.inFlow && l.atBlock c.column }
    return { l with marks := some mark :: l.marks.tail }
  else some l

/-- Open a block at a column if it is further in than the innermost one; its start goes in front
of the token at `place`. -/
def openBlock (l : Lexer) (column place : Nat) (start : Token) : Lexer :=
  if !l.inFlow && l.blocks.head?.all (· < column) then
    { l with
      blocks := column :: l.blocks
      tokens := l.tokens.extract 0 place ++ #[start] ++ l.tokens.extract place l.tokens.size }
  else l

/-- Close the blocks that are further in than `column`; `none` closes all. -/
def closeBlocks (l : Lexer) (column : Option Nat) : Lexer :=
  if l.inFlow then l
  else
    let inner := l.blocks.takeWhile fun b => match column with
      | some c => c < b
      | none => true
    { l with
      blocks := l.blocks.drop inner.length
      tokens := l.tokens ++ inner.toArray.map fun _ => Token.blockEnd }

/-- Go to the next token: past blanks, comments and line breaks, and past a mark of the byte order
that starts a line. -/
def skipToToken (l : Lexer) : Nat → Lexer
  | 0 => l
  | fuel + 1 =>
    match l.cursor.rest with
    | [] => l
    | c :: _ =>
      if c == ' ' || (c == '\ufeff' && l.cursor.column == 0) ||
          (c == '\t' && (l.inFlow || !l.keyAllowed)) then
        skipToToken { l with cursor := l.cursor.next } fuel
      else if c == '#' then
        skipToToken { l with cursor := (l.cursor.span (!isBreak ·)).2 } fuel
      else if isBreak c then
        skipToToken
          { l with cursor := l.cursor.nextLine, keyAllowed := l.keyAllowed || !l.inFlow } fuel
      else l

/-! ## One token -/

/-- A directive, which ends the blocks of the document before it. -/
def directive? (l : Lexer) : Option Lexer := do
  let l ← (l.closeBlocks none).dropMark?
  let (d, cursor) ← Yaml.directive? l.cursor.next
  return { l with cursor, keyAllowed := false }.emit (.directive d)

/-- A line that separates documents. -/
def separator? (l : Lexer) : Option Lexer := do
  let start := l.cursor.rest.head? == some '-'
  let l ← (l.closeBlocks none).dropMark?
  return { l with cursor := l.cursor.skip 3, keyAllowed := false }.emit
    (if start then .documentStart else .documentEnd)

def openFlow? (l : Lexer) (start : Token) : Option Lexer := do
  let l ← l.saveMark?
  return { l with marks := none :: l.marks, keyAllowed := true, cursor := l.cursor.next }.emit start

def closeFlow? (l : Lexer) (stop : Token) : Option Lexer := do
  let l ← l.dropMark?
  let marks := if l.inFlow then l.marks.tail else l.marks
  return { l with marks, keyAllowed := false, cursor := l.cursor.next }.emit stop

def flowEntry? (l : Lexer) : Option Lexer := do
  let l ← l.dropMark?
  return { l with keyAllowed := true, cursor := l.cursor.next }.emit .flowEntry

/-- An entry of a list or an explicit key, which may open a block where a key is allowed. -/
def blockItem? (l : Lexer) (start item : Token) (keyAfter : Bool) : Option Lexer :=
  if !l.inFlow && !l.keyAllowed then none
  else do
    let l ← (l.openBlock l.cursor.column l.tokens.size start).dropMark?
    return { l with keyAllowed := keyAfter, cursor := l.cursor.next }.emit item

/-- A colon. It makes the possible key one, which may open a block; without a possible key it
stands for the value of an explicit or empty key. -/
def value? (l : Lexer) : Option Lexer :=
  match l.marks with
  | some m :: marks =>
    let tokens := l.tokens.extract 0 m.token ++ #[.key] ++ l.tokens.extract m.token l.tokens.size
    let l := { l with tokens, marks := none :: marks }.openBlock m.column m.token .blockMapStart
    some <| { l with keyAllowed := false, cursor := l.cursor.next }.emit .value
  | _ =>
    if !l.inFlow && !l.keyAllowed then none
    else
      let l := l.openBlock l.cursor.column l.tokens.size .blockMapStart
      some <| { l with keyAllowed := !l.inFlow, cursor := l.cursor.next }.emit .value

/-- An anchor or an alias. -/
def name? (l : Lexer) (mark : String → Token) : Option Lexer := do
  let l ← l.saveMark?
  let (name, cursor) ← Yaml.name? l.cursor.next
  return { l with cursor, keyAllowed := false }.emit (mark name)

def tag? (l : Lexer) : Option Lexer := do
  let l ← l.saveMark?
  let (t, cursor) ← Yaml.tag? l.inFlow l.cursor
  return { l with cursor, keyAllowed := false }.emit (.tag t)

def block? (l : Lexer) (style : Style) : Option Lexer := do
  let l ← l.dropMark?
  let (text, cursor) ← blockScalar? (style == .folded) l.blocks.head? l.cursor.next
  return { l with cursor, keyAllowed := true }.emit (.scalar text style)

def quoted? (l : Lexer) (quote : Char) : Option Lexer := do
  let l ← l.saveMark?
  let (text, cursor) ← quotedScalar quote (l.cursor.rest.length + 1) [] l.cursor.next
  return { l with cursor, keyAllowed := false }.emit (.scalar text .quoted)

def plain? (l : Lexer) : Option Lexer := do
  let l ← l.saveMark?
  let indent := match l.blocks with
    | [] => 0
    | b :: _ => b + 1
  let (text, broken, cursor) ←
    plainScalar l.inFlow indent (l.cursor.rest.length + 1) [] {} l.cursor
  return { l with cursor, keyAllowed := broken }.emit (.scalar text .plain)

/-- The characters that cannot start a plain scalar. -/
def indicators : List Char :=
  ['-', '?', ':', ',', '[', ']', '{', '}', '#', '&', '*', '!', '|', '>', '\'', '"', '%', '@',
    '\x60']

/-- A plain scalar may start with these characters. -/
def startsPlain (inFlow : Bool) (c : Char) (rest : List Char) : Bool :=
  !(isBlank c || indicators.contains c)
    || (c == '-' && !rest.head?.any isBlank)
    || (!inFlow && (c == '?' || c == ':') && !endsWord rest)

/-- Cut off the token at the cursor. -/
def token? (l : Lexer) (c : Char) (rest : List Char) : Option Lexer :=
  if l.cursor.column == 0 && c == '%' then l.directive?
  else if l.cursor.atSeparator then l.separator?
  else if c == '[' then l.openFlow? .flowSeqStart
  else if c == '{' then l.openFlow? .flowMapStart
  else if c == ']' then l.closeFlow? .flowSeqEnd
  else if c == '}' then l.closeFlow? .flowMapEnd
  else if c == ',' then l.flowEntry?
  else if c == '-' && endsWord rest then l.blockItem? .blockSeqStart .blockEntry true
  else if c == '?' && (l.inFlow || endsWord rest) then
    l.blockItem? .blockMapStart .key (!l.inFlow)
  else if c == ':' && (l.inFlow || endsWord rest) then l.value?
  else if c == '*' then l.name? .alias
  else if c == '&' then l.name? .anchor
  else if c == '!' then l.tag?
  else if c == '|' && !l.inFlow then l.block? .literal
  else if c == '>' && !l.inFlow then l.block? .folded
  else if c == '\'' || c == '"' then l.quoted? c
  else if startsPlain l.inFlow c rest then l.plain?
  else none

/-- Cut the rest of the text into tokens. -/
def run? : Nat → Lexer → Option (List Token)
  | 0, _ => none
  | fuel + 1, l => do
    let l := l.skipToToken (l.cursor.rest.length + 1)
    let l ← l.dropStale?
    match l.cursor.rest with
    | [] =>
      let l ← (l.closeBlocks none).dropMark?
      return l.tokens.toList
    | c :: rest => run? fuel (← (l.closeBlocks (some l.cursor.column)).token? c rest)

end Lexer

/-- The tokens of a text. -/
def Token.ofText? (text : String) : Option (List Token) :=
  let cs := text.toList
  if cs.all isPrintable then Lexer.run? (cs.length + 2) { cursor := { rest := cs } } else none

end EvidenceRank.Yaml
