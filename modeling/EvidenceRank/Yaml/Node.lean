import EvidenceRank.Yaml.Token

/-!
# Configuration trees

The tree that the tokens of a configuration text describe. A node may have an anchor, a name that
later places refer to, so that a tree comes with the nodes of its anchors.

* `Document.read?`: the tree of a text.
-/

namespace EvidenceRank

inductive Yaml where
  /-- The document is empty. -/
  | void
  | scalar (text : String) (style : Yaml.Style) (tag : Option String)
  | seq (items : List Yaml) (tag : Option String)
  | map (members : List (Yaml × Yaml)) (tag : Option String)
  /-- The node of the anchor with a number stands here. -/
  | alias (anchor : Nat)

namespace Yaml

/-- The value of a key or entry that has none. -/
def nothing : Yaml := .scalar "" .plain none

/-- The node of an anchor. `place` counts the anchors in the order of the text. -/
structure Anchored where
  anchor : Nat
  place : Nat
  node : Yaml

/-- A tree and the nodes of its anchors. Of several with one number the first counts. -/
structure Document where
  root : Yaml
  anchors : List Anchored

/-! ## From tokens -/

/-- Tokens that are being read as a tree. -/
structure Reading where
  tokens : List Token
  /-- The number of each name. A name that is used again gets a new number, though not always one
  that no other name has. -/
  names : List (String × Nat) := []
  /-- How many anchors were met. -/
  places : Nat := 0
  /-- The nodes of the anchors, the last in the text first. -/
  anchors : List Anchored := []
  /-- What tags with a handle start with. -/
  handles : List (String × String) := []

abbrev Reader := StateT Reading Option

namespace Reader

/-- The token at hand. -/
def peek : Reader (Option Token) := do return (← get).tokens.head?

/-- Go past the token at hand. -/
def advance : Reader Unit := modify fun r => { r with tokens := r.tokens.tail }

/-- Give a name its number. -/
def number (name : String) : Reader (Nat × Nat) := do
  let r ← get
  let n := r.names.length
  set { r with names := (name, n) :: r.names.filter (·.1 != name), places := r.places + 1 }
  return (n, r.places)

/-- Put the node of an anchor at its place. -/
def place (a : Anchored) : List Anchored → List Anchored
  | [] => [a]
  | b :: bs => if b.place < a.place then a :: b :: bs else b :: place a bs

/-- The text of a tag. -/
def tagText (t : Tag) : Reader String := do
  if t.handle.isEmpty then return t.content
  match (← get).handles.find? (·.1 == t.handle) with
  | some (_, start) => return start ++ t.content
  | none => failure

/-- The marks in front of a node, at most one of each kind, in either order. -/
structure Marks where
  anchor : Option String := none
  tag : Option Tag := none

/-- Read the marks in front of a node. -/
def marks : Reader Marks := do
  match ← peek with
  | some (.anchor name) =>
    advance
    match ← peek with
    | some (.tag t) => do advance; return ⟨some name, some t⟩
    | _ => return ⟨some name, none⟩
  | some (.tag t) =>
    advance
    match ← peek with
    | some (.anchor name) => do advance; return ⟨some name, some t⟩
    | _ => return ⟨none, some t⟩
  | _ => return {}

/-- A node is missing between these tokens and the one before. -/
def endsBlockPart : Option Token → Bool
  | some .key => true
  | some .value => true
  | some .blockEnd => true
  | _ => false

mutual

/-- One node. `block` allows blocks, `flush` a list that is not further in than its key. -/
def node : Nat → Bool → Bool → Reader Yaml
  | 0, _, _ => failure
  | fuel + 1, block, flush => do
    match ← peek with
    | some (.alias name) =>
      advance
      match (← get).names.find? (·.1 == name) with
      | some (_, n) => return .alias n
      | none => failure
    | _ =>
      let marks ← marks
      let tag ← marks.tag.mapM tagText
      let number? ← marks.anchor.mapM number
      let v ← content fuel block flush (!marks.anchor.isNone || tag.isSome) tag
      match number? with
      | some (n, p) => modify fun r => { r with anchors := place ⟨n, p, v⟩ r.anchors }
      | none => pure ()
      return v

/-- A node without its marks; behind marks it may be missing. -/
def content : Nat → Bool → Bool → Bool → Option String → Reader Yaml
  | 0, _, _, _, _ => failure
  | fuel + 1, block, flush, marked, tag => do
    let missing : Reader Yaml := if marked then return .scalar "" .plain tag else failure
    match ← peek with
    | some (.scalar text style) =>
      advance
      return .scalar text style (tag.filter (· != "!"))
    | some .flowSeqStart => do advance; return .seq (← flowItems fuel true) tag
    | some .flowMapStart => do advance; return .map (← flowMembers fuel true) tag
    | some .blockEntry => if flush then return .seq (← flushItems fuel) tag else missing
    | some .blockSeqStart =>
      if block then do advance; return .seq (← blockItems fuel) tag else missing
    | some .blockMapStart =>
      if block then do advance; return .map (← blockMembers fuel) tag else missing
    | _ => missing

/-- The entries of a list that is further in, up to its end. -/
def blockItems : Nat → Reader (List Yaml)
  | 0 => failure
  | fuel + 1 => do
    match ← peek with
    | some .blockEnd => do advance; return []
    | some .blockEntry =>
      advance
      let v ← match ← peek with
        | some .blockEntry => pure nothing
        | some .blockEnd => pure nothing
        | _ => node fuel true false
      return v :: (← blockItems fuel)
    | _ => failure

/-- The entries of a list that is not further in than its key. -/
def flushItems : Nat → Reader (List Yaml)
  | 0 => failure
  | fuel + 1 => do
    match ← peek with
    | some .blockEntry =>
      advance
      let next ← peek
      let v ← match next with
        | some .blockEntry => pure nothing
        | _ => if endsBlockPart next then pure nothing else node fuel true false
      return v :: (← flushItems fuel)
    | _ => return []

/-- A key or a value in a block, which may be missing. -/
def blockPart : Nat → Reader Yaml
  | 0 => failure
  | fuel + 1 => do if endsBlockPart (← peek) then return nothing else node fuel true true

/-- The members of a block, up to its end. -/
def blockMembers : Nat → Reader (List (Yaml × Yaml))
  | 0 => failure
  | fuel + 1 => do
    match ← peek with
    | some .blockEnd => do advance; return []
    | some .key =>
      advance
      let k ← blockPart fuel
      let v ← match ← peek with
        | some .value => do advance; blockPart fuel
        | _ => pure nothing
      return (k, v) :: (← blockMembers fuel)
    | _ => failure

/-- The value of a key inside brackets, which may be missing. `ends` closes the brackets. -/
def flowValue : Nat → (Token → Bool) → Reader Yaml
  | 0, _ => failure
  | fuel + 1, ends => do
    match ← peek with
    | some .value =>
      advance
      match ← peek with
      | some .flowEntry => return nothing
      | some t => if ends t then return nothing else node fuel false false
      | none => failure
    | _ => return nothing

/-- The items of a bracketed list, up to its end. A key makes a map of one member of its item; when
the key is missing, the token in its place is left out. -/
def flowItems : Nat → Bool → Reader (List Yaml)
  | 0, _ => failure
  | fuel + 1, first => do
    let ends : Token → Bool := fun t => match t with
      | .flowSeqEnd => true
      | _ => false
    match ← peek with
    | some .flowSeqEnd => do advance; return []
    | next =>
      if !first then
        match next with
        | some .flowEntry => advance
        | _ => failure
      match ← peek with
      | some .flowSeqEnd => do advance; return []
      | some .key =>
        advance
        let k ← match ← peek with
          | some .value => do advance; pure nothing
          | some .flowEntry => do advance; pure nothing
          | some .flowSeqEnd => do advance; pure nothing
          | _ => node fuel false false
        let v ← flowValue fuel ends
        return .map [(k, v)] none :: (← flowItems fuel false)
      | _ =>
        let v ← node fuel false false
        return v :: (← flowItems fuel false)

/-- The members of a bracketed map, up to its end. -/
def flowMembers : Nat → Bool → Reader (List (Yaml × Yaml))
  | 0, _ => failure
  | fuel + 1, first => do
    let ends : Token → Bool := fun t => match t with
      | .flowMapEnd => true
      | _ => false
    match ← peek with
    | some .flowMapEnd => do advance; return []
    | next =>
      if !first then
        match next with
        | some .flowEntry => advance
        | _ => failure
      match ← peek with
      | some .flowMapEnd => do advance; return []
      | some .key =>
        advance
        let k ← match ← peek with
          | some .value => pure nothing
          | some .flowEntry => pure nothing
          | some .flowMapEnd => pure nothing
          | _ => node fuel false false
        let v ← flowValue fuel ends
        return (k, v) :: (← flowMembers fuel false)
      | _ =>
        let k ← node fuel false false
        return (k, nothing) :: (← flowMembers fuel false)

end

/-! ## Documents -/

/-- What tags start with that have one of the handles without a directive. -/
def commonHandles : List (String × String) := [("!", "!"), ("!!", "tag:yaml.org,2002:")]

/-- The directives in front of a document: one version at most, and one per handle. -/
def directives : Nat → Bool → Reader Unit
  | 0, _ => failure
  | fuel + 1, versioned => do
    match ← peek with
    | some (.directive (.version major minor)) =>
      if versioned || major != 1 || !(minor == 1 || minor == 2) then failure
      advance
      directives fuel true
    | some (.directive (.handle handle start)) =>
      if (← get).handles.any (·.1 == handle) then failure
      modify fun r => { r with handles := (handle, start) :: r.handles }
      advance
      directives fuel versioned
    | _ => modify fun r => { r with handles := r.handles ++ commonHandles }

/-- The tree of a text's only document. Without a line that starts it, the document has no
directives and is not empty. -/
def document (fuel : Nat) : Reader Yaml := do
  match ← peek with
  | none => return .void
  | first =>
    let explicit := match first with
      | some (.directive _) => true
      | some .documentStart => true
      | _ => false
    directives fuel false
    if !explicit then node fuel true false
    else
      match ← peek with
      | some .documentStart => advance
      | _ => failure
      match ← peek with
      | none => return nothing
      | some (.directive _) => return nothing
      | some .documentStart => return nothing
      | some .documentEnd => return nothing
      | _ => node fuel true false

/-- Go past the lines that end a document. -/
def documentEnds : Nat → Reader Unit
  | 0 => return
  | fuel + 1 => do
    match ← peek with
    | some .documentEnd => do advance; documentEnds fuel
    | _ => return

end Reader

/-- The document of tokens, if they are one. -/
def Document.ofTokens? (tokens : List Token) : Option Document := do
  let fuel := 4 * tokens.length + 4
  let read : Reader Yaml := do
    let root ← Reader.document fuel
    Reader.documentEnds fuel
    return root
  let (root, r) ← read.run { tokens }
  if r.tokens.isEmpty then return ⟨root, r.anchors⟩ else none

/-- Read a text as one document. -/
def Document.read? (text : String) : Option Document := do ofTokens? (← Token.ofText? text)

end Yaml
end EvidenceRank
