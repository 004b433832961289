/-!
# BLAKE3

The BLAKE3 hash of a list of bytes, in its default mode and default length of 32 bytes.

The input is cut into chunks of 1024 bytes, a chunk into blocks of 64. The blocks of a chunk are
compressed one after another, each starting from the chaining value of the one before. Above the
chunks stands a binary tree whose left subtrees are full: `subtree` says which chunks are below a
node. What a node contributes is kept open as a `Node` until it is known whether it is the root.
-/

namespace EvidenceRank.Digest

/-- Eight words that link one compression to the next. -/
abbrev Chain := Vector UInt32 8

/-- Sixteen words: the content of a block, or the state of a compression. -/
abbrev Words := Vector UInt32 16

/-- The chaining value that every chunk and every parent starts from. -/
def initial : Chain :=
  #v[0x6A09E667, 0xBB67AE85, 0x3C6EF372, 0xA54FF53A, 0x510E527F, 0x9B05688C, 0x1F83D9AB, 0x5BE0CD19]

def rotateRight (w n : UInt32) : UInt32 :=
  (w >>> n) ||| (w <<< (32 - n))

/-- Mix two words of the block into the state words `a`, `b`, `c`, `d`. -/
def mix (s : Words) (a b c d : Fin 16) (x y : UInt32) : Words :=
  let a1 := s[a] + s[b] + x
  let d1 := rotateRight (s[d] ^^^ a1) 16
  let c1 := s[c] + d1
  let b1 := rotateRight (s[b] ^^^ c1) 12
  let a2 := a1 + b1 + y
  let d2 := rotateRight (d1 ^^^ a2) 8
  let c2 := c1 + d2
  let b2 := rotateRight (b1 ^^^ c2) 7
  (((s.set a a2).set b b2).set c c2).set d d2

/-- One round: the columns of the state, then its diagonals. -/
def round (s m : Words) : Words :=
  let s := mix s 0 4 8 12 m[0] m[1]
  let s := mix s 1 5 9 13 m[2] m[3]
  let s := mix s 2 6 10 14 m[4] m[5]
  let s := mix s 3 7 11 15 m[6] m[7]
  let s := mix s 0 5 10 15 m[8] m[9]
  let s := mix s 1 6 11 12 m[10] m[11]
  let s := mix s 2 7 8 13 m[12] m[13]
  mix s 3 4 9 14 m[14] m[15]

/-- The order in which the next round reads the words of the block. -/
def permute (m : Words) : Words :=
  #v[m[2], m[6], m[3], m[10], m[7], m[0], m[4], m[13],
     m[1], m[11], m[12], m[5], m[9], m[14], m[15], m[8]]

/-- `n` rounds, the block permuted after each. -/
def rounds : Nat → Words → Words → Words
  | 0, s, _ => s
  | n + 1, s, m => rounds n (round s m) (permute m)

/-- A compression whose flags are not yet complete. -/
structure Node where
  chain : Chain
  block : Words
  counter : UInt64
  length : UInt32
  flags : UInt32

namespace Node

/-- The state after all seven rounds. -/
def state (node : Node) : Words :=
  let h := node.chain
  rounds 7
    #v[h[0], h[1], h[2], h[3], h[4], h[5], h[6], h[7],
       initial[0], initial[1], initial[2], initial[3],
       node.counter.toUInt32, (node.counter >>> 32).toUInt32, node.length, node.flags]
    node.block

/-- What a node hands to the next compression. -/
def link (node : Node) : Chain :=
  let s := node.state
  Vector.ofFn fun i => s.get ⟨i.val, by omega⟩ ^^^ s.get ⟨i.val + 8, by omega⟩

end Node

/-- A word from four bytes, the lowest first; absent bytes are zero. -/
def word (bytes : List UInt8) : UInt32 :=
  bytes.foldr (fun b w => (w <<< 8) ||| b.toUInt32) 0

/-- The words of at most 64 bytes, filled up with zero. -/
def blockWords (bytes : List UInt8) : Words :=
  Vector.ofFn fun i => word ((bytes.drop (4 * i.val)).take 4)

def chunkStart : UInt32 := 1
def chunkEnd : UInt32 := 2
def parentFlag : UInt32 := 4
def rootFlag : UInt32 := 8

/-- The last compression of a chunk of which `bytes` are left; `fuel` bounds the blocks. -/
def chunkFrom (counter : UInt64) : Nat → UInt32 → Chain → List UInt8 → Node
  | 0, flags, chain, bytes => ⟨chain, blockWords bytes, counter, 64, flags ||| chunkEnd⟩
  | fuel + 1, flags, chain, bytes =>
    let block := bytes.take 64
    let node : Node := ⟨chain, blockWords block, counter, block.length.toUInt32, flags⟩
    match bytes.drop 64 with
    | [] => { node with flags := flags ||| chunkEnd }
    | rest => chunkFrom counter fuel 0 node.link rest

/-- The last compression of one chunk. -/
def chunk (counter : Nat) (bytes : List UInt8) : Node :=
  chunkFrom counter.toUInt64 16 chunkStart initial bytes

/-- The node above two subtrees. -/
def parent (left right : Chain) : Node :=
  ⟨initial, (left ++ right).cast rfl, 0, 64, parentFlag⟩

/-- How many of `count` chunks the left half of their tree has: the largest power of two that
leaves some for the right half. -/
def leftChunks (count : Nat) : Nat := Nat.pow 2 (count - 1).log2

theorem leftChunks_pos (count : Nat) : 0 < leftChunks count := Nat.pow_pos (by omega)

theorem leftChunks_lt {count : Nat} (h : 1 < count) : leftChunks count < count :=
  Nat.lt_of_le_of_lt (Nat.log2_self_le (by omega)) (by omega)

/-- The node above the chunks `first, …, first + count - 1`, which hold `bytes`. -/
def subtree (first count : Nat) (bytes : List UInt8) : Node :=
  if h : count ≤ 1 then chunk first bytes
  else
    let left := leftChunks count
    parent (subtree first left (bytes.take (1024 * left))).link
      (subtree (first + left) (count - left) (bytes.drop (1024 * left))).link
termination_by count
decreasing_by
  · exact leftChunks_lt (Nat.not_le.1 h)
  · exact Nat.sub_lt (by omega) (leftChunks_pos count)

/-- The bytes of a word, the lowest first. -/
def wordBytes (w : UInt32) : List UInt8 :=
  [w.toUInt8, (w >>> 8).toUInt8, (w >>> 16).toUInt8, (w >>> 24).toUInt8]

/-- The hash of `bytes`: 32 bytes. -/
def blake3 (bytes : List UInt8) : List UInt8 :=
  let top := subtree 0 ((bytes.length + 1023) / 1024) bytes
  ({ top with flags := top.flags ||| rootFlag }).link.toList.flatMap wordBytes

/-- One hexadecimal digit. -/
def hexDigit (n : Nat) : Char :=
  if n < 10 then Char.ofNat (48 + n) else Char.ofNat (87 + n)

/-- Two lower-case hexadecimal digits per byte. -/
def hex (bytes : List UInt8) : String :=
  String.ofList (bytes.flatMap fun b => [hexDigit (b.toNat / 16), hexDigit (b.toNat % 16)])

end EvidenceRank.Digest
