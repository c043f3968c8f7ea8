/-!
# BLAKE3

The BLAKE3 digest of a list of bytes. The bytes are cut into chunks of 1024 bytes, which are the
leaves of a binary tree; the left part of a tree has as many chunks as the greatest power of two that
leaves something for the right part.
-/

namespace StreamPlan.Blake3

/-- Eight words that stand for what was digested so far. -/
abbrev Chain := Vector UInt32 8

/-- Sixteen words, of a block or of the state of the compression. -/
abbrev Block := Vector UInt32 16

/-- The words that every digest starts from. -/
def startChain : Chain :=
  #v[0x6a09e667, 0xbb67ae85, 0x3c6ef372, 0xa54ff53a, 0x510e527f, 0x9b05688c, 0x1f83d9ab, 0x5be0cd19]

/-- The place that each word of a block is taken from for the next round. -/
def schedule : Vector (Fin 16) 16 := #v[2, 6, 3, 10, 7, 0, 4, 13, 1, 11, 12, 5, 9, 14, 15, 8]

/-- Marks the first block of a chunk. -/
def chunkStart : UInt32 := 1

/-- Marks the last block of a chunk. -/
def chunkEnd : UInt32 := 2

/-- Marks the block above two parts of a tree. -/
def parentFlag : UInt32 := 4

/-- Marks the topmost block. -/
def rootFlag : UInt32 := 8

/-- A word turned to the right. -/
def turn (word count : UInt32) : UInt32 := (word >>> count) ||| (word <<< (32 - count))

/-- Mixes two words of a block into four places of the state. -/
def mix (v : Block) (a b c d : Fin 16) (x y : UInt32) : Block :=
  let v := v.set a (v[a] + v[b] + x)
  let v := v.set d (turn (v[d] ^^^ v[a]) 16)
  let v := v.set c (v[c] + v[d])
  let v := v.set b (turn (v[b] ^^^ v[c]) 12)
  let v := v.set a (v[a] + v[b] + y)
  let v := v.set d (turn (v[d] ^^^ v[a]) 8)
  let v := v.set c (v[c] + v[d])
  v.set b (turn (v[b] ^^^ v[c]) 7)

/-- One round: the columns of the state are mixed and then its diagonals. -/
def round (v m : Block) : Block :=
  let v := mix v 0 4 8 12 m[0] m[1]
  let v := mix v 1 5 9 13 m[2] m[3]
  let v := mix v 2 6 10 14 m[4] m[5]
  let v := mix v 3 7 11 15 m[6] m[7]
  let v := mix v 0 5 10 15 m[8] m[9]
  let v := mix v 1 6 11 12 m[10] m[11]
  let v := mix v 2 7 8 13 m[12] m[13]
  mix v 3 4 9 14 m[14] m[15]

/-- Some rounds, with the words of the block in a new order for each. -/
def rounds : Nat → (v m : Block) → Block
  | 0, v, _ => v
  | count + 1, v, m => rounds count (round v m) (schedule.map fun i => m[i])

/-- A block that is still to be compressed. -/
structure Node where
  /-- What was digested before. -/
  chain : Chain
  /-- The words of the block. -/
  block : Block
  /-- The number of the chunk. -/
  counter : Nat
  /-- The number of bytes in the block. -/
  length : Nat
  /-- What the block is. -/
  flags : UInt32

/-- The words of a node with further flags. -/
def Node.compress (node : Node) (flags : UInt32) : Chain :=
  let h := node.chain
  let v : Block := #v[h[0], h[1], h[2], h[3], h[4], h[5], h[6], h[7],
    0x6a09e667, 0xbb67ae85, 0x3c6ef372, 0xa54ff53a,
    UInt32.ofNat node.counter, UInt32.ofNat (node.counter / Nat.pow 2 32), UInt32.ofNat node.length,
    node.flags ||| flags]
  let v := rounds 7 v node.block
  #v[v[0] ^^^ v[8], v[1] ^^^ v[9], v[2] ^^^ v[10], v[3] ^^^ v[11], v[4] ^^^ v[12], v[5] ^^^ v[13],
    v[6] ^^^ v[14], v[7] ^^^ v[15]]

/-- A word of four bytes, least first. -/
def wordOf (a b c d : UInt8) : UInt32 :=
  a.toUInt32 ||| (b.toUInt32 <<< 8) ||| (c.toUInt32 <<< 16) ||| (d.toUInt32 <<< 24)

/-- The four bytes of a word, least first. -/
def bytesOf (word : UInt32) : List UInt8 :=
  [word.toUInt8, (word >>> 8).toUInt8, (word >>> 16).toUInt8, (word >>> 24).toUInt8]

/-- The block of at most 64 bytes, filled up with zeros. -/
def blockOf (bytes : List UInt8) : Block :=
  let bytes := bytes.toArray
  Vector.ofFn fun i =>
    wordOf (bytes.getD (4 * i.val) 0) (bytes.getD (4 * i.val + 1) 0) (bytes.getD (4 * i.val + 2) 0)
      (bytes.getD (4 * i.val + 3) 0)

/-- The last block of a chunk, after the blocks before it are compressed. -/
def chunkFrom (counter : Nat) (chain : Chain) (flags : UInt32) (bytes : List UInt8) : Node :=
  if bytes.length ≤ 64 then
    ⟨chain, blockOf bytes, counter, bytes.length, flags ||| chunkEnd⟩
  else
    let node : Node := ⟨chain, blockOf (bytes.take 64), counter, 64, flags⟩
    chunkFrom counter (node.compress 0) 0 (bytes.drop 64)
termination_by bytes.length
decreasing_by
  simp only [List.length_drop]
  omega

/-- The chunk of a number. -/
def chunk (counter : Nat) (bytes : List UInt8) : Node :=
  chunkFrom counter startChain chunkStart bytes

/-- The block above two parts of a tree. -/
def parent (left right : Chain) : Node := ⟨startChain, left ++ right, 0, 64, parentFlag⟩

/-- The number of chunks in the left part of a tree over `length` bytes. -/
def leftChunks (length : Nat) : Nat := Nat.pow 2 ((length - 1) / 1024).log2

theorem leftChunks_pos (length : Nat) : 0 < leftChunks length := Nat.two_pow_pos _

theorem leftChunks_lt {length : Nat} (h : 1024 < length) : 1024 * leftChunks length < length := by
  have full : (length - 1) / 1024 ≠ 0 := by omega
  have bound : leftChunks length ≤ (length - 1) / 1024 := Nat.log2_self_le full
  omega

/-- The tree over bytes of which the first chunk has a number. -/
def tree (counter : Nat) (bytes : List UInt8) : Node :=
  if h : bytes.length ≤ 1024 then chunk counter bytes
  else
    let left := leftChunks bytes.length
    parent ((tree counter (bytes.take (1024 * left))).compress 0)
      ((tree (counter + left) (bytes.drop (1024 * left))).compress 0)
termination_by bytes.length
decreasing_by
  · have := leftChunks_lt (Nat.lt_of_not_le h)
    simp only [List.length_take]
    omega
  · have := leftChunks_pos bytes.length
    simp only [List.length_drop]
    omega

/-- The 32 bytes of the digest. -/
def digest (bytes : List UInt8) : List UInt8 :=
  ((tree 0 bytes).compress rootFlag).toList.flatMap bytesOf

theorem length_digest (bytes : List UInt8) : (digest bytes).length = 32 := by
  simp [digest, bytesOf, List.length_flatMap, List.map_const']

end StreamPlan.Blake3
