import SourceFacts.Text.Utf8

namespace SourceFacts.Hash

/-!
# BLAKE3

The unkeyed hash function with an output of 32 bytes. The input is cut into
chunks, every chunk into blocks, and the chunks are the leaves of a binary tree
whose left subtrees are as large as possible and complete.
-/

open Text

/-- Sixteen or eight words, as the compression function takes and gives them. -/
abbrev Words := Array UInt32

/-- The initial chaining value. -/
def initialValue : Words :=
  #[0x6A09E667, 0xBB67AE85, 0x3C6EF372, 0xA54FF53A, 0x510E527F, 0x9B05688C, 0x1F83D9AB,
    0x5BE0CD19]

/-- The order in which the words of a block are used in the next round. -/
def wordOrder : Array Nat := #[2, 6, 3, 10, 7, 0, 4, 13, 1, 11, 12, 5, 9, 14, 15, 8]

/-- The bytes of a block. -/
def blockLength : Nat := 64

/-- The bytes of a chunk. -/
def chunkLength : Nat := 1024

/-- The flag of the first block of a chunk. -/
def chunkStart : UInt32 := 1

/-- The flag of the last block of a chunk. -/
def chunkEnd : UInt32 := 2

/-- The flag of a node with two subtrees. -/
def parentNode : UInt32 := 4

/-- The flag of the root. -/
def rootNode : UInt32 := 8

/-- A word with its bits rotated to the right. -/
def rotateRight (word amount : UInt32) : UInt32 :=
  (word >>> amount) ||| (word <<< (32 - amount))

/-- The word at a position, zero where there is none. -/
def wordAt (words : Words) (position : Nat) : UInt32 := words.getD position 0

/-- Mixes two words of a block into four words of the state. -/
def mix (state : Words) (a b c d : Nat) (first second : UInt32) : Words :=
  let wa := wordAt state a + wordAt state b + first
  let wd := rotateRight (wordAt state d ^^^ wa) 16
  let wc := wordAt state c + wd
  let wb := rotateRight (wordAt state b ^^^ wc) 12
  let wa := wa + wb + second
  let wd := rotateRight (wd ^^^ wa) 8
  let wc := wc + wd
  let wb := rotateRight (wb ^^^ wc) 7
  (((state.setIfInBounds a wa).setIfInBounds b wb).setIfInBounds c wc).setIfInBounds d wd

/-- The quadruples of the state that a round mixes: columns, then diagonals. -/
def quadruples : List (Nat × Nat × Nat × Nat) :=
  [(0, 4, 8, 12), (1, 5, 9, 13), (2, 6, 10, 14), (3, 7, 11, 15),
    (0, 5, 10, 15), (1, 6, 11, 12), (2, 7, 8, 13), (3, 4, 9, 14)]

/-- Mixes the words of a block into the state, two for every quadruple. -/
def mixRound (block : Words) (state : Words) : Words :=
  quadruples.zipIdx.foldl (fun state ((a, b, c, d), index) =>
    mix state a b c d (wordAt block (2 * index)) (wordAt block (2 * index + 1))) state

/-- The words of a block in the order of the next round. -/
def reorder (block : Words) : Words := wordOrder.map (wordAt block)

/-- A number of rounds on a state. -/
def mixRounds : Nat → Words → Words → Words
  | 0, _, state => state
  | rounds + 1, block, state => mixRounds rounds (reorder block) (mixRound block state)

/-- What is still to be compressed: a block, and the value of what precedes it. -/
structure Node where
  chaining : Words
  block : Words
  counter : Nat
  length : Nat
  flags : UInt32

/-- The first half of the compressed block, which stands for all up to it. -/
def Node.compress (node : Node) (extraFlags : UInt32) : Words :=
  let state := node.chaining ++ initialValue.extract 0 4 ++
    #[UInt32.ofNat (node.counter % UInt32.size), UInt32.ofNat (node.counter / UInt32.size),
      UInt32.ofNat node.length, node.flags ||| extraFlags]
  let mixed := mixRounds 7 node.block state
  (Array.range 8).map fun index => wordAt mixed index ^^^ wordAt mixed (index + 8)

/-- The word whose bytes begin at a position; bytes that are not there are zero. -/
def wordOfBytes (bytes : ByteArray) (position limit : Nat) : UInt32 :=
  let byte (offset : Nat) : UInt32 :=
    if position + offset < limit then (bytes.data.getD (position + offset) 0).toUInt32 else 0
  byte 0 ||| (byte 1 <<< 8) ||| (byte 2 <<< 16) ||| (byte 3 <<< 24)

/-- The block that begins at a position and ends at a limit if not before. -/
def blockOfBytes (bytes : ByteArray) (position limit : Nat) : Words :=
  (Array.range 16).map fun index => wordOfBytes bytes (position + 4 * index) limit

/-- The last block of a chunk, after the blocks before it. -/
def chunkFrom (bytes : ByteArray) (counter limit : Nat) :
    Nat → Nat → Words → UInt32 → Node
  | 0, position, chaining, flags =>
      { chaining, block := blockOfBytes bytes position limit, counter
        length := min blockLength (limit - position), flags := flags ||| chunkEnd }
  | blocks + 1, position, chaining, flags =>
      let node : Node :=
        { chaining, block := blockOfBytes bytes position limit, counter
          length := blockLength, flags }
      chunkFrom bytes counter limit blocks (position + blockLength) (node.compress 0) 0

/-- A chunk that begins at a position and has a length. -/
def chunk (bytes : ByteArray) (position length counter : Nat) : Node :=
  chunkFrom bytes counter (position + length) ((length - 1) / blockLength) position
    initialValue chunkStart

/-- The bytes of the left subtree: the largest power of two that leaves something. -/
def leftLength (length : Nat) : Nat := Nat.pow 2 (length - 1).log2

theorem leftLength_bounds {length : Nat} (large : chunkLength < length) :
    0 < leftLength length ∧ leftLength length < length := by
  have positive : length - 1 ≠ 0 := by
    simp only [chunkLength] at large
    omega
  have bound : Nat.pow 2 (length - 1).log2 ≤ length - 1 := Nat.log2_self_le positive
  constructor
  · exact Nat.pow_pos (by decide)
  · simp only [leftLength]
    omega

/-- The tree over bytes that begin at a position. -/
def tree (bytes : ByteArray) (position length counter : Nat) : Node :=
  if _large : chunkLength < length then
    let left := leftLength length
    let leftNode := tree bytes position left counter
    let rightNode := tree bytes (position + left) (length - left) (counter + left / chunkLength)
    { chaining := initialValue
      block := leftNode.compress 0 ++ rightNode.compress 0
      counter := 0, length := blockLength, flags := parentNode }
  else chunk bytes position length counter
termination_by length
decreasing_by
  all_goals
    have := leftLength_bounds _large
    omega

/-- The bytes of a word, the lowest first. -/
def bytesOfWord (word : UInt32) : Bytes :=
  [word.toUInt8, (word >>> 8).toUInt8, (word >>> 16).toUInt8, (word >>> 24).toUInt8]

/-- The hash of bytes. -/
def blake3 (bytes : Bytes) : Bytes :=
  let input : ByteArray := ⟨bytes.toArray⟩
  let words := (tree input 0 bytes.length 0).compress rootNode
  (List.range 8).flatMap fun index => bytesOfWord (wordAt words index)

end SourceFacts.Hash
