import SandboxImage.Text.Utf8

/-!
# BLAKE3

The hash as a function on bytes. The input is cut into chunks of 1024 bytes, a chunk into blocks of
64; a chunk is compressed block by block, and chunks are joined pairwise in a tree whose left half
is the largest power of two of chunks that leaves something for the right.
-/

namespace SandboxImage.Blake3

/-- Eight or sixteen machine words. -/
abbrev Words := Array UInt32

/-- The initial chaining value. -/
def initial : Words :=
  #[0x6A09E667, 0xBB67AE85, 0x3C6EF372, 0xA54FF53A, 0x510E527F, 0x9B05688C, 0x1F83D9AB, 0x5BE0CD19]

/-- The order in which the words of a block enter the next round. -/
def permutation : List Nat := [2, 6, 3, 10, 7, 0, 4, 13, 1, 11, 12, 5, 9, 14, 15, 8]

/-- The word at `i`. -/
def word (v : Words) (i : Nat) : UInt32 := v.getD i 0

/-- Rotates a word to the right by `n` of its 32 bits. -/
def rotateRight (x : UInt32) (n : UInt32) : UInt32 := (x >>> n) ||| (x <<< (32 - n))

/-- Mixes two words of the block into a column or diagonal of the state. -/
def mix (v : Words) (a b c d : Nat) (x y : UInt32) : Words :=
  let va := word v a + word v b + x
  let vd := rotateRight (word v d ^^^ va) 16
  let vc := word v c + vd
  let vb := rotateRight (word v b ^^^ vc) 12
  let va := va + vb + y
  let vd := rotateRight (vd ^^^ va) 8
  let vc := vc + vd
  let vb := rotateRight (vb ^^^ vc) 7
  (((v.setIfInBounds a va).setIfInBounds b vb).setIfInBounds c vc).setIfInBounds d vd

/-- One round: the four columns, then the four diagonals. -/
def round (v m : Words) : Words :=
  let v := mix v 0 4 8 12 (word m 0) (word m 1)
  let v := mix v 1 5 9 13 (word m 2) (word m 3)
  let v := mix v 2 6 10 14 (word m 4) (word m 5)
  let v := mix v 3 7 11 15 (word m 6) (word m 7)
  let v := mix v 0 5 10 15 (word m 8) (word m 9)
  let v := mix v 1 6 11 12 (word m 10) (word m 11)
  let v := mix v 2 7 8 13 (word m 12) (word m 13)
  mix v 3 4 9 14 (word m 14) (word m 15)

/-- The words of a block in the order of the next round. -/
def permute (m : Words) : Words :=
  (permutation.map (word m)).toArray

/-- A number of rounds, permuting the block between them. -/
def rounds : Nat → Words → Words → Words
  | 0, v, _ => v
  | n + 1, v, m => rounds n (round v m) (permute m)

/-- What marks the place of a block in the tree. -/
def chunkStart : UInt32 := 1

@[inherit_doc chunkStart]
def chunkEnd : UInt32 := 2

@[inherit_doc chunkStart]
def parentMark : UInt32 := 4

@[inherit_doc chunkStart]
def rootMark : UInt32 := 8

/-- A node of the tree before its last compression. -/
structure Node where
  chaining : Words
  block : Words
  counter : UInt64
  length : UInt32
  marks : UInt32

/-- The sixteen words that compressing a node gives. -/
def Node.compress (n : Node) : Words :=
  let start := n.chaining ++
    #[word initial 0, word initial 1, word initial 2, word initial 3,
      n.counter.toUInt32, (n.counter >>> 32).toUInt32, n.length, n.marks]
  let v := rounds 7 start n.block
  ((List.range 8).map fun i => word v i ^^^ word v (i + 8)).toArray ++
    ((List.range 8).map fun i => word v (i + 8) ^^^ word n.chaining i).toArray

/-- The chaining value of an inner node. -/
def Node.value (n : Node) : Words := n.compress.extract 0 8

/-- Bytes as words of four, the lowest byte first; a word that is cut short is filled with zeros. -/
def wordsOf : Bytes → List UInt32
  | a :: b :: c :: d :: rest =>
    (a.toUInt32 ||| (b.toUInt32 <<< 8) ||| (c.toUInt32 <<< 16) ||| (d.toUInt32 <<< 24)) ::
      wordsOf rest
  | [] => []
  | [a] => [a.toUInt32]
  | [a, b] => [a.toUInt32 ||| (b.toUInt32 <<< 8)]
  | [a, b, c] => [a.toUInt32 ||| (b.toUInt32 <<< 8) ||| (c.toUInt32 <<< 16)]

/-- A block of up to 64 bytes as sixteen words. -/
def blockWords (b : Bytes) : Words :=
  let ws := wordsOf b
  (ws ++ List.replicate (16 - ws.length) 0).toArray

/-- The blocks of a chunk: full ones, then the rest, which is empty only if the chunk is. -/
def blocks (input : Bytes) : List Bytes :=
  if input.length ≤ 64 then [input]
  else input.take 64 :: blocks (input.drop 64)
termination_by input.length
decreasing_by simp only [List.length_drop]; omega

/-- The node of a chunk: every block but the last is compressed into the chaining value. -/
def chunkNode (counter : UInt64) : Words → UInt32 → List Bytes → Node
  | cv, marks, [] => ⟨cv, blockWords [], counter, 0, marks ||| chunkEnd⟩
  | cv, marks, [b] => ⟨cv, blockWords b, counter, b.length.toUInt32, marks ||| chunkEnd⟩
  | cv, marks, b :: rest =>
    chunkNode counter (Node.value ⟨cv, blockWords b, counter, 64, marks⟩) 0 rest

/-- How much of an input of more than one chunk goes to the left. -/
def leftLength (n : Nat) : Nat := 1024 * Nat.pow 2 ((n - 1) / 1024).log2

theorem leftLength_pos (n : Nat) : 0 < leftLength n := by
  unfold leftLength
  have : 0 < Nat.pow 2 ((n - 1) / 1024).log2 := Nat.two_pow_pos _
  omega

theorem leftLength_lt {n : Nat} (h : 1024 < n) : leftLength n < n := by
  have hk : (n - 1) / 1024 ≠ 0 := by omega
  have : Nat.pow 2 ((n - 1) / 1024).log2 ≤ (n - 1) / 1024 := Nat.log2_self_le hk
  unfold leftLength
  omega

/-- The node of an input whose first chunk has the number `counter`. -/
def tree (input : Bytes) (counter : Nat) : Node :=
  if _ : input.length ≤ 1024 then
    chunkNode counter.toUInt64 initial chunkStart (blocks input)
  else
    let left := leftLength input.length
    let l := (tree (input.take left) counter).value
    let r := (tree (input.drop left) (counter + left / 1024)).value
    ⟨initial, l ++ r, 0, 64, parentMark⟩
termination_by input.length
decreasing_by
  · have := leftLength_lt (n := input.length) (by omega)
    simp only [List.length_take]; omega
  · have := leftLength_pos input.length
    simp only [List.length_drop]; omega

/-- The bytes of a word, the lowest first. -/
def wordBytes (w : UInt32) : Bytes :=
  [w.toUInt8, (w >>> 8).toUInt8, (w >>> 16).toUInt8, (w >>> 24).toUInt8]

/-- The digest of an input: 32 bytes. -/
def hash (input : Bytes) : Bytes :=
  let root := tree input 0
  (({ root with marks := root.marks ||| rootMark } : Node).compress.extract 0 8).toList.flatMap
    wordBytes

/-- The lowercase digits of a byte. -/
def hexByte (b : UInt8) : List Char :=
  Nat.toDigits 16 (b.toNat / 16) ++ Nat.toDigits 16 (b.toNat % 16)

/-- The digest of an input as 64 lowercase hexadecimal digits. -/
def hexDigest (input : Bytes) : List Char :=
  (hash input).flatMap hexByte

end SandboxImage.Blake3
