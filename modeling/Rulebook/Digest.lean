import Rulebook.Text.Basic

/-!
BLAKE3 digests: the input is cut into chunks of 1024 bytes, each chunk is compressed block by block
into a chaining value, and chaining values are joined in a binary tree whose left sides are full.
-/

namespace Rulebook.Digest

/-- The sixteen words of a state or a block. -/
abbrev Block :=
  Vector UInt32 16

/-- A chaining value. -/
abbrev Chain :=
  Vector UInt32 8

/-- The chaining value at the start of every chunk and of every joint. -/
def start : Chain :=
  #v[0x6A09E667, 0xBB67AE85, 0x3C6EF372, 0xA54FF53A, 0x510E527F, 0x9B05688C, 0x1F83D9AB,
    0x5BE0CD19]

def permutation : Vector (Fin 16) 16 :=
  #v[2, 6, 3, 10, 7, 0, 4, 13, 1, 11, 12, 5, 9, 14, 15, 8]

def rotate (w : UInt32) (n : UInt32) : UInt32 :=
  (w >>> n) ||| (w <<< (32 - n))

/-- Mixes two words of a block into four words of the state. -/
def mix (s : Block) (a b c d : Fin 16) (x y : UInt32) : Block :=
  let s := s.set a (s[a] + s[b] + x)
  let s := s.set d (rotate (s[d] ^^^ s[a]) 16)
  let s := s.set c (s[c] + s[d])
  let s := s.set b (rotate (s[b] ^^^ s[c]) 12)
  let s := s.set a (s[a] + s[b] + y)
  let s := s.set d (rotate (s[d] ^^^ s[a]) 8)
  let s := s.set c (s[c] + s[d])
  s.set b (rotate (s[b] ^^^ s[c]) 7)

/-- One round: the columns of the state, then its diagonals. -/
def round (s m : Block) : Block :=
  let s := mix s 0 4 8 12 m[0] m[1]
  let s := mix s 1 5 9 13 m[2] m[3]
  let s := mix s 2 6 10 14 m[4] m[5]
  let s := mix s 3 7 11 15 m[6] m[7]
  let s := mix s 0 5 10 15 m[8] m[9]
  let s := mix s 1 6 11 12 m[10] m[11]
  let s := mix s 2 7 8 13 m[12] m[13]
  mix s 3 4 9 14 m[14] m[15]

/-- As many rounds as given, the block permuted between them. -/
def rounds : Nat → Block → Block → Block
  | 0, s, _ => s
  | n + 1, s, m => rounds n (round s m) (permutation.map fun i => m[i])

def compress (chain : Chain) (block : Block) (counter : UInt64) (size flags : UInt32) : Chain :=
  let s : Block := (chain ++ #v[start[0], start[1], start[2], start[3], counter.toUInt32,
    (counter >>> 32).toUInt32, size, flags]).cast rfl
  let s := rounds 7 s block
  Vector.ofFn fun i => s[i] ^^^ s[i.val + 8]

def chunkStart : UInt32 := 1

def chunkEnd : UInt32 := 2

def joint : UInt32 := 4

def root : UInt32 := 8

/-- The word of up to four bytes, the first one lowest. -/
def word (bytes : List UInt8) : UInt32 :=
  bytes.foldr (fun b w => (w <<< 8) ||| b.toUInt32) 0

/-- The block of up to 64 bytes, filled up with zeros. -/
def block (bytes : List UInt8) : Block :=
  Vector.ofFn fun i => word ((bytes.drop (4 * i.val)).take 4)

/-- The chaining value of a chunk, from the block after `chain` on. -/
def chunkFrom (counter : UInt64) (last : UInt32) :
    Nat → Chain → UInt32 → List UInt8 → Chain
  | 0, chain, _, _ => chain
  | fuel + 1, chain, first, bytes =>
      if bytes.length ≤ 64 then
        compress chain (block bytes) counter bytes.length.toUInt32 (first ||| chunkEnd ||| last)
      else
        chunkFrom counter last fuel (compress chain (block (bytes.take 64)) counter 64 first) 0
          (bytes.drop 64)

/-- The chaining value of a chunk; `last` marks the only chunk there is. -/
def chunk (counter : UInt64) (last : UInt32) (bytes : List UInt8) : Chain :=
  chunkFrom counter last (bytes.length + 1) start chunkStart bytes

def join (last : UInt32) (left right : Chain) : Chain :=
  compress start ((left ++ right).cast rfl) 0 64 (joint ||| last)

/-- The size of the left side of more than one chunk: the greatest power of two of chunks that
leaves something to the right. -/
def leftSize (size : Nat) : Nat :=
  1024 * Nat.pow 2 (Nat.log2 ((size - 1) / 1024))

/-- The chaining value of bytes whose first chunk has the number `counter`. -/
def tree : Nat → UInt64 → UInt32 → List UInt8 → Chain
  | 0, _, _, _ => start
  | fuel + 1, counter, last, bytes =>
      if bytes.length ≤ 1024 then chunk counter last bytes
      else
        let left := leftSize bytes.length
        join last (tree fuel counter 0 (bytes.take left))
          (tree fuel (counter + (left / 1024).toUInt64) 0 (bytes.drop left))

/-- The four bytes of a word, the lowest first. -/
def wordBytes (w : UInt32) : List UInt8 :=
  [w.toUInt8, (w >>> 8).toUInt8, (w >>> 16).toUInt8, (w >>> 24).toUInt8]

def digest (bytes : List UInt8) : List UInt8 :=
  (tree (bytes.length + 1) 0 root bytes).toList.flatMap wordBytes

def hex (bytes : List UInt8) : String :=
  String.ofList (bytes.flatMap fun b => Text.hexDigits 2 b.toNat)

end Rulebook.Digest
