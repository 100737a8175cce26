/-
The BLAKE3 hash of bytes. The input is cut into chunks of 1024 bytes, each hashed block by block, and
the chunks' values are joined pairwise in a tree whose left halves are full.
-/
import PluginForge.Text.Number

namespace PluginForge.Blake3

abbrev Words (n : Nat) := Vector UInt32 n

def initial : Words 8 :=
  #v[0x6A09E667, 0xBB67AE85, 0x3C6EF372, 0xA54FF53A, 0x510E527F, 0x9B05688C, 0x1F83D9AB, 0x5BE0CD19]

/-- Where each word of a block goes between two rounds. -/
def permutation : Vector (Fin 16) 16 :=
  #v[2, 6, 3, 10, 7, 0, 4, 13, 1, 11, 12, 5, 9, 14, 15, 8]

def chunkStart : UInt32 := 1
def chunkEnd : UInt32 := 2
def parentFlag : UInt32 := 4
def rootFlag : UInt32 := 8

def rotateRight (w : UInt32) (n : UInt32) : UInt32 :=
  (w >>> n) ||| (w <<< (32 - n))

/-- The quarter round: mixes two words of a block into four words of the state. -/
def mix (s : Words 16) (a b c d : Fin 16) (x y : UInt32) : Words 16 :=
  let s := s.set a (s[a] + s[b] + x)
  let s := s.set d (rotateRight (s[d] ^^^ s[a]) 16)
  let s := s.set c (s[c] + s[d])
  let s := s.set b (rotateRight (s[b] ^^^ s[c]) 12)
  let s := s.set a (s[a] + s[b] + y)
  let s := s.set d (rotateRight (s[d] ^^^ s[a]) 8)
  let s := s.set c (s[c] + s[d])
  s.set b (rotateRight (s[b] ^^^ s[c]) 7)

/-- One round: the columns of the state, then its diagonals. -/
def round (s m : Words 16) : Words 16 :=
  let s := mix s 0 4 8 12 m[0] m[1]
  let s := mix s 1 5 9 13 m[2] m[3]
  let s := mix s 2 6 10 14 m[4] m[5]
  let s := mix s 3 7 11 15 m[6] m[7]
  let s := mix s 0 5 10 15 m[8] m[9]
  let s := mix s 1 6 11 12 m[10] m[11]
  let s := mix s 2 7 8 13 m[12] m[13]
  mix s 3 4 9 14 m[14] m[15]

def rounds : Nat → Words 16 → Words 16 → Words 16
  | 0, s, _ => s
  | n + 1, s, m => rounds n (round s m) (permutation.map fun i => m[i])

/-- What a compression starts from. -/
structure Node where
  chain : Words 8
  block : Words 16
  counter : UInt64
  length : UInt32
  flags : UInt32

/-- The eight words that a compression ends with. -/
def Node.value (n : Node) : Words 8 :=
  let s : Words 16 := n.chain ++ #v[initial[0], initial[1], initial[2], initial[3],
    n.counter.toUInt32, (n.counter >>> 32).toUInt32, n.length, n.flags]
  let s := rounds 7 s n.block
  Vector.ofFn fun i : Fin 8 => s[i.val] ^^^ s[i.val + 8]

/-- The word of four bytes, the lowest first. -/
def word (bytes : List UInt8) : UInt32 :=
  bytes.foldr (fun b w => (w <<< 8) ||| b.toUInt32) 0

/-- The words of a block, which is filled up with zeros. -/
def blockWords (bytes : List UInt8) : Words 16 :=
  Vector.ofFn fun i : Fin 16 => word ((bytes.drop (4 * i.val)).take 4)

/-- The last compression of a chunk whose blocks so far gave `chain`; `fuel` is at least the number
of its blocks. -/
def chunkFrom (fuel : Nat) (index : Nat) (chain : Words 8) (start : UInt32) (bytes : List UInt8) :
    Node :=
  let node (length flags : UInt32) : Node :=
    ⟨chain, blockWords (bytes.take 64), .ofNat index, length, flags⟩
  match fuel with
  | 0 => node 0 start
  | fuel + 1 =>
    if bytes.length ≤ 64 then node (.ofNat bytes.length) (start ||| chunkEnd)
    else chunkFrom fuel index (node 64 start).value 0 (bytes.drop 64)

def chunk (index : Nat) (bytes : List UInt8) : Node :=
  chunkFrom 16 index initial chunkStart bytes

def parent (left right : Node) : Node :=
  ⟨initial, left.value ++ right.value, 0, 64, parentFlag⟩

/-- The tree over some bytes whose first chunk has a number; `fuel` is at least the number of
chunks. -/
def tree (fuel : Nat) (index : Nat) (bytes : List UInt8) : Node :=
  match fuel with
  | 0 => chunk index bytes
  | fuel + 1 =>
    if bytes.length ≤ 1024 then chunk index bytes
    else
      let chunks := (bytes.length + 1023) / 1024
      let left := Nat.pow 2 (chunks - 1).log2
      parent (tree fuel index (bytes.take (1024 * left)))
        (tree fuel (index + left) (bytes.drop (1024 * left)))

/-- The hash of some bytes, in eight words. -/
def hash (bytes : List UInt8) : Words 8 :=
  let root := tree bytes.length 0 bytes
  { root with counter := 0, flags := root.flags ||| rootFlag : Node }.value

def wordHex (w : UInt32) : List Char :=
  let n := w.toNat
  Chars.hexPair n ++ Chars.hexPair (n / 256) ++ Chars.hexPair (n / 65536) ++
    Chars.hexPair (n / 16777216)

/-- The hash in hexadecimal. -/
def hex (bytes : List UInt8) : String :=
  .ofList ((hash bytes).toList.flatMap wordHex)

end PluginForge.Blake3
