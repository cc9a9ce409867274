import Outbox.Text.Hex

/-!
# The Keccak-256 digest

The letters of a checksummed account are capital or not according to a digest of the
account's digits, and the digest is Keccak with a rate of 136 bytes and 32 bytes of
output, in the form that precedes the standard: the padding starts with a single one
bit and carries no mark of the hash function.

The state is a square of five by five words of 64 bits, kept as a list of 25 words with
word `(x, y)` at place `x + 5 * y`.  Every step of a round is written as what stands at
`(x, y)` afterwards (`build`), so that a step is a formula and not a loop.
-/

namespace Outbox
namespace Keccak

/-- The 25 words of the state. -/
abbrev State := List UInt64

/-- The word at `(x, y)`, both taken round the square. -/
def word (s : State) (x y : Nat) : UInt64 := s.getD (x % 5 + 5 * (y % 5)) 0

/-- The state with the word `f x y` at `(x, y)`. -/
def build (f : Nat → Nat → UInt64) : State := (List.range 25).map fun i => f (i % 5) (i / 5)

@[simp] theorem length_build (f : Nat → Nat → UInt64) : (build f).length = 25 := by
  simp [build]

/-- A word turned left by `n` bits. -/
def turnLeft (w : UInt64) (n : UInt64) : UInt64 := (w <<< n) ||| (w >>> (64 - n))

/-! ## The steps of a round -/

/-- By how much each word is turned. -/
def turns : List UInt64 :=
  [0, 1, 62, 28, 27, 36, 44, 6, 55, 20, 3, 10, 43, 25, 39, 41, 45, 15, 21, 8, 18, 2, 61, 56, 14]

/-- The words that tell the rounds apart. -/
def roundWords : List UInt64 :=
  [0x0000000000000001, 0x0000000000008082, 0x800000000000808a, 0x8000000080008000,
   0x000000000000808b, 0x0000000080000001, 0x8000000080008081, 0x8000000000008009,
   0x000000000000008a, 0x0000000000000088, 0x0000000080008009, 0x000000008000000a,
   0x000000008000808b, 0x800000000000008b, 0x8000000000008089, 0x8000000000008003,
   0x8000000000008002, 0x8000000000000080, 0x000000000000800a, 0x800000008000000a,
   0x8000000080008081, 0x8000000000008080, 0x0000000080000001, 0x8000000080008008]

/-- Every word takes up the columns to its left and right. -/
def mixColumns (s : State) : State :=
  let columns := (List.range 5).map fun x =>
    word s x 0 ^^^ word s x 1 ^^^ word s x 2 ^^^ word s x 3 ^^^ word s x 4
  build fun x y =>
    word s x y ^^^ columns.getD ((x + 4) % 5) 0 ^^^ turnLeft (columns.getD ((x + 1) % 5) 0) 1

/-- The words are turned and change places. -/
def scatter (s : State) : State :=
  build fun x y => turnLeft (word s (x + 3 * y) x) (word turns (x + 3 * y) x)

/-- Every word takes up its two neighbours in the row. -/
def mixRows (s : State) : State :=
  build fun x y => word s x y ^^^ (~~~ word s (x + 1) y &&& word s (x + 2) y)

/-- The first word takes up the word of the round. -/
def mark (roundWord : UInt64) (s : State) : State :=
  match s with
  | [] => []
  | w :: ws => (w ^^^ roundWord) :: ws

/-- One round. -/
def round (s : State) (roundWord : UInt64) : State := mark roundWord (mixRows (scatter (mixColumns s)))

/-- All rounds. -/
def permute (s : State) : State := roundWords.foldl round s

/-! ## Messages and digests -/

/-- How many bytes a block has. -/
def rate : Nat := 136

/-- What fills the last block: a one bit, zeros, and a one bit at the very end. -/
def padding (length : Nat) : List UInt8 :=
  match rate - length % rate with
  | 0 | 1 => [0x81]
  | k + 2 => 0x01 :: List.replicate k 0 ++ [0x80]

/-- A word from its bytes, the least first. -/
def ofBytes (bytes : List UInt8) : UInt64 := bytes.foldr (fun byte w => (w <<< 8) ||| byte.toUInt64) 0

/-- The eight bytes of a word, the least first. -/
def toBytes (w : UInt64) : List UInt8 := (List.range 8).map fun i => (w >>> (8 * i.toUInt64)).toUInt8

/-- The words of a block, filled up with zeros. -/
def blockWords (block : List UInt8) : State :=
  (List.range 25).map fun i => ofBytes ((block.drop (8 * i)).take 8)

/-- The blocks of a message. -/
def blocks (message : List UInt8) : List (List UInt8) :=
  let all := message ++ padding message.length
  (List.range (all.length / rate)).map fun i => (all.drop (rate * i)).take rate

/-- A block is added to the state. -/
def absorb (s : State) (block : List UInt8) : State :=
  permute (List.zipWith (· ^^^ ·) s (blockWords block))

/-- The digest of a message. -/
def digest (message : List UInt8) : List UInt8 :=
  (((blocks message).foldl absorb (List.replicate 25 0)).take 4).flatMap toBytes

/-- The digest of a message, as nibbles, the high half of each byte first. -/
def nibbles (message : List UInt8) : List Text.Nibble :=
  (digest message).flatMap fun byte => [.ofNat (byte.toNat / 16), .ofNat byte.toNat]

end Keccak
end Outbox
