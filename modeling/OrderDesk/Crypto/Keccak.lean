import OrderDesk.Bytes

/-!
# Crypto/Keccak — Keccak-256

The sponge of 25 lanes of 64 bits, with a rate of 136 bytes and Keccak's own padding, as checksummed
addresses use it.  The lane in column `x` and row `y` has the index `x + 5 y`.
-/

namespace OrderDesk.Keccak

/-- How many bytes a block takes. -/
def rate : Nat := 136

/-- The constant of every round. -/
def roundConstants : List UInt64 := [
  0x0000000000000001, 0x0000000000008082, 0x800000000000808a, 0x8000000080008000,
  0x000000000000808b, 0x0000000080000001, 0x8000000080008081, 0x8000000000008009,
  0x000000000000008a, 0x0000000000000088, 0x0000000080008009, 0x000000008000000a,
  0x000000008000808b, 0x800000000000008b, 0x8000000000008089, 0x8000000000008003,
  0x8000000000008002, 0x8000000000000080, 0x000000000000800a, 0x800000008000000a,
  0x8000000080008081, 0x8000000000008080, 0x0000000080000001, 0x8000000080008008]

/-- How far every lane is turned. -/
def offsets : Array UInt64 := #[0, 1, 62, 28, 27, 36, 44, 6, 55, 20, 3, 10, 43, 25, 39, 41, 45, 15, 21, 8, 18, 2, 61, 56, 14]

/-- A lane turned to the left. -/
def rotate (x n : UInt64) : UInt64 := if n = 0 then x else (x <<< n) ||| (x >>> (64 - n))

/-- Twenty-five lanes from their indices. -/
def lanes (f : Nat → UInt64) : Array UInt64 := (Array.range 25).map f

/-- Every lane takes the parity of two neighbouring columns. -/
def theta (s : Array UInt64) : Array UInt64 :=
  let column (x : Nat) :=
    s[x]! ^^^ s[x + 5]! ^^^ s[x + 10]! ^^^ s[x + 15]! ^^^ s[x + 20]!
  let parity := (Array.range 5).map fun x => column ((x + 4) % 5) ^^^ rotate (column ((x + 1) % 5)) 1
  lanes fun i => s[i]! ^^^ parity[i % 5]!

/-- Every lane is turned and moved to another place. -/
def rhoPi (s : Array UInt64) : Array UInt64 :=
  lanes fun i =>
    let x := i % 5
    let y := i / 5
    let source := (x + 3 * y) % 5 + 5 * x
    rotate s[source]! offsets[source]!

/-- Every lane takes the two lanes right of it. -/
def chi (s : Array UInt64) : Array UInt64 :=
  lanes fun i =>
    let row := i - i % 5
    s[i]! ^^^ (~~~s[row + (i + 1) % 5]! &&& s[row + (i + 2) % 5]!)

/-- One round. -/
def round (s : Array UInt64) (constant : UInt64) : Array UInt64 :=
  let s := chi (rhoPi (theta s))
  s.set! 0 (s[0]! ^^^ constant)

/-- All rounds. -/
def permute (s : Array UInt64) : Array UInt64 := roundConstants.foldl round s

/-- The lane that eight bytes denote, the least significant first. -/
def laneOf (block : List UInt8) (i : Nat) : UInt64 :=
  .ofNat (Bytes.toNatLittle ((block.drop (8 * i)).take 8))

/-- One block taken into the state. -/
def absorb (s : Array UInt64) (block : List UInt8) : Array UInt64 :=
  permute (lanes fun i => s[i]! ^^^ laneOf block i)

/-- The message with a one bit, zeros and another one bit, filled up to whole blocks. -/
def pad (message : List UInt8) : List UInt8 :=
  let missing := rate - message.length % rate
  if missing = 1 then message ++ [0x81]
  else message ++ [0x01] ++ List.replicate (missing - 2) 0 ++ [0x80]

/-- The first `count` blocks. -/
def blocks : (count : Nat) → List UInt8 → List (List UInt8)
  | 0, _ => []
  | count + 1, bytes => bytes.take rate :: blocks count (bytes.drop rate)

/-- The 32-byte digest of a message. -/
def keccak256 (message : List UInt8) : List UInt8 :=
  let padded := pad message
  let s := (blocks (padded.length / rate) padded).foldl absorb (lanes fun _ => 0)
  (s.toList.take 4).flatMap fun lane => Bytes.ofNatLittle 8 lane.toNat

end OrderDesk.Keccak
