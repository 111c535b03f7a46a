import OrderDesk.Bytes

/-!
# Crypto/Aes — the AES block cipher with 256-bit keys

A block is sixteen bytes, column after column.  The substitution is the inverse in the field of 256
elements followed by an affine map; the field's modulus is `x⁸ + x⁴ + x³ + x + 1`.
-/

namespace OrderDesk.Aes

/-- A field element times `x`. -/
def double (b : UInt8) : UInt8 := (b <<< 1) ^^^ (if b ≥ 128 then 0x1b else 0)

/-- The product of two field elements, by the lowest `bits` bits of the second. -/
def mul : (bits : Nat) → UInt8 → UInt8 → UInt8
  | 0, _, _ => 0
  | bits + 1, a, b => (if b % 2 = 1 then a else 0) ^^^ mul bits (double a) (b / 2)

/-- The inverse of a field element, its 254th power; zero stays zero. -/
def inverse (a : UInt8) : UInt8 :=
  let square (x : UInt8) := mul 8 x x
  let a2 := square a
  let a4 := square a2
  let a8 := square a4
  let a16 := square a8
  let a32 := square a16
  let a64 := square a32
  let a128 := square a64
  [a4, a8, a16, a32, a64, a128].foldl (mul 8) a2

/-- A byte turned to the left. -/
def rotate (b n : UInt8) : UInt8 := (b <<< n) ||| (b >>> (8 - n))

/-- The affine map behind the inverse. -/
def affine (b : UInt8) : UInt8 :=
  b ^^^ rotate b 1 ^^^ rotate b 2 ^^^ rotate b 3 ^^^ rotate b 4 ^^^ 0x63

/-- The substitution of every byte. -/
def table : Array UInt8 := (Array.range 256).map fun n => affine (inverse (.ofNat n))

/-- The substitute of a byte. -/
def substitute (b : UInt8) : UInt8 := table[b.toNat]!

/-- Two lists of bytes, added place by place. -/
def xor (xs ys : List UInt8) : List UInt8 := List.zipWith (· ^^^ ·) xs ys

/-! ## The key schedule -/

/-- The word that follows in the schedule, from the word before it and the one eight back. -/
def nextWord (i : Nat) (constant : UInt8) (previous eightBack : List UInt8) : List UInt8 :=
  let mixed :=
    if i % 8 = 0 then xor (((previous.drop 1) ++ previous.take 1).map substitute) [constant, 0, 0, 0]
    else if i % 8 = 4 then previous.map substitute
    else previous
  xor eightBack mixed

/-- The schedule extended by `count` words. -/
def extend : (count : Nat) → UInt8 → Array (List UInt8) → Array (List UInt8)
  | 0, _, w => w
  | count + 1, constant, w =>
    let i := w.size
    let word := nextWord i constant w[i - 1]! w[i - 8]!
    extend count (if i % 8 = 0 then double constant else constant) (w.push word)

/-- The first `count` groups of `size` items. -/
def groups {α : Type} (size : Nat) : (count : Nat) → List α → List (List α)
  | 0, _ => []
  | count + 1, xs => xs.take size :: groups size count (xs.drop size)

/-- The fifteen round keys of a 32-byte key. -/
def roundKeys (key : List UInt8) : List (List UInt8) :=
  let words := (extend 52 1 (groups 4 8 key).toArray).toList
  (groups 4 15 words).map List.flatten

/-! ## A block -/

/-- Row `r` of the block is turned by `r` places. -/
def shiftRows (s : List UInt8) : List UInt8 :=
  let a := s.toArray
  (List.range 16).map fun i => a[(i + 4 * (i % 4)) % 16]!

/-- Every column is multiplied by a fixed matrix. -/
def mixColumn : List UInt8 → List UInt8
  | [a, b, c, d] =>
    let all := a ^^^ b ^^^ c ^^^ d
    [a ^^^ all ^^^ double (a ^^^ b), b ^^^ all ^^^ double (b ^^^ c),
      c ^^^ all ^^^ double (c ^^^ d), d ^^^ all ^^^ double (d ^^^ a)]
  | other => other

/-- Every column is mixed. -/
def mixColumns (s : List UInt8) : List UInt8 := (groups 4 4 s).flatMap mixColumn

/-- The rounds behind the first key; the last one mixes no columns. -/
def rounds : List (List UInt8) → List UInt8 → List UInt8
  | [], s => s
  | [key], s => xor (shiftRows (s.map substitute)) key
  | key :: keys, s => rounds keys (xor (mixColumns (shiftRows (s.map substitute))) key)

/-- **A block under a key schedule.** -/
def encryptBlock (keys : List (List UInt8)) (block : List UInt8) : List UInt8 :=
  match keys with
  | [] => block
  | key :: keys => rounds keys (xor block key)

end OrderDesk.Aes
