import OrderDesk.Bytes

/-!
# Crypto/Sha2 — SHA-256 and SHA-512

The two hash functions share one construction over words of 32 and 64 bits: the message is padded to
whole blocks, every block is expanded to a schedule of words, and a round per word stirs eight
registers, which are then added to the state.
-/

namespace OrderDesk.Sha2

/-- The eight registers. -/
structure State (ω : Type) where
  a : ω
  b : ω
  c : ω
  d : ω
  e : ω
  f : ω
  g : ω
  h : ω

/-- What distinguishes the members of the family. -/
structure Parameters (ω : Type) where
  /-- The bytes of a word. -/
  wordBytes : Nat
  /-- The registers before the first block. -/
  initial : State ω
  /-- A constant for every round. -/
  constants : List ω
  /-- The word that bytes denote, the most significant first. -/
  ofBytes : List UInt8 → ω
  /-- The bytes of a word, the most significant first. -/
  toBytes : ω → List UInt8
  /-- The mixing of the register `a`. -/
  bigSigma0 : ω → ω
  /-- The mixing of the register `e`. -/
  bigSigma1 : ω → ω
  /-- The mixing of the word fifteen places back. -/
  smallSigma0 : ω → ω
  /-- The mixing of the word two places back. -/
  smallSigma1 : ω → ω

variable {ω : Type} [Inhabited ω] [Add ω] [XorOp ω] [AndOp ω] [Complement ω]

/-- The message with a one bit, zeros, and its length in bits at the end of the last block. -/
def pad (p : Parameters ω) (message : List UInt8) : List UInt8 :=
  let block := 16 * p.wordBytes
  let lengthBytes := 2 * p.wordBytes
  let used := (message.length + 1 + lengthBytes) % block
  let zeros := if used = 0 then 0 else block - used
  message ++ [0x80] ++ List.replicate zeros 0 ++ Bytes.ofNat lengthBytes (8 * message.length)

/-- The first `count` pieces of a list, `size` items each. -/
def pieces (size : Nat) : (count : Nat) → List UInt8 → List (List UInt8)
  | 0, _ => []
  | count + 1, xs => xs.take size :: pieces size count (xs.drop size)

/-- The words of a block, expanded by `count` more. -/
def expand (p : Parameters ω) : (count : Nat) → Array ω → Array ω
  | 0, w => w
  | count + 1, w =>
    let n := w.size
    expand p count <| w.push <|
      p.smallSigma1 w[n - 2]! + w[n - 7]! + p.smallSigma0 w[n - 15]! + w[n - 16]!

/-- One round. -/
def round (p : Parameters ω) (s : State ω) (kw : ω × ω) : State ω :=
  let choice := (s.e &&& s.f) ^^^ (~~~s.e &&& s.g)
  let majority := (s.a &&& s.b) ^^^ (s.a &&& s.c) ^^^ (s.b &&& s.c)
  let t1 := s.h + p.bigSigma1 s.e + choice + kw.1 + kw.2
  let t2 := p.bigSigma0 s.a + majority
  ⟨t1 + t2, s.a, s.b, s.c, s.d + t1, s.e, s.f, s.g⟩

/-- One block taken into the state. -/
def absorb (p : Parameters ω) (s : State ω) (block : List UInt8) : State ω :=
  let words := (pieces p.wordBytes 16 block).map p.ofBytes
  let schedule := expand p (p.constants.length - 16) words.toArray
  let t := (p.constants.zip schedule.toList).foldl (round p) s
  ⟨s.a + t.a, s.b + t.b, s.c + t.c, s.d + t.d, s.e + t.e, s.f + t.f, s.g + t.g, s.h + t.h⟩

/-- The digest of a message. -/
def digest (p : Parameters ω) (message : List UInt8) : List UInt8 :=
  let padded := pad p message
  let blocks := pieces (16 * p.wordBytes) (padded.length / (16 * p.wordBytes)) padded
  let s := blocks.foldl (absorb p) p.initial
  [s.a, s.b, s.c, s.d, s.e, s.f, s.g, s.h].flatMap p.toBytes

/-! ## The two members -/

/-- A 32-bit word turned to the right. -/
def rotate32 (x : UInt32) (n : UInt32) : UInt32 := (x >>> n) ||| (x <<< (32 - n))

/-- A 64-bit word turned to the right. -/
def rotate64 (x : UInt64) (n : UInt64) : UInt64 := (x >>> n) ||| (x <<< (64 - n))

/-- The registers that a list of eight words fills. -/
def stateOf : List ω → State ω
  | [a, b, c, d, e, f, g, h] => ⟨a, b, c, d, e, f, g, h⟩
  | _ => ⟨default, default, default, default, default, default, default, default⟩

/-- SHA-256: 32-bit words, 64 rounds. -/
def parameters256 : Parameters UInt32 where
  wordBytes := 4
  initial := stateOf [0x6a09e667, 0xbb67ae85, 0x3c6ef372, 0xa54ff53a, 0x510e527f, 0x9b05688c, 0x1f83d9ab, 0x5be0cd19]
  constants := [
  0x428a2f98, 0x71374491, 0xb5c0fbcf, 0xe9b5dba5, 0x3956c25b, 0x59f111f1, 0x923f82a4, 0xab1c5ed5,
  0xd807aa98, 0x12835b01, 0x243185be, 0x550c7dc3, 0x72be5d74, 0x80deb1fe, 0x9bdc06a7, 0xc19bf174,
  0xe49b69c1, 0xefbe4786, 0x0fc19dc6, 0x240ca1cc, 0x2de92c6f, 0x4a7484aa, 0x5cb0a9dc, 0x76f988da,
  0x983e5152, 0xa831c66d, 0xb00327c8, 0xbf597fc7, 0xc6e00bf3, 0xd5a79147, 0x06ca6351, 0x14292967,
  0x27b70a85, 0x2e1b2138, 0x4d2c6dfc, 0x53380d13, 0x650a7354, 0x766a0abb, 0x81c2c92e, 0x92722c85,
  0xa2bfe8a1, 0xa81a664b, 0xc24b8b70, 0xc76c51a3, 0xd192e819, 0xd6990624, 0xf40e3585, 0x106aa070,
  0x19a4c116, 0x1e376c08, 0x2748774c, 0x34b0bcb5, 0x391c0cb3, 0x4ed8aa4a, 0x5b9cca4f, 0x682e6ff3,
  0x748f82ee, 0x78a5636f, 0x84c87814, 0x8cc70208, 0x90befffa, 0xa4506ceb, 0xbef9a3f7, 0xc67178f2]
  ofBytes bytes := .ofNat (Bytes.toNat bytes)
  toBytes w := Bytes.ofNat 4 w.toNat
  bigSigma0 x := rotate32 x 2 ^^^ rotate32 x 13 ^^^ rotate32 x 22
  bigSigma1 x := rotate32 x 6 ^^^ rotate32 x 11 ^^^ rotate32 x 25
  smallSigma0 x := rotate32 x 7 ^^^ rotate32 x 18 ^^^ (x >>> 3)
  smallSigma1 x := rotate32 x 17 ^^^ rotate32 x 19 ^^^ (x >>> 10)

/-- SHA-512: 64-bit words, 80 rounds. -/
def parameters512 : Parameters UInt64 where
  wordBytes := 8
  initial := stateOf [
  0x6a09e667f3bcc908, 0xbb67ae8584caa73b, 0x3c6ef372fe94f82b, 0xa54ff53a5f1d36f1,
  0x510e527fade682d1, 0x9b05688c2b3e6c1f, 0x1f83d9abfb41bd6b, 0x5be0cd19137e2179]
  constants := [
  0x428a2f98d728ae22, 0x7137449123ef65cd, 0xb5c0fbcfec4d3b2f, 0xe9b5dba58189dbbc,
  0x3956c25bf348b538, 0x59f111f1b605d019, 0x923f82a4af194f9b, 0xab1c5ed5da6d8118,
  0xd807aa98a3030242, 0x12835b0145706fbe, 0x243185be4ee4b28c, 0x550c7dc3d5ffb4e2,
  0x72be5d74f27b896f, 0x80deb1fe3b1696b1, 0x9bdc06a725c71235, 0xc19bf174cf692694,
  0xe49b69c19ef14ad2, 0xefbe4786384f25e3, 0x0fc19dc68b8cd5b5, 0x240ca1cc77ac9c65,
  0x2de92c6f592b0275, 0x4a7484aa6ea6e483, 0x5cb0a9dcbd41fbd4, 0x76f988da831153b5,
  0x983e5152ee66dfab, 0xa831c66d2db43210, 0xb00327c898fb213f, 0xbf597fc7beef0ee4,
  0xc6e00bf33da88fc2, 0xd5a79147930aa725, 0x06ca6351e003826f, 0x142929670a0e6e70,
  0x27b70a8546d22ffc, 0x2e1b21385c26c926, 0x4d2c6dfc5ac42aed, 0x53380d139d95b3df,
  0x650a73548baf63de, 0x766a0abb3c77b2a8, 0x81c2c92e47edaee6, 0x92722c851482353b,
  0xa2bfe8a14cf10364, 0xa81a664bbc423001, 0xc24b8b70d0f89791, 0xc76c51a30654be30,
  0xd192e819d6ef5218, 0xd69906245565a910, 0xf40e35855771202a, 0x106aa07032bbd1b8,
  0x19a4c116b8d2d0c8, 0x1e376c085141ab53, 0x2748774cdf8eeb99, 0x34b0bcb5e19b48a8,
  0x391c0cb3c5c95a63, 0x4ed8aa4ae3418acb, 0x5b9cca4f7763e373, 0x682e6ff3d6b2b8a3,
  0x748f82ee5defb2fc, 0x78a5636f43172f60, 0x84c87814a1f0ab72, 0x8cc702081a6439ec,
  0x90befffa23631e28, 0xa4506cebde82bde9, 0xbef9a3f7b2c67915, 0xc67178f2e372532b,
  0xca273eceea26619c, 0xd186b8c721c0c207, 0xeada7dd6cde0eb1e, 0xf57d4f7fee6ed178,
  0x06f067aa72176fba, 0x0a637dc5a2c898a6, 0x113f9804bef90dae, 0x1b710b35131c471b,
  0x28db77f523047d84, 0x32caab7b40c72493, 0x3c9ebe0a15c9bebc, 0x431d67c49c100d4c,
  0x4cc5d4becb3e42b6, 0x597f299cfc657e2a, 0x5fcb6fab3ad6faec, 0x6c44198c4a475817]
  ofBytes bytes := .ofNat (Bytes.toNat bytes)
  toBytes w := Bytes.ofNat 8 w.toNat
  bigSigma0 x := rotate64 x 28 ^^^ rotate64 x 34 ^^^ rotate64 x 39
  bigSigma1 x := rotate64 x 14 ^^^ rotate64 x 18 ^^^ rotate64 x 41
  smallSigma0 x := rotate64 x 1 ^^^ rotate64 x 8 ^^^ (x >>> 7)
  smallSigma1 x := rotate64 x 19 ^^^ rotate64 x 61 ^^^ (x >>> 6)

/-- The 32-byte SHA-256 digest. -/
def sha256 (message : List UInt8) : List UInt8 := digest parameters256 message

/-- The 64-byte SHA-512 digest. -/
def sha512 (message : List UInt8) : List UInt8 := digest parameters512 message

end OrderDesk.Sha2
