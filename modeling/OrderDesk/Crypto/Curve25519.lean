import OrderDesk.Crypto.Sha2

/-!
# Crypto/Curve25519 — signatures and shared secrets over one curve

The field has `p = 2²⁵⁵ − 19` elements.  Signatures (Ed25519) use the twisted Edwards form
`−x² + y² = 1 + d x² y²` in extended coordinates; shared secrets (X25519) use the Montgomery form and
its `u` coordinate alone.  Numbers are written as bytes with the least significant first.
-/

namespace OrderDesk.Curve25519

/-- The size of the field. -/
def p : Nat := Nat.pow 2 255 - 19

/-- The order of the base point. -/
def order : Nat := Nat.pow 2 252 + 27742317777372353535851937790883648493

/-- A product with a power, by the lowest `bits` binary digits of the exponent. -/
def timesPower : (bits : Nat) → (base exponent product : Nat) → Nat
  | 0, _, _, product => product
  | bits + 1, base, exponent, product =>
    timesPower bits (base * base % p) (exponent / 2)
      (if exponent % 2 = 1 then product * base % p else product)

/-- A power in the field, for exponents below 2²⁵⁶. -/
def power (base exponent : Nat) : Nat := timesPower 256 base exponent 1

/-- The inverse of a field element that is not zero; zero gives zero. -/
def inverse (x : Nat) : Nat := power x (p - 2)

/-- The difference of two field elements. -/
def sub (x y : Nat) : Nat := (x + (p - y % p)) % p

/-- The constant of the Edwards form. -/
def d : Nat := 37095705934669439343138083508754565189542113879843219016388785533085940283555

/-- A square root of minus one. -/
def rootOfMinusOne : Nat :=
  19681161376707505956807079304988542015446066515923890162744021073123829784752

/-! ## Points of the Edwards form -/

/-- A point in extended coordinates: `x = X / Z`, `y = Y / Z`, `T = X Y / Z`. -/
structure Point where
  x : Nat
  y : Nat
  z : Nat
  t : Nat

namespace Point

/-- The neutral element. -/
def neutral : Point := ⟨0, 1, 1, 0⟩

/-- A point from its two coordinates. -/
def ofAffine (x y : Nat) : Point := ⟨x, y, 1, x * y % p⟩

/-- The base point. -/
def base : Point :=
  ofAffine 15112221349535400772501151409588531511454012693041857206046113283949847762202
    46316835694926478169428394003475163141307993866256225615783033603165251855960

/-- The sum of two points. -/
def add (P Q : Point) : Point :=
  let a := sub P.y P.x * sub Q.y Q.x % p
  let b := (P.y + P.x) * (Q.y + Q.x) % p
  let c := 2 * d * P.t % p * Q.t % p
  let e := 2 * P.z * Q.z % p
  let f := sub b a
  let g := sub e c
  let h := (e + c) % p
  let i := (b + a) % p
  ⟨f * g % p, h * i % p, g * h % p, f * i % p⟩

/-- The opposite point. -/
def neg (P : Point) : Point := ⟨sub 0 P.x, P.y, P.z, sub 0 P.t⟩

/-- A multiple of a point, by the lowest `bits` binary digits of the factor. -/
def multiple : (bits : Nat) → Nat → Point → Point
  | 0, _, _ => neutral
  | bits + 1, n, P =>
    let rest := multiple bits (n / 2) (P.add P)
    if n % 2 = 1 then rest.add P else rest

/-- The bytes of a point: `y`, with the lowest bit of `x` on top. -/
def toBytes (P : Point) : List UInt8 :=
  let zi := inverse P.z
  let x := P.x * zi % p
  let y := P.y * zi % p
  Bytes.ofNatLittle 32 (y + (x % 2) * Nat.pow 2 255)

/-- The point that 32 bytes denote, if `y` belongs to a point of the curve. -/
def ofBytes? (bytes : List UInt8) : Option Point :=
  let n := Bytes.toNatLittle bytes
  let y := n % Nat.pow 2 255 % p
  let sign := n / Nat.pow 2 255
  let u := sub (y * y % p) 1
  let v := (d * (y * y % p) + 1) % p
  let v3 := v * v % p * v % p
  let v7 := v3 * v3 % p * v % p
  let r := u * v3 % p * power (u * v7 % p) ((p - 5) / 8) % p
  let check := v * (r * r % p) % p
  let root := if check = u then some r
    else if check = sub 0 u then some (r * rootOfMinusOne % p)
    else none
  root.map fun x =>
    let x := if x % 2 = sign then x else sub 0 x
    ofAffine x y

end Point

/-- A scalar with its three lowest bits and its highest bit cleared and the next highest set. -/
def clamp (bytes : List UInt8) : Nat :=
  let n := Bytes.toNatLittle bytes % Nat.pow 2 254
  n - n % 8 + Nat.pow 2 254

/-! ## Ed25519 -/

/-- The secret scalar of a seed: the clamped lower half of its SHA-512 digest. -/
def secretScalar (seed : List UInt8) : Nat := clamp ((Sha2.sha512 seed).take 32)

/-- The public key of a seed. -/
def publicKey (seed : List UInt8) : List UInt8 :=
  (Point.multiple 256 (secretScalar seed) .base).toBytes

/-- **Signing**: deterministic, 64 bytes. -/
def sign (seed message : List UInt8) : List UInt8 :=
  let a := secretScalar seed
  let nonceKey := (Sha2.sha512 seed).drop 32
  let key := publicKey seed
  let r := Bytes.toNatLittle (Sha2.sha512 (nonceKey ++ message)) % order
  let commitment := (Point.multiple 256 r .base).toBytes
  let k := Bytes.toNatLittle (Sha2.sha512 (commitment ++ key ++ message)) % order
  commitment ++ Bytes.ofNatLittle 32 ((r + k * a) % order)

/-- **Verifying**: the response must be reduced, and the commitment is recomputed and compared. -/
def verify (key message signature : List UInt8) : Bool :=
  let commitment := signature.take 32
  let s := Bytes.toNatLittle (signature.drop 32)
  match Point.ofBytes? key with
  | none => false
  | some A =>
    let k := Bytes.toNatLittle (Sha2.sha512 (commitment ++ key ++ message)) % order
    signature.length = 64 && s < order &&
      ((Point.multiple 256 s .base).add (Point.multiple 256 k A.neg)).toBytes = commitment

/-! ## X25519 -/

/-- The two points that a ladder holds, each by the numerator and the denominator of its `u`. -/
structure Ladder where
  x2 : Nat
  z2 : Nat
  x3 : Nat
  z3 : Nat

/-- One rung: the sum and the double of the two points, whose difference has the coordinate `u`. -/
def Ladder.rung (u : Nat) (l : Ladder) : Ladder :=
  let a := (l.x2 + l.z2) % p
  let aa := a * a % p
  let b := sub l.x2 l.z2
  let bb := b * b % p
  let e := sub aa bb
  let da := sub l.x3 l.z3 * a % p
  let cb := (l.x3 + l.z3) * b % p
  let sum := (da + cb) % p
  let difference := sub da cb
  ⟨aa * bb % p, e * (aa + 121665 * e) % p, sum * sum % p, u * (difference * difference % p) % p⟩

/-- The two points change places. -/
def Ladder.swap (l : Ladder) : Ladder := ⟨l.x3, l.z3, l.x2, l.z2⟩

/-- The rungs for the bits of a scalar below `bits`, the highest first. -/
def climb (u scalar : Nat) : (bits : Nat) → Ladder → Ladder
  | 0, l => l
  | bits + 1, l =>
    let l := if scalar.testBit bits then (l.swap.rung u).swap else l.rung u
    climb u scalar bits l

/-- **The shared secret** of a clamped scalar and the `u` coordinate of the other side. -/
def sharedSecret (scalar : Nat) (other : List UInt8) : List UInt8 :=
  let u := Bytes.toNatLittle other % Nat.pow 2 255 % p
  let l := climb u scalar 255 ⟨1, 0, u, 1⟩
  Bytes.ofNatLittle 32 (l.x2 * inverse l.z2 % p)

/-- The public key of a clamped scalar. -/
def exchangeKey (scalar : Nat) : List UInt8 := sharedSecret scalar (Bytes.ofNatLittle 32 9)

end OrderDesk.Curve25519
