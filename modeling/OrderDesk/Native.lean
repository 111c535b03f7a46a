import OrderDesk.Amount.Basic
import OrderDesk.Identifier.PublicKey

/-!
# Native — identifiers and amounts out of binary formats

A binary format hands over bytes and integers of known width instead of text.  Each type takes the
forms that have a meaning for it: chain ids take bytes and 64-bit integers, keys take bytes, amounts
take unsigned integers of either width.
-/

namespace OrderDesk

open Json (Fault)

/-- A value as a binary format holds it. -/
inductive Native where
  | bytes (b : List UInt8)
  | unsigned (n : UInt64)
  | signed (z : Int64)
  | wide (n : Amount)

/-- The chain id that a native value denotes. -/
def ChainId.ofNative : Native → Except Fault ChainId
  | .bytes b => reported (ofByteList b)
  | .unsigned n => .ok ⟨n⟩
  | .signed z => ofInt z.toInt
  | .wide _ => .error .unreadable

/-- The key that a native value denotes. -/
def PublicKey.ofNative : Native → Except Fault PublicKey
  | .bytes b => ChainId.reported (ofByteList b)
  | _ => .error .unreadable

/-- The amount that a native value denotes. -/
def Amount.ofNative : Native → Except Json.Fault Amount
  | .unsigned n => .ok ⟨n.toNat, Nat.lt_of_lt_of_le n.toNat_lt (by decide)⟩
  | .wide n => .ok n
  | _ => .error .unreadable

end OrderDesk
