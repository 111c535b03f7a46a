import OrderDesk.Amount.Basic
import OrderDesk.Identifier.Asset
import OrderDesk.Order.Request

/-!
# Clearing/Request — settlements and withdrawals

Both are signed by the user and carry amounts in inventory units: a settlement with `0x`, a
withdrawal without.
-/

namespace OrderDesk

open Json (Codec Fields)

/-- The swap that a settler asks the clearing engine to approve. -/
structure Swap where
  /-- The settler. -/
  user : PublicKey
  assetIn : Asset
  amountIn : Amount
  assetOut : Asset
  amountOut : Amount
  /-- Where the settlement executes. -/
  chain : ChainId
deriving DecidableEq

/-- A signed settlement. -/
structure Settlement where
  inner : Swap
  signature : List UInt8
deriving DecidableEq

/-- What a user asks to be paid out. -/
structure Payout where
  user : PublicKey
  asset : Asset
  amount : Amount
  /-- The recipient, in hexadecimal with `0x`. -/
  target : String
  chain : ChainId
deriving DecidableEq

/-- A signed withdrawal. -/
structure Withdrawal where
  inner : Payout
  signature : List UInt8
deriving DecidableEq

/-- A payout to an EVM address. -/
def Payout.toAddress (user : PublicKey) (asset : Asset) (amount : Amount) (target : FixedBytes 20)
    (chain : ChainId) : Payout :=
  ⟨user, asset, amount, "0x" ++ Hex.text target.toList, chain⟩

/-- A swap in JSON. -/
def Swap.codec : Codec Swap :=
  ((Fields.required "tplus_user" user PublicKey.codec).and <|
    (Fields.required "asset_in" assetIn Asset.codec).and <|
    (Fields.required "amount_in" amountIn Amount.prefixedCodec).and <|
    (Fields.required "asset_out" assetOut Asset.codec).and <|
    (Fields.required "amount_out" amountOut Amount.prefixedCodec).and <|
    Fields.required "chain_id" chain ChainId.codec).codec
    fun (user, assetIn, amountIn, assetOut, amountOut, chain) =>
      ⟨user, assetIn, amountIn, assetOut, amountOut, chain⟩

/-- A settlement in JSON. -/
def Settlement.codec : Codec Settlement :=
  ((Fields.required "inner" inner Swap.codec).and <|
    Fields.required "signature" signature signatureCodec).codec
    fun (inner, signature) => ⟨inner, signature⟩

/-- A payout in JSON. -/
def Payout.codec : Codec Payout :=
  ((Fields.required "tplus_user" user PublicKey.codec).and <|
    (Fields.required "asset" asset Asset.codec).and <|
    (Fields.required "amount" amount Amount.bareCodec).and <|
    (Fields.required "target" target Codec.string).and <|
    Fields.required "chain_id" chain ChainId.codec).codec
    fun (user, asset, amount, target, chain) => ⟨user, asset, amount, target, chain⟩

/-- A withdrawal in JSON. -/
def Withdrawal.codec : Codec Withdrawal :=
  ((Fields.required "inner" inner Payout.codec).and <|
    Fields.required "signature" signature signatureCodec).codec
    fun (inner, signature) => ⟨inner, signature⟩

/-- A swap, signed. -/
def Settlement.sign (s : Signer) (inner : Swap) : Settlement :=
  ⟨inner, s.signJson Swap.codec inner⟩

/-- A payout, signed. -/
def Withdrawal.sign (s : Signer) (inner : Payout) : Withdrawal :=
  ⟨inner, s.signJson Payout.codec inner⟩

end OrderDesk
