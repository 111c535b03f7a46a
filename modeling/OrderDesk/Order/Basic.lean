import OrderDesk.Market
import OrderDesk.Identifier.PublicKey
import OrderDesk.Text.Base64

/-!
# Order/Basic — orders

An order names its signer and its market, says what is bought or sold and for how long, and may wait
for a trigger.  Order ids are random; any text is accepted as one.
-/

namespace OrderDesk

open Json (Codec Fields Variant Value)

/-- The price at which an order becomes active. -/
inductive Trigger where
  /-- At this price or above. -/
  | priceAbove (price : UInt64)
  /-- At this price or below. -/
  | priceBelow (price : UInt64)
deriving DecidableEq, Repr

/-- Which way an order trades. -/
inductive Side where
  | buy
  | sell
deriving DecidableEq, Repr

/-- How long a limit order rests on the book. -/
inductive TimeInForce where
  /-- Until it is canceled. -/
  | untilCanceled (postOnly : Bool)
  /-- Until a time, in nanoseconds since the epoch. -/
  | untilTime (postOnly : Bool) (time : Int64)
  /-- Not at all. -/
  | immediate
deriving DecidableEq, Repr

instance : Inhabited TimeInForce := ⟨.untilCanceled false⟩

/-- The size of a market order, in either asset of the pair. -/
inductive MarketQuantity where
  | base (quantity : UInt64)
  | quote (quantity : UInt64)
deriving DecidableEq, Repr

/-- What an order asks for. -/
inductive OrderDetails where
  /-- A quantity at a price or better. -/
  | limit (price quantity : UInt64) (timeInForce : TimeInForce)
  /-- A quantity at the market's price. -/
  | market (quantity : MarketQuantity) (fillOrKill : Bool)
deriving DecidableEq, Repr

/-- The signed part of an order creation. -/
structure Order where
  signer : PublicKey
  orderId : String
  baseAsset : Asset
  priceDecimals : Int8
  quantityDecimals : Int8
  details : OrderDetails
  side : Side
  trigger : Option Trigger
  /-- When it was created, in nanoseconds since the epoch. -/
  createdAt : Int64
deriving DecidableEq

/-- Sixteen random bytes marked as a random identifier: version 4, variant 2. -/
def markRandom (random : FixedBytes 16) : List UInt8 :=
  random.toList.mapIdx fun i b =>
    if i = 6 then (b &&& 0x0f) ||| 0x40
    else if i = 8 then (b &&& 0x3f) ||| 0x80
    else b

/-- The order id of sixteen random bytes: marked, in base 64. -/
def orderIdOf (random : FixedBytes 16) : String := String.ofList (Base64.encode (markRandom random))

namespace Order

/-- An order on a market, without a trigger. -/
def onMarket (signer : PublicKey) (market : Market) (side : Side) (details : OrderDetails)
    (orderId : String) (createdAt : Int64) : Order :=
  ⟨signer, orderId, market.asset, market.priceDecimals, market.quantityDecimals, details, side, none,
    createdAt⟩

/-- The order with a trigger. -/
def withTrigger (o : Order) (t : Trigger) : Order := { o with trigger := some t }

end Order

/-! ## JSON -/

/-- The single field of a trigger. -/
def Trigger.priceCodec : Codec UInt64 := (Fields.required "price" id Codec.word).codec id

/-- A trigger in JSON. -/
def Trigger.codec : Codec Trigger where
  encode
    | .priceAbove price => .tagged "PriceAbove" (priceCodec.encode price)
    | .priceBelow price => .tagged "PriceBelow" (priceCodec.encode price)
  decode := Variant.decode
    [.fields "PriceAbove" priceCodec .priceAbove, .fields "PriceBelow" priceCodec .priceBelow]

/-- A side in JSON; the words of an order book are accepted too. -/
def Side.codec : Codec Side where
  encode
    | .buy => .string "Buy"
    | .sell => .string "Sell"
  decode := Variant.decode [.plain ["Buy", "Bid"] .buy, .plain ["Sell", "Ask"] .sell]

namespace TimeInForce

/-- The single field of an order that rests until it is canceled. -/
def postOnlyCodec : Codec Bool := (Fields.required "post_only" id Codec.bool).codec id

/-- The fields of an order that rests until a time. -/
def untilCodec : Codec (Bool × Int64) :=
  ((Fields.required "post_only" Prod.fst Codec.bool).and
    (Fields.required "good_until_timestamp_ns" Prod.snd Codec.int64)).codec id

/-- A time in force in JSON. -/
def codec : Codec TimeInForce where
  encode
    | .untilCanceled postOnly => .tagged "GTC" (postOnlyCodec.encode postOnly)
    | .untilTime postOnly time => .tagged "GTD" (untilCodec.encode (postOnly, time))
    | .immediate => .string "IOC"
  decode := Variant.decode [
    .fields "GTC" postOnlyCodec .untilCanceled,
    .fields "GTD" untilCodec fun (postOnly, time) => .untilTime postOnly time,
    .plain ["IOC"] .immediate]

end TimeInForce

/-- A market order's size in JSON. -/
def MarketQuantity.codec : Codec MarketQuantity where
  encode
    | .base quantity => .tagged "BaseAsset" (Codec.word.encode quantity)
    | .quote quantity => .tagged "QuoteAsset" (Codec.word.encode quantity)
  decode := Variant.decode
    [.holding "BaseAsset" Codec.word .base, .holding "QuoteAsset" Codec.word .quote]

namespace OrderDetails

/-- The fields of a limit order. -/
def limitCodec : Codec (UInt64 × UInt64 × TimeInForce) :=
  ((Fields.required "limit_price" (·.1) Codec.word).and
    ((Fields.required "quantity" (·.2.1) Codec.word).and
      (Fields.required "time_in_force" (·.2.2) TimeInForce.codec))).codec id

/-- The fields of a market order. -/
def marketCodec : Codec (MarketQuantity × Bool) :=
  ((Fields.required "quantity" Prod.fst MarketQuantity.codec).and
    (Fields.required "fill_or_kill" Prod.snd Codec.bool)).codec id

/-- What an order asks for, in JSON. -/
def codec : Codec OrderDetails where
  encode
    | .limit price quantity timeInForce =>
      .tagged "Limit" (limitCodec.encode (price, quantity, timeInForce))
    | .market quantity fillOrKill => .tagged "Market" (marketCodec.encode (quantity, fillOrKill))
  decode := Variant.decode [
    .fields "Limit" limitCodec fun (price, quantity, timeInForce) =>
      .limit price quantity timeInForce,
    .fields "Market" marketCodec fun (quantity, fillOrKill) => .market quantity fillOrKill]

end OrderDetails

/-- An order in JSON. -/
def Order.codec : Codec Order :=
  ((Fields.required "signer" signer PublicKey.codec).and <|
    (Fields.required "order_id" orderId Codec.string).and <|
    (Fields.required "base_asset" baseAsset Asset.codec).and <|
    (Fields.required "book_price_decimals" priceDecimals Codec.int8).and <|
    (Fields.required "book_quantity_decimals" quantityDecimals Codec.int8).and <|
    (Fields.required "details" details OrderDetails.codec).and <|
    (Fields.required "side" side Side.codec).and <|
    (Fields.optional "trigger" trigger Trigger.codec).and <|
    Fields.required "creation_timestamp_ns" createdAt Codec.int64).codec
    fun (signer, orderId, baseAsset, price, quantity, details, side, trigger, createdAt) =>
      ⟨signer, orderId, baseAsset, price, quantity, details, side, trigger, createdAt⟩

end OrderDesk
