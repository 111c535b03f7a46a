import OrderDesk.Order.Basic
import OrderDesk.Signer

/-!
# Order/Request — signed instructions about orders

The signed part of an instruction travels next to its signature and the time at which it was sent.
Cancels and replaces go over the control channel; their responses are matched by the kind of
instruction and the order id (`ControlRequest.correlationKey`).
-/

namespace OrderDesk

open Json (Codec Fields Variant)

/-- An order creation. -/
structure CreateOrder where
  order : Order
  signature : List UInt8
  /-- When it was signed, in nanoseconds since the epoch. -/
  signedAt : Int64
deriving DecidableEq

/-- The signed part of a cancel. -/
structure Cancel where
  orderId : String
  asset : Asset
  signer : PublicKey
deriving DecidableEq

/-- A cancel. -/
structure CancelOrder where
  cancel : Cancel
  signature : List UInt8
  signedAt : Int64
deriving DecidableEq

/-- The signed part of a replace; what is absent keeps its value. -/
structure Replace where
  orderId : String
  timestamp : Int64
  priceLimit : Option UInt64
  quantity : Option UInt64
  trigger : Option Trigger
  quantityDecimals : Option Int8
  priceDecimals : Option Int8
deriving DecidableEq

/-- A replace. -/
structure ReplaceOrder where
  request : Replace
  signer : PublicKey
  asset : Asset
  signature : List UInt8
  signedAt : Int64
deriving DecidableEq

/-- What the control channel carries. -/
inductive ControlRequest where
  | cancel (request : CancelOrder)
  | replace (request : ReplaceOrder)
deriving DecidableEq

/-! ## JSON -/

/-- A signature in JSON, as a list of bytes. -/
def signatureCodec : Codec (List UInt8) := Codec.list Codec.byte

/-- An order creation in JSON. -/
def CreateOrder.codec : Codec CreateOrder :=
  ((Fields.required "order" order Order.codec).and <|
    (Fields.required "signature" signature signatureCodec).and <|
    Fields.required "post_sign_timestamp" signedAt Codec.int64).codec
    fun (order, signature, signedAt) => ⟨order, signature, signedAt⟩

/-- The signed part of a cancel in JSON. -/
def Cancel.codec : Codec Cancel :=
  ((Fields.required "order_id" orderId Codec.string).and <|
    (Fields.required "asset_id" asset Asset.codec).and <|
    Fields.required "signer" signer PublicKey.codec).codec
    fun (orderId, asset, signer) => ⟨orderId, asset, signer⟩

/-- A cancel in JSON. -/
def CancelOrder.codec : Codec CancelOrder :=
  ((Fields.required "cancel" cancel Cancel.codec).and <|
    (Fields.required "signature" signature signatureCodec).and <|
    Fields.required "post_sign_timestamp" signedAt Codec.int64).codec
    fun (cancel, signature, signedAt) => ⟨cancel, signature, signedAt⟩

/-- The signed part of a replace in JSON. -/
def Replace.codec : Codec Replace :=
  ((Fields.required "order_id" orderId Codec.string).and <|
    (Fields.required "timestamp_ns" timestamp Codec.int64).and <|
    (Fields.optional "new_price_limit" priceLimit Codec.word).and <|
    (Fields.optional "new_quantity" quantity Codec.word).and <|
    (Fields.optional "new_trigger" trigger Trigger.codec).and <|
    (Fields.optional "book_quantity_decimals" quantityDecimals Codec.int8).and <|
    Fields.optional "book_price_decimals" priceDecimals Codec.int8).codec
    fun (orderId, timestamp, priceLimit, quantity, trigger, quantityDecimals, priceDecimals) =>
      ⟨orderId, timestamp, priceLimit, quantity, trigger, quantityDecimals, priceDecimals⟩

/-- A replace in JSON. -/
def ReplaceOrder.codec : Codec ReplaceOrder :=
  ((Fields.required "request" request Replace.codec).and <|
    (Fields.required "signer" signer PublicKey.codec).and <|
    (Fields.required "asset_id" asset Asset.codec).and <|
    (Fields.required "signature" signature signatureCodec).and <|
    Fields.required "post_sign_timestamp" signedAt Codec.int64).codec
    fun (request, signer, asset, signature, signedAt) =>
      ⟨request, signer, asset, signature, signedAt⟩

/-- A control request in JSON. -/
def ControlRequest.codec : Codec ControlRequest where
  encode
    | .cancel request => .tagged "CancelOrderRequest" (CancelOrder.codec.encode request)
    | .replace request => .tagged "ReplaceOrderRequest" (ReplaceOrder.codec.encode request)
  decode := Variant.decode [
    .holding "CancelOrderRequest" CancelOrder.codec .cancel,
    .holding "ReplaceOrderRequest" ReplaceOrder.codec .replace]

/-! ## Building -/

/-- An order, signed. -/
def CreateOrder.sign (s : Signer) (order : Order) (now : Int64) : CreateOrder :=
  ⟨order, s.signJson Order.codec order, now⟩

/-- A cancel of an order, signed. -/
def CancelOrder.sign (s : Signer) (orderId : String) (asset : Asset) (now : Int64) : CancelOrder :=
  let cancel := ⟨orderId, asset, s.publicKey⟩
  ⟨cancel, s.signJson Cancel.codec cancel, now⟩

/-- A replace, signed. -/
def ReplaceOrder.sign (s : Signer) (request : Replace) (asset : Asset) (now : Int64) :
    ReplaceOrder :=
  ⟨request, s.publicKey, asset, s.signJson Replace.codec request, now⟩

namespace Replace

/-- A replace that changes nothing yet. -/
def ofOrder (orderId : String) (timestamp : Int64) : Replace :=
  ⟨orderId, timestamp, none, none, none, none, none⟩

/-- With a new price. -/
def withPrice (r : Replace) (price : UInt64) : Replace := { r with priceLimit := some price }

/-- With a new quantity. -/
def withQuantity (r : Replace) (quantity : UInt64) : Replace := { r with quantity := some quantity }

/-- With a new trigger. -/
def withTrigger (r : Replace) (trigger : Trigger) : Replace := { r with trigger := some trigger }

/-- With the decimals of the order's book. -/
def withBookDecimals (r : Replace) (price quantity : Int8) : Replace :=
  { r with priceDecimals := some price, quantityDecimals := some quantity }

end Replace

/-! ## Matching responses -/

/-- The key under which a request of a kind about an order waits for its response. -/
def correlationKey (kind orderId : String) : String := kind ++ ":" ++ orderId

namespace ControlRequest

/-- The order that the request is about. -/
def orderId : ControlRequest → String
  | .cancel request => request.cancel.orderId
  | .replace request => request.request.orderId

/-- The kind of the request. -/
def kind : ControlRequest → String
  | .cancel _ => "CancelOrder"
  | .replace _ => "ReplaceOrder"

/-- Whether the request is a cancel. -/
def isCancel : ControlRequest → Bool
  | .cancel _ => true
  | .replace _ => false

/-- The key under which the request waits for its response. -/
def correlationKey (r : ControlRequest) : String := OrderDesk.correlationKey r.kind r.orderId

end ControlRequest

end OrderDesk
