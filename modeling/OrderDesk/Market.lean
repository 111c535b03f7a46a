import OrderDesk.Identifier.Asset

/-!
# Market — the definition of an order book

Prices and quantities of orders are integers in units of the book's decimals.
-/

namespace OrderDesk

/-- An order book. -/
structure Market where
  /-- What is traded. -/
  asset : Asset
  /-- The decimals of a price. -/
  priceDecimals : Int8
  /-- The decimals of a quantity. -/
  quantityDecimals : Int8
deriving DecidableEq

/-- A market in JSON. -/
def Market.codec : Json.Codec Market :=
  ((Json.Fields.required "asset_id" asset Asset.codec).and
    ((Json.Fields.required "book_price_decimals" priceDecimals Json.Codec.int8).and
      (Json.Fields.required "book_quantity_decimals" quantityDecimals Json.Codec.int8))).codec
    fun (asset, price, quantity) => ⟨asset, price, quantity⟩

end OrderDesk
