import OrderDesk.Identifier.Asset
import OrderDesk.Identifier.PublicKey

/-!
# Client/Route — the paths of the service

Paths that name an asset hold its canonical text, paths that name a user hold the public key in
hexadecimal.
-/

namespace OrderDesk

/-- What a path of the service is about. -/
inductive Route where
  | nonce (user : PublicKey)
  | exchange
  | market (asset : Asset)
  | depth (asset : Asset)
  | depthChanges (asset : Asset)
  | inventory (user : PublicKey)
  | userOrders (user : PublicKey)
  | userTrades (user : PublicKey)
  | settlementSignatures (user : PublicKey)
  | withdrawalSignatures (user : PublicKey)
  | approvals (user : PublicKey)
  | startSettlement
  | startWithdrawal
  | updateWithdrawals
  | updateVault
  | createOrder
  | cancelOrder
  | replaceOrder
  | orders
  | trades
  | control

/-- **The path.** -/
def Route.path : Route → String
  | nonce user => "/nonce/" ++ user.text
  | exchange => "/auth"
  | market asset => "/market/" ++ asset.text
  | depth asset => "/marketdepth/" ++ asset.text
  | depthChanges asset => "/marketdepth/diff/" ++ asset.text
  | inventory user => "/inventory/user/" ++ user.text
  | userOrders user => "/orders/user/" ++ user.text
  | userTrades user => "/trades/user/" ++ user.text
  | settlementSignatures user => "/settlement/signatures/" ++ user.text
  | withdrawalSignatures user => "/withdrawal/signatures/" ++ user.text
  | approvals user => "/settlement/approvals/" ++ user.text
  | startSettlement => "/settlement/init"
  | startWithdrawal => "/withdrawal/init"
  | updateWithdrawals => "/withdrawal/update"
  | updateVault => "/vault/balance/update"
  | createOrder => "/orders/create"
  | cancelOrder => "/orders/cancel"
  | replaceOrder => "/orders/replace"
  | orders => "/orders"
  | trades => "/trades"
  | control => "/control"

end OrderDesk
