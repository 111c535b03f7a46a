import OrderDesk.Clearing.Request
import OrderDesk.Client.Basic
import OrderDesk.Order.Request

/-!
# Client/Orders — orders, settlements and withdrawals

Every instruction is signed before it is sent.  An order is placed in units of its book, so the book
is looked up first.
-/

namespace OrderDesk.Client

open Json (Value)

variable {σ κ : Type}

/-! ## Orders -/

/-- The order book of an asset. -/
def market (c : Client) (t : Transport σ κ) (asset : Asset) (l : Link σ) :
    Except Error Market × Link σ :=
  let (r, l) := c.get t (.market asset) l
  (r.bind (Http.Response.valueAs Market.codec), l)

/-- **Submitting an order,** signed at a time. -/
def submit (c : Client) (t : Transport σ κ) (order : Order) (now : Int64) :
    Link σ → Except Error Value × Link σ :=
  c.post t .createOrder (CreateOrder.codec.encode (.sign c.signer order now))

/-- Placing an order on the book of an asset. -/
def place (c : Client) (t : Transport σ κ) (asset : Asset) (side : Side) (details : OrderDetails)
    (orderId : String) (now : Int64) (l : Link σ) : Except Error Value × Link σ :=
  match c.market t asset l with
  | (.error e, l) => (.error e, l)
  | (.ok book, l) =>
    c.submit t (.onMarket c.signer.publicKey book side details orderId now) now l

/-- Cancelling an order. -/
def cancel (c : Client) (t : Transport σ κ) (orderId : String) (asset : Asset) (now : Int64) :
    Link σ → Except Error Value × Link σ :=
  c.request t "DELETE" Route.cancelOrder.path
    (some (CancelOrder.codec.encode (.sign c.signer orderId asset now)))

/-- Replacing an order. -/
def replace (c : Client) (t : Transport σ κ) (request : Replace) (asset : Asset) (now : Int64) :
    Link σ → Except Error Value × Link σ :=
  c.request t "PATCH" Route.replaceOrder.path
    (some (ReplaceOrder.codec.encode (.sign c.signer request asset now)))

/-! ## Clearing -/

/-- Asking for the approval of a settlement. -/
def settle (c : Client) (t : Transport σ κ) (swap : Swap) : Link σ → Except Error Value × Link σ :=
  c.post t .startSettlement (Settlement.codec.encode (.sign c.signer swap))

/-- Starting a withdrawal. -/
def withdraw (c : Client) (t : Transport σ κ) (payout : Payout) :
    Link σ → Except Error Value × Link σ :=
  c.post t .startWithdrawal (Withdrawal.codec.encode (.sign c.signer payout))

/-- Asking the service to pick up completed withdrawals on a chain. -/
def updateWithdrawals (c : Client) (t : Transport σ κ) (chain : ChainId) :
    Link σ → Except Error Value × Link σ :=
  c.post t .updateWithdrawals <| .object [
    ("chain", ChainId.codec.encode chain),
    ("user", PublicKey.codec.encode c.signer.publicKey)]

/-- Asking the service to look into a vault on a chain again. -/
def updateVault (c : Client) (t : Transport σ κ) (asset : Asset) (chain : ChainId) :
    Link σ → Except Error Value × Link σ :=
  c.post t .updateVault <| .object [
    ("asset_id", Asset.codec.encode asset),
    ("chain_id", ChainId.codec.encode chain)]

end OrderDesk.Client
