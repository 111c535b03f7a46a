import OrderDesk.Proofs.Signing.Squeezed
import OrderDesk.Proofs.Wire.Types

/-!
# Proofs/Signing/Instruction — what is signed of an instruction

    instruction ──json──▸ value ──render──▸ text ──signedBytes──▸ message ──▸ signature
         │                  │
      squeezed           squeezed
         ▾                  ▾
    instruction ──json──▸ value

The signed part of a request is one of five kinds of instruction.  Its message is the compact text of
the squeezed instruction, in which the one text that anyone may choose — an order id, or the target of
a payout — has lost its spaces.  Messages are equal exactly for instructions that are equal when
squeezed (`message_eq_iff`): nothing else is lost, and no kind is taken for another.
-/

namespace OrderDesk

open Json (Codec Fields Value Document)

/-! ## Instructions -/

/-- The signed part of a request. -/
inductive Instruction where
  | order (order : Order)
  | cancel (cancel : Cancel)
  | replace (replace : Replace)
  | swap (swap : Swap)
  | payout (payout : Payout)
deriving DecidableEq

namespace Instruction

/-- The kinds of instruction. -/
inductive Kind where
  | order
  | cancel
  | replace
  | swap
  | payout
deriving DecidableEq

/-- The kind of an instruction. -/
def kind : Instruction → Kind
  | order _ => .order
  | cancel _ => .cancel
  | replace _ => .replace
  | swap _ => .swap
  | payout _ => .payout

/-- An instruction in JSON. -/
def json : Instruction → Value
  | order o => Order.codec.encode o
  | cancel c => Cancel.codec.encode c
  | replace r => Replace.codec.encode r
  | swap s => Swap.codec.encode s
  | payout p => Payout.codec.encode p

/-- The compact text of an instruction. -/
def text (i : Instruction) : String := i.json.render

/-- The bytes that a signer signs for an instruction. -/
def message (i : Instruction) : List UInt8 := Signer.signedBytes i.text

/-- The text in an instruction that anyone may choose: the order id, or the target of a payout. -/
def chosen? : Instruction → Option String
  | order o => some o.orderId
  | cancel c => some c.orderId
  | replace r => some r.orderId
  | swap _ => none
  | payout p => some p.target

/-- An instruction without the spaces of that text. -/
def squeezed : Instruction → Instruction
  | order o => order { o with orderId := squeeze o.orderId }
  | cancel c => cancel { c with orderId := squeeze c.orderId }
  | replace r => replace { r with orderId := squeeze r.orderId }
  | swap s => swap s
  | payout p => payout { p with target := squeeze p.target }

theorem kind_squeezed (i : Instruction) : i.squeezed.kind = i.kind := by
  cases i <;> rfl

/-! ## The text of an instruction -/

/-- What is written of an instruction comes through a text. -/
theorem json_fits (i : Instruction) : i.json.Fits 64 Document.maxDepth := by
  cases i with
  | order o => exact o.carries.fits
  | cancel c => exact c.carries.fits
  | replace r => exact r.carries.fits
  | swap s => exact s.carries.fits
  | payout p => exact p.carries.fits

/-- The names of the members of an object. -/
def memberNames : Value → List String
  | .object members => members.map Prod.fst
  | _ => []

/-- The names of the members that a kind of instruction is written with. -/
def Kind.names : Kind → List String
  | order => ["signer", "order_id", "base_asset", "book_price_decimals", "book_quantity_decimals",
      "details", "side", "trigger", "creation_timestamp_ns"]
  | cancel => ["order_id", "asset_id", "signer"]
  | replace => ["order_id", "timestamp_ns", "new_price_limit", "new_quantity", "new_trigger",
      "book_quantity_decimals", "book_price_decimals"]
  | swap => ["tplus_user", "asset_in", "amount_in", "asset_out", "amount_out", "chain_id"]
  | payout => ["tplus_user", "asset", "amount", "target", "chain_id"]

theorem memberNames_json (i : Instruction) : memberNames i.json = i.kind.names := by
  cases i <;> rfl

/-- **The kinds are told apart by the names of their members.** -/
theorem Kind.names_inj {k k' : Kind} (h : k.names = k'.names) : k = k' := by
  revert h
  cases k <;> cases k' <;> decide

/-- Instructions are told apart by what is written of them. -/
theorem json_inj {i j : Instruction} (h : i.json = j.json) : i = j := by
  have hkind : i.kind = j.kind := by
    refine Kind.names_inj ?_
    rw [← memberNames_json, h, memberNames_json]
  cases i with
  | order o =>
    cases j with
    | order o' => rw [Codec.Carries.encode_inj Order.carries h]
    | _ => cases hkind
  | cancel c =>
    cases j with
    | cancel c' => rw [Codec.Carries.encode_inj Cancel.carries h]
    | _ => cases hkind
  | replace r =>
    cases j with
    | replace r' => rw [Codec.Carries.encode_inj Replace.carries h]
    | _ => cases hkind
  | swap s =>
    cases j with
    | swap s' => rw [Codec.Carries.encode_inj Swap.carries h]
    | _ => cases hkind
  | payout p =>
    cases j with
    | payout p' => rw [Codec.Carries.encode_inj Payout.carries h]
    | _ => cases hkind

/-- **An instruction is told from its text.** -/
theorem text_inj {i j : Instruction} (h : i.text = j.text) : i = j := by
  have hi := i.json_fits
  have hj := j.json_fits
  exact json_inj (Value.render_inj hi.hasDouble hj.hasDouble hi.depth_le hj.depth_le h)

/-! ## Squeezing -/

theorem squeeze_digits {cs : List Char} (h : ∀ c ∈ cs, Hex.isDigit c = true) :
    squeeze (String.ofList cs) = String.ofList cs := by
  rw [squeeze_eq_self_iff, String.toList_ofList]
  intro hspace
  exact absurd (h ' ' hspace) (by decide)

theorem squeeze_key (k : PublicKey) : squeeze k.text = k.text :=
  squeeze_digits fun _ hc => Hex.isDigit_of_mem_encode hc

theorem squeeze_asset (a : Asset) : squeeze a.text = a.text := by
  rw [squeeze_eq_self_iff]
  intro hspace
  cases a with
  | index n =>
    rw [Asset.text, Numeral.decimal, String.toList_ofList] at hspace
    exact absurd (Numeral.isDigit_of_mem_toDigits hspace) (by decide)
  | address a =>
    rw [Asset.text, a.toList_text, List.mem_append, List.mem_cons, RoutedChain.text, Hex.text,
      String.toList_ofList] at hspace
    rcases hspace with hspace | hspace | hspace
    · exact absurd (Hex.isDigit_of_mem_encode hspace) (by decide)
    · exact absurd hspace (by decide)
    · exact absurd (Hex.isDigit_of_mem_encode hspace) (by decide)

theorem squeeze_bareText (a : Amount) : squeeze a.bareText = a.bareText :=
  squeeze_digits fun _ hc => Amount.isDigit_of_mem_toDigits hc

theorem squeeze_prefixedText (a : Amount) : squeeze a.prefixedText = a.prefixedText := by
  rw [squeeze_eq_self_iff, Amount.prefixedText, String.toList_append, Amount.toList_bareText]
  intro hspace
  rcases List.mem_append.mp hspace with hspace | hspace
  · exact absurd hspace (by decide)
  · exact absurd (Amount.isDigit_of_mem_toDigits hspace) (by decide)

theorem squeezed_details (d : OrderDetails) :
    (OrderDetails.codec.encode d).squeezed = OrderDetails.codec.encode d := by
  cases d with
  | limit price quantity timeInForce => cases timeInForce <;> rfl
  | market quantity fillOrKill => cases quantity <;> rfl

theorem squeezed_trigger (t : Trigger) :
    (Trigger.codec.encode t).squeezed = Trigger.codec.encode t := by
  cases t <;> rfl

theorem squeezed_side (s : Side) : (Side.codec.encode s).squeezed = Side.codec.encode s := by
  cases s <;> rfl

theorem squeezed_optional {α : Type} {c : Codec α} (h : ∀ a, (c.encode a).squeezed = c.encode a)
    (a : Option α) : (c.optional.encode a).squeezed = c.optional.encode a := by
  cases a with
  | none => rfl
  | some a => exact h a

/-- **Squeezing an instruction's value squeezes the text that anyone may choose,** and nothing
else. -/
theorem squeezed_json (i : Instruction) : i.json.squeezed = i.squeezed.json := by
  cases i with
  | order o =>
    change Value.object [("signer", .string (squeeze o.signer.text)),
      ("order_id", .string (squeeze o.orderId)),
      ("base_asset", .string (squeeze o.baseAsset.text)),
      ("book_price_decimals", .int o.priceDecimals.toInt),
      ("book_quantity_decimals", .int o.quantityDecimals.toInt),
      ("details", (OrderDetails.codec.encode o.details).squeezed),
      ("side", (Side.codec.encode o.side).squeezed),
      ("trigger", (Trigger.codec.optional.encode o.trigger).squeezed),
      ("creation_timestamp_ns", .int o.createdAt.toInt)] = _
    rw [squeeze_key, squeeze_asset, squeezed_details, squeezed_side,
      squeezed_optional squeezed_trigger]
    rfl
  | cancel c =>
    change Value.object [("order_id", .string (squeeze c.orderId)),
      ("asset_id", .string (squeeze c.asset.text)),
      ("signer", .string (squeeze c.signer.text))] = _
    rw [squeeze_asset, squeeze_key]
    rfl
  | replace r =>
    have word := squeezed_optional fun w : UInt64 =>
      (rfl : (Codec.word.encode w).squeezed = Codec.word.encode w)
    have int8 := squeezed_optional fun n : Int8 =>
      (rfl : (Codec.int8.encode n).squeezed = Codec.int8.encode n)
    change Value.object [("order_id", .string (squeeze r.orderId)),
      ("timestamp_ns", .int r.timestamp.toInt),
      ("new_price_limit", (Codec.word.optional.encode r.priceLimit).squeezed),
      ("new_quantity", (Codec.word.optional.encode r.quantity).squeezed),
      ("new_trigger", (Trigger.codec.optional.encode r.trigger).squeezed),
      ("book_quantity_decimals", (Codec.int8.optional.encode r.quantityDecimals).squeezed),
      ("book_price_decimals", (Codec.int8.optional.encode r.priceDecimals).squeezed)] = _
    rw [word, word, squeezed_optional squeezed_trigger, int8, int8]
    rfl
  | swap s =>
    change Value.object [("tplus_user", .string (squeeze s.user.text)),
      ("asset_in", .string (squeeze s.assetIn.text)),
      ("amount_in", .string (squeeze s.amountIn.prefixedText)),
      ("asset_out", .string (squeeze s.assetOut.text)),
      ("amount_out", .string (squeeze s.amountOut.prefixedText)),
      ("chain_id", .nat s.chain.value.toNat)] = _
    simp only [squeeze_key, squeeze_asset, squeeze_prefixedText]
    rfl
  | payout p =>
    change Value.object [("tplus_user", .string (squeeze p.user.text)),
      ("asset", .string (squeeze p.asset.text)),
      ("amount", .string (squeeze p.amount.bareText)),
      ("target", .string (squeeze p.target)),
      ("chain_id", .nat p.chain.value.toNat)] = _
    rw [squeeze_key, squeeze_asset, squeeze_bareText]
    rfl

/-! ## Messages -/

variable {i j : Instruction}

/-- **The message of an instruction is the compact text of the squeezed one.** -/
theorem message_eq (i : Instruction) : i.message = Bytes.ofString i.squeezed.text := by
  rw [message, text, Json.signedBytes_render i.json_fits.hasDouble, squeezed_json, text]

/-- **Messages are equal for instructions that are equal when squeezed, and for no others.** -/
theorem message_eq_iff : i.message = j.message ↔ i.squeezed = j.squeezed := by
  rw [message_eq, message_eq, Bytes.ofString_inj]
  exact ⟨text_inj, congrArg _⟩

theorem squeezed_eq_self_iff : i.squeezed = i ↔ ∀ s ∈ i.chosen?, ' ' ∉ s.toList := by
  have hchosen : ∀ t : String, (∀ s ∈ some t, ' ' ∉ s.toList) ↔ squeeze t = t := by
    intro t
    rw [squeeze_eq_self_iff]
    simp
  cases i with
  | order o =>
    rw [chosen?, hchosen]
    exact ⟨fun h => congrArg Order.orderId (order.inj h), fun h => by rw [squeezed, h]⟩
  | cancel c =>
    rw [chosen?, hchosen]
    exact ⟨fun h => congrArg Cancel.orderId (cancel.inj h), fun h => by rw [squeezed, h]⟩
  | replace r =>
    rw [chosen?, hchosen]
    exact ⟨fun h => congrArg Replace.orderId (replace.inj h), fun h => by rw [squeezed, h]⟩
  | swap s => simp [squeezed, chosen?]
  | payout p =>
    rw [chosen?, hchosen]
    exact ⟨fun h => congrArg Payout.target (payout.inj h), fun h => by rw [squeezed, h]⟩

/-- The message is the compact text itself if no space was chosen. -/
theorem message_eq_text_iff :
    i.message = Bytes.ofString i.text ↔ ∀ s ∈ i.chosen?, ' ' ∉ s.toList := by
  rw [message_eq, Bytes.ofString_inj, ← squeezed_eq_self_iff]
  exact ⟨text_inj, congrArg _⟩

end Instruction

end OrderDesk
