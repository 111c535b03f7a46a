import OrderDesk.Amount.Rescale
import OrderDesk.Proofs.Json.Carries
import OrderDesk.Proofs.Wire.Texts

/-!
# Proofs/Wire/Types — every wire type is carried by its codec

One theorem a type, `carries`: whatever the fields of a value are, its codec carries it.  The room that
a type takes is the number of arrays and objects that stand inside each other in what is written.
-/

namespace OrderDesk

open Json (Codec Fields Spells Value)

variable {room : Nat}

/-! ## Identifiers -/

theorem PublicKey.carries (k : PublicKey) : codec.Carries 64 room k := by
  refine .ofString rfl fun o => ?_
  change ChainId.reported (parse k.text) = _
  rw [parse_text]
  rfl

theorem ChainId.carries (c : ChainId) : codec.Carries 64 room c where
  fits := by
    refine Value.Fits.number_iff.mpr ⟨?_, ?_⟩
    · exact Int.le_trans (by decide) (Int.natCast_nonneg _)
    · exact Int.ofNat_lt.mpr c.value.toNat_lt
  keeps := by
    rintro o d ⟨⟩
    have hnonneg : 0 ≤ (c.value.toNat : Int) := Int.natCast_nonneg _
    have hbounds : -(Int.pow 2 63) ≤ (c.value.toNat : Int) ∧ (c.value.toNat : Int) < Int.pow 2 64 :=
      ⟨Int.le_trans (by decide) hnonneg, Int.ofNat_lt.mpr c.value.toNat_lt⟩
    simp only [codec, if_pos hbounds, ofInt, if_pos hnonneg, Int.toNat_natCast, UInt64.ofNat_toNat]

theorem ChainAddress.carries (a : ChainAddress) : codec.Carries 64 room a := by
  refine .ofString rfl fun o => ?_
  change ChainId.reported (parse a.text) = _
  rw [parse_text]
  rfl

theorem Asset.carries (a : Asset) : codec.Carries 64 room a := by
  refine .ofString rfl fun o => ?_
  change ChainId.reported (parse a.text) = _
  rw [parse_text]
  rfl

/-! ## Amounts -/

namespace Amount

theorem prefixed_carries (a : Amount) : prefixedCodec.Carries 64 room a :=
  .ofString rfl fun _ => a.parse_prefixedText

theorem bare_carries (a : Amount) : bareCodec.Carries 64 room a :=
  .ofString rfl fun _ => a.parse_bareText

/-- An amount as an integer needs its own width. -/
theorem integer_carries {a : Amount} {bits : Nat} (h : a.val < Nat.pow 2 bits) :
    integerCodec.Carries bits room a where
  fits := by
    refine Value.Fits.number_iff.mpr ⟨?_, ?_⟩
    · exact Int.le_trans (by decide) (Int.natCast_nonneg _)
    · exact Int.ofNat_lt.mpr h
  keeps := by
    rintro o d ⟨⟩
    have hnonneg : 0 ≤ (a.val : Int) := Int.natCast_nonneg _
    simp only [integerCodec, if_pos hnonneg, Int.toNat_natCast, ofNat?, dif_pos a.lt]

end Amount

theorem AmountPair.carries {p : AmountPair} {bits : Nat} (hn : p.normalized.val < Nat.pow 2 bits)
    (ha : p.atomic.val < Nat.pow 2 bits) : codec.Carries bits (room + 1) p :=
  Fields.Carries.codec
    (.and (.required (Amount.integer_carries hn)) (.required (Amount.integer_carries ha)))
    rfl (by simp [Fields.names])

theorem Rounding.carries (r : Rounding) : codec.Carries 64 room r := by
  cases r with
  | down => exact .alone rfl rfl rfl rfl
  | up => exact .alone rfl rfl rfl rfl

/-! ## Markets and orders -/

theorem Market.carries (m : Market) : codec.Carries 64 (room + 1) m :=
  Fields.Carries.codec
    (.and (.required m.asset.carries) <|
      .and (.required (.int8 m.priceDecimals)) <|
      .required (.int8 m.quantityDecimals))
    rfl (by simp [Fields.names])

theorem Trigger.price_carries (price : UInt64) : priceCodec.Carries 64 (room + 1) price :=
  Fields.Carries.codec (.required (.word price)) rfl (by simp [Fields.names])

theorem Trigger.carries (t : Trigger) : codec.Carries 64 (room + 2) t := by
  cases t with
  | priceAbove price => exact .fields (price_carries price) rfl rfl ⟨_, rfl⟩ rfl rfl
  | priceBelow price => exact .fields (price_carries price) rfl rfl ⟨_, rfl⟩ rfl rfl

theorem Side.carries (s : Side) : codec.Carries 64 room s := by
  cases s with
  | buy => exact .alone rfl rfl rfl rfl
  | sell => exact .alone rfl rfl rfl rfl

namespace TimeInForce

theorem postOnly_carries (postOnly : Bool) : postOnlyCodec.Carries 64 (room + 1) postOnly :=
  Fields.Carries.codec (.required (.bool postOnly)) rfl (by simp [Fields.names])

theorem until_carries (postOnly : Bool) (time : Int64) :
    untilCodec.Carries 64 (room + 1) (postOnly, time) :=
  Fields.Carries.codec (.and (.required (.bool postOnly)) (.required (.int64 time))) rfl
    (by simp [Fields.names])

theorem carries (t : TimeInForce) : codec.Carries 64 (room + 2) t := by
  cases t with
  | untilCanceled postOnly => exact .fields (postOnly_carries postOnly) rfl rfl ⟨_, rfl⟩ rfl rfl
  | untilTime postOnly time => exact .fields (until_carries postOnly time) rfl rfl ⟨_, rfl⟩ rfl rfl
  | immediate => exact .alone rfl rfl rfl rfl

end TimeInForce

theorem MarketQuantity.carries (q : MarketQuantity) : codec.Carries 64 (room + 1) q := by
  cases q with
  | base quantity => exact .holding (.word quantity) rfl rfl rfl rfl
  | quote quantity => exact .holding (.word quantity) rfl rfl rfl rfl

namespace OrderDetails

theorem limit_carries (price quantity : UInt64) (timeInForce : TimeInForce) :
    limitCodec.Carries 64 (room + 3) (price, quantity, timeInForce) :=
  Fields.Carries.codec
    (.and (.required (.word price)) <|
      .and (.required (.word quantity)) <|
      .required timeInForce.carries)
    rfl (by simp [Fields.names])

theorem market_carries (quantity : MarketQuantity) (fillOrKill : Bool) :
    marketCodec.Carries 64 (room + 2) (quantity, fillOrKill) :=
  Fields.Carries.codec (.and (.required quantity.carries) (.required (.bool fillOrKill))) rfl
    (by simp [Fields.names])

theorem carries (d : OrderDetails) : codec.Carries 64 (room + 4) d := by
  cases d with
  | limit price quantity timeInForce =>
    exact .fields (limit_carries price quantity timeInForce) rfl rfl ⟨_, rfl⟩ rfl rfl
  | market quantity fillOrKill =>
    exact .fields (market_carries quantity fillOrKill) rfl rfl ⟨_, rfl⟩ rfl rfl

end OrderDetails

/-- A value that may be missing, of a type that is not written as `null`. -/
theorem optional_carries {α : Type} {c : Codec α} {bits : Nat} (h : ∀ a, c.Carries bits room a)
    (hnull : ∀ a, c.encode a ≠ .null) (a : Option α) : c.optional.Carries bits room a := by
  cases a with
  | none => exact .optional_none
  | some a => exact .optional_some (h a) (hnull a)

theorem Trigger.encode_ne_null (t : Trigger) : codec.encode t ≠ .null := by
  intro h
  cases t <;> cases h

theorem Order.carries (o : Order) : codec.Carries 64 (room + 5) o :=
  Fields.Carries.codec
    (.and (.required o.signer.carries) <|
      .and (.required (.string o.orderId)) <|
      .and (.required o.baseAsset.carries) <|
      .and (.required (.int8 o.priceDecimals)) <|
      .and (.required (.int8 o.quantityDecimals)) <|
      .and (.required o.details.carries) <|
      .and (.required o.side.carries) <|
      .and (.optional (optional_carries Trigger.carries Trigger.encode_ne_null o.trigger)) <|
      .required (.int64 o.createdAt))
    rfl (by simp [Fields.names])

/-! ## Instructions about orders -/

theorem signature_carries (signature : List UInt8) :
    signatureCodec.Carries 64 (room + 1) signature :=
  .list fun b _ => .byte b

theorem CreateOrder.carries (c : CreateOrder) : codec.Carries 64 (room + 6) c :=
  Fields.Carries.codec
    (.and (.required c.order.carries) <|
      .and (.required (signature_carries c.signature)) <|
      .required (.int64 c.signedAt))
    rfl (by simp [Fields.names])

theorem Cancel.carries (c : Cancel) : codec.Carries 64 (room + 1) c :=
  Fields.Carries.codec
    (.and (.required (.string c.orderId)) <|
      .and (.required c.asset.carries) <|
      .required c.signer.carries)
    rfl (by simp [Fields.names])

theorem CancelOrder.carries (c : CancelOrder) : codec.Carries 64 (room + 2) c :=
  Fields.Carries.codec
    (.and (.required c.cancel.carries) <|
      .and (.required (signature_carries c.signature)) <|
      .required (.int64 c.signedAt))
    rfl (by simp [Fields.names])

theorem Replace.carries (r : Replace) : codec.Carries 64 (room + 3) r :=
  have word (w : Option UInt64) : Codec.word.optional.Carries 64 (room + 2) w :=
    optional_carries .word (fun _ h => by cases h) w
  have int8 (n : Option Int8) : Codec.int8.optional.Carries 64 (room + 2) n :=
    optional_carries .int8 (fun _ h => by cases h) n
  have trigger := optional_carries Trigger.carries Trigger.encode_ne_null r.trigger
  Fields.Carries.codec
    (.and (.required (.string r.orderId)) <|
      .and (.required (.int64 r.timestamp)) <|
      .and (.optional (word r.priceLimit)) <|
      .and (.optional (word r.quantity)) <|
      .and (.optional trigger) <|
      .and (.optional (int8 r.quantityDecimals)) <|
      .optional (int8 r.priceDecimals))
    rfl (by simp [Fields.names])

theorem ReplaceOrder.carries (r : ReplaceOrder) : codec.Carries 64 (room + 4) r :=
  Fields.Carries.codec
    (.and (.required r.request.carries) <|
      .and (.required r.signer.carries) <|
      .and (.required r.asset.carries) <|
      .and (.required (signature_carries r.signature)) <|
      .required (.int64 r.signedAt))
    rfl (by simp [Fields.names])

theorem ControlRequest.carries (r : ControlRequest) : codec.Carries 64 (room + 5) r := by
  cases r with
  | cancel request => exact .holding request.carries rfl rfl rfl rfl
  | replace request => exact .holding request.carries rfl rfl rfl rfl

/-! ## Clearing -/

theorem Swap.carries (s : Swap) : codec.Carries 64 (room + 1) s :=
  Fields.Carries.codec
    (.and (.required s.user.carries) <|
      .and (.required s.assetIn.carries) <|
      .and (.required s.amountIn.prefixed_carries) <|
      .and (.required s.assetOut.carries) <|
      .and (.required s.amountOut.prefixed_carries) <|
      .required s.chain.carries)
    rfl (by simp [Fields.names])

theorem Settlement.carries (s : Settlement) : codec.Carries 64 (room + 2) s :=
  Fields.Carries.codec
    (.and (.required s.inner.carries) (.required (signature_carries s.signature)))
    rfl (by simp [Fields.names])

theorem Payout.carries (p : Payout) : codec.Carries 64 (room + 1) p :=
  Fields.Carries.codec
    (.and (.required p.user.carries) <|
      .and (.required p.asset.carries) <|
      .and (.required p.amount.bare_carries) <|
      .and (.required (.string p.target)) <|
      .required p.chain.carries)
    rfl (by simp [Fields.names])

theorem Withdrawal.carries (w : Withdrawal) : codec.Carries 64 (room + 2) w :=
  Fields.Carries.codec
    (.and (.required w.inner.carries) (.required (signature_carries w.signature)))
    rfl (by simp [Fields.names])

/-! ## Approvals -/

/-- A list of bytes is not taken for hexadecimal text. -/
theorem looseSignature_carries (signature : List UInt8) :
    looseSignatureCodec.Carries 64 (room + 1) signature where
  fits := (signature_carries signature).fits
  keeps := by
    intro o d hd
    have hcarries : signatureCodec.Carries 64 (room + 1) signature := signature_carries signature
    have hlist := hcarries.keeps o d hd
    cases hd with
    | array items => exact hlist

theorem hex_carries (bytes : List UInt8) : hexCodec.Carries 64 room bytes :=
  .ofString rfl fun _ => readHexText_marked bytes

theorem ApprovalInner.carries (a : ApprovalInner) : codec.Carries 64 (room + 2) a :=
  Fields.Carries.codec
    (.and (.required (.word a.nonce)) (.required (looseSignature_carries a.signature)))
    rfl (by simp [Fields.names])

theorem Approval.carries (a : Approval) : codec.Carries 64 (room + 3) a :=
  Fields.Carries.codec
    (.and (.required a.inner.carries) (.required (.word a.expiry)))
    rfl (by simp [Fields.names])

/-- A sealed approval is carried with its reference. -/
theorem ApprovalMessage.carries {m : ApprovalMessage} (hfree : m.reference.IsFree)
    (hfits : m.reference.Fits 64 (room + 1)) : codec.Carries 64 (room + 2) m :=
  Fields.Carries.codec
    (.and (.required (.free hfree hfits)) <|
      .and (.required (looseSignature_carries m.signature)) <|
      .required (hex_carries m.sealedBytes))
    rfl (by simp [Fields.names])

end OrderDesk
