import OrderDesk.Http.Message
import OrderDesk.Proofs.Wire.Types

/-!
# Proofs/Wire/RoundTrip — wire values are read back, from their text and from its free value

    x ──write──▸ text ──read──▸ x
                  └──parse?──▸ free value ──ofValue──▸ x

Requests, settlements, withdrawals, markets and approvals are read back from their texts, so that a
text that was read once and written again does not change any more.  A response is read the other way,
through a free value; every wire type comes through, but for two bounds.  A free value holds integers
of 64 bits, and no reader goes deeper than 127 arrays and objects.
-/

namespace OrderDesk

open Json (Codec Fields Value Document)

/-! ## The way through the text -/

/-- **A round trip:** every value is read back from its text, and what is read from a text, however
it is spelled, is written as a text from which the same value is read, with the same text again. -/
structure Json.Codec.RoundTrips {α : Type} (c : Codec α) : Prop where
  /-- Every value is read back. -/
  read_write : ∀ a, c.read (c.write a) = .ok a
  /-- What was read is written as a text that settles. -/
  settles : ∀ text a, c.read text = .ok a →
    (c.read (c.write a)).map (fun b => (b, c.write b)) = .ok (a, c.write a)

/-- A codec that carries all values is a round trip. -/
theorem Json.Codec.RoundTrips.of_carries {α : Type} {c : Codec α} {bits : Nat}
    (h : ∀ a, c.Carries bits Document.maxDepth a) : c.RoundTrips where
  read_write a := (h a).read_write Nat.le.refl
  settles := by
    intro _ a _
    rw [(h a).read_write Nat.le.refl]
    rfl

/-- **Requests, settlements, withdrawals, markets and approvals are round trips.** -/
theorem roundTrips :
    CreateOrder.codec.RoundTrips ∧ ControlRequest.codec.RoundTrips ∧ Settlement.codec.RoundTrips
      ∧ Withdrawal.codec.RoundTrips ∧ Market.codec.RoundTrips ∧ Approval.codec.RoundTrips := by
  refine ⟨?create, ?control, ?settlement, ?withdrawal, ?market, ?approval⟩
  case create => exact .of_carries CreateOrder.carries
  case control => exact .of_carries ControlRequest.carries
  case settlement => exact .of_carries Settlement.carries
  case withdrawal => exact .of_carries Withdrawal.carries
  case market => exact .of_carries Market.carries
  case approval => exact .of_carries Approval.carries

/-! ## The way through a free value -/

/-- The types that go over the wire. -/
inductive WireType where
  | chainId
  | publicKey
  | asset
  | chainAddress
  | prefixedAmount
  | bareAmount
  | amountPair
  | rounding
  | market
  | side
  | timeInForce
  | marketQuantity
  | trigger
  | orderDetails
  | order
  | createOrder
  | cancel
  | cancelOrder
  | replace
  | replaceOrder
  | controlRequest
  | swap
  | settlement
  | payout
  | withdrawal
  | approvalMessage
  | approvalInner
  | approval
deriving DecidableEq

namespace WireType

/-- The values of a wire type. -/
def Carrier : WireType → Type
  | chainId => ChainId
  | publicKey => PublicKey
  | asset => Asset
  | chainAddress => ChainAddress
  | prefixedAmount => Amount
  | bareAmount => Amount
  | amountPair => AmountPair
  | rounding => Rounding
  | market => Market
  | side => Side
  | timeInForce => TimeInForce
  | marketQuantity => MarketQuantity
  | trigger => Trigger
  | orderDetails => OrderDetails
  | order => Order
  | createOrder => CreateOrder
  | cancel => Cancel
  | cancelOrder => CancelOrder
  | replace => Replace
  | replaceOrder => ReplaceOrder
  | controlRequest => ControlRequest
  | swap => Swap
  | settlement => Settlement
  | payout => Payout
  | withdrawal => Withdrawal
  | approvalMessage => ApprovalMessage
  | approvalInner => ApprovalInner
  | approval => Approval

/-- How a wire type is written and read. -/
def codec : (t : WireType) → Codec t.Carrier
  | chainId => ChainId.codec
  | publicKey => PublicKey.codec
  | asset => Asset.codec
  | chainAddress => ChainAddress.codec
  | prefixedAmount => Amount.prefixedCodec
  | bareAmount => Amount.bareCodec
  | amountPair => AmountPair.codec
  | rounding => Rounding.codec
  | market => Market.codec
  | side => Side.codec
  | timeInForce => TimeInForce.codec
  | marketQuantity => MarketQuantity.codec
  | trigger => Trigger.codec
  | orderDetails => OrderDetails.codec
  | order => Order.codec
  | createOrder => CreateOrder.codec
  | cancel => Cancel.codec
  | cancelOrder => CancelOrder.codec
  | replace => Replace.codec
  | replaceOrder => ReplaceOrder.codec
  | controlRequest => ControlRequest.codec
  | swap => Swap.codec
  | settlement => Settlement.codec
  | payout => Payout.codec
  | withdrawal => Withdrawal.codec
  | approvalMessage => ApprovalMessage.codec
  | approvalInner => ApprovalInner.codec
  | approval => Approval.codec

/-- Whether the free fields of a value hold free values without doubles.  Only a sealed approval has
one: its reference. -/
def FreeOfDoubles : (t : WireType) → t.Carrier → Prop
  | approvalMessage, m => m.reference.IsFree ∧ m.reference.hasDouble = false
  | _, _ => True

/-- Whether the free fields of a value leave room for the object that holds them. -/
def Shallow : (t : WireType) → t.Carrier → Prop
  | approvalMessage, m => m.reference.depth < Document.maxDepth
  | _, _ => True

/-- Whether the amounts that are written as integers have at most 64 bits. -/
def Narrow : (t : WireType) → t.Carrier → Prop
  | amountPair, p => p.normalized.val < Nat.pow 2 64 ∧ p.atomic.val < Nat.pow 2 64
  | _, _ => True

variable {t : WireType} {x : t.Carrier}

/-- A value that leaves room is carried; within 64 bits, if its amounts are. -/
theorem carries_narrow (hfree : t.FreeOfDoubles x) (hshallow : t.Shallow x) (hnarrow : t.Narrow x) :
    t.codec.Carries 64 Document.maxDepth x := by
  cases t with
  | chainId => exact ChainId.carries x
  | publicKey => exact PublicKey.carries x
  | asset => exact Asset.carries x
  | chainAddress => exact ChainAddress.carries x
  | prefixedAmount => exact Amount.prefixed_carries x
  | bareAmount => exact Amount.bare_carries x
  | amountPair => exact AmountPair.carries hnarrow.1 hnarrow.2
  | rounding => exact Rounding.carries x
  | market => exact Market.carries x
  | side => exact Side.carries x
  | timeInForce => exact TimeInForce.carries x
  | marketQuantity => exact MarketQuantity.carries x
  | trigger => exact Trigger.carries x
  | orderDetails => exact OrderDetails.carries x
  | order => exact Order.carries x
  | createOrder => exact CreateOrder.carries x
  | cancel => exact Cancel.carries x
  | cancelOrder => exact CancelOrder.carries x
  | replace => exact Replace.carries x
  | replaceOrder => exact ReplaceOrder.carries x
  | controlRequest => exact ControlRequest.carries x
  | swap => exact Swap.carries x
  | settlement => exact Settlement.carries x
  | payout => exact Payout.carries x
  | withdrawal => exact Withdrawal.carries x
  | approvalMessage =>
    have hfits := Value.Fits.of_isFree hfree.1 hfree.2 (Nat.le_of_lt_succ hshallow)
    exact ApprovalMessage.carries hfree.1 hfits
  | approvalInner => exact ApprovalInner.carries x
  | approval => exact Approval.carries x

theorem carries (hfree : t.FreeOfDoubles x) (hshallow : t.Shallow x) :
    t.codec.Carries 128 Document.maxDepth x := by
  by_cases hnarrow : t.Narrow x
  · exact (carries_narrow hfree hshallow hnarrow).mono (by decide) Nat.le.refl
  · -- only amounts that are written as integers can have more than 64 bits
    cases t with
    | amountPair => exact AmountPair.carries x.normalized.lt x.atomic.lt
    | _ => exact absurd trivial hnarrow

end WireType

theorem Blank.isBlank_of_isDigit {c : Char} (h : Numeral.isDigit c = true) :
    isBlank c = false := by
  have hspace : c ≠ ' ' := Numeral.ne_of_isDigit h rfl
  simp only [Numeral.isDigit, Bool.and_eq_true, decide_eq_true_eq] at h
  have hothers : c.toNat ∉ others := by
    intro hmem
    have hlarge : ∀ n ∈ others, 57 < n := by decide
    have := hlarge _ hmem
    omega
  have hcontrol : 9 ≤ c.toNat → 13 < c.toNat := by omega
  simpa [isBlank, hspace, hothers] using hcontrol

/-- What is written is not blank. -/
theorem Json.Value.isBlankText_render {v : Value} (h : v.hasDouble = false) :
    Blank.isBlankText v.render = false := by
  have hexists : ∃ c ∈ v.chars, Blank.isBlank c = false := by
    cases v with
    | null => exact ⟨'n', by simp [chars], by decide⟩
    | bool b => cases b <;> exact ⟨'e', by simp [chars], by decide⟩
    | number n =>
      cases n with
      | int z =>
        obtain ⟨c, hc⟩ := List.exists_mem_of_ne_nil _ (Nat.toDigits_ne_nil (n := z.natAbs) (b := 10))
        have hdigit := Numeral.isDigit_of_mem_toDigits hc
        refine ⟨c, ?_, Blank.isBlank_of_isDigit hdigit⟩
        rw [chars, Number.text, intText]
        exact List.mem_append_right _ hc
      | float x => simp [hasDouble] at h
    | string s => exact ⟨quote, by simp [chars, quoted], by decide⟩
    | array items => cases items <;> exact ⟨']', by simp [chars], by decide⟩
    | object members => cases members <;> exact ⟨closeBrace, by simp [chars], by decide⟩
  obtain ⟨c, hc, hblank⟩ := hexists
  rw [Blank.isBlankText, render, String.toList_ofList, List.all_eq_false]
  exact ⟨c, hc, by simp [hblank]⟩

namespace WireType

/-- **Both readings give the value back:** the text is read as the value, and so is the free value of
the text, which is what a client takes from a response.  Amounts that are written as integers come
through a free value if they have at most 64 bits. -/
theorem readings_agree (t : WireType) (x : t.Carrier) (hfree : t.FreeOfDoubles x)
    (hshallow : t.Shallow x) :
    t.codec.read (t.codec.write x) = .ok x
      ∧ (t.Narrow x →
          (∃ w, Value.parse? (t.codec.write x) = some w ∧ t.codec.ofValue w = .ok x)
          ∧ ∀ status, Http.isSuccess status = true → status ≠ 204 →
            Http.Response.decode t.codec ⟨status, t.codec.write x⟩ = .ok x) := by
  refine ⟨(carries hfree hshallow).read_write Nat.le.refl, fun hnarrow => ?_⟩
  have hcarries := carries_narrow hfree hshallow hnarrow
  obtain ⟨w, hparse, hread⟩ := hcarries.ofValue_write Nat.le.refl
  refine ⟨⟨w, hparse, hread⟩, fun status hsuccess hcontent => ?_⟩
  have hblank : Blank.isBlankText (t.codec.write x) = false :=
    Value.isBlankText_render hcarries.fits.hasDouble
  have hvalue : Http.Response.value ⟨status, t.codec.write x⟩ = .ok w := by
    simp [Http.Response.value, hsuccess, hcontent, hblank, hparse]
  rw [Http.Response.decode, hvalue]
  change (t.codec.ofValue w).mapError _ = _
  rw [hread]
  rfl

/-- A sealed approval about order seven. -/
def orderApproval : ApprovalMessage := ⟨.object [("order", .nat 7)], [1, 2], [3]⟩

/-- An approval about an order comes through. -/
theorem readings_agree_orderApproval :
    approvalMessage.FreeOfDoubles orderApproval ∧ approvalMessage.Shallow orderApproval
      ∧ approvalMessage.Narrow orderApproval
      ∧ approvalMessage.codec.read (approvalMessage.codec.write orderApproval) = .ok orderApproval
      ∧ Http.Response.decode approvalMessage.codec
          ⟨200, approvalMessage.codec.write orderApproval⟩ = .ok orderApproval := by
  have hnumber : (Json.Number.int 7).IsFree := by
    constructor <;> decide
  have hfree : approvalMessage.FreeOfDoubles orderApproval :=
    ⟨⟨List.pairwise_singleton _ _, hnumber, trivial⟩, rfl⟩
  have hshallow : approvalMessage.Shallow orderApproval := by
    change 1 < Document.maxDepth
    decide
  obtain ⟨hread, hvalue⟩ := readings_agree approvalMessage orderApproval hfree hshallow
  obtain ⟨-, hresponse⟩ := hvalue trivial
  exact ⟨hfree, hshallow, trivial, hread, hresponse 200 rfl (by decide)⟩

end WireType

/-! ## The two bounds -/

/-- **A reference that leaves no room is not read,** in either way. -/
theorem ApprovalMessage.read_write_of_deep {m : ApprovalMessage}
    (hdouble : m.reference.hasDouble = false) (hdeep : Document.maxDepth ≤ m.reference.depth) :
    codec.read (codec.write m) = .error .unreadable ∧ Value.parse? (codec.write m) = none := by
  have hsignature : (looseSignatureCodec.encode m.signature).hasDouble = false :=
    (looseSignature_carries m.signature : looseSignatureCodec.Carries 64 1 _).fits.hasDouble
  have hmessage : (codec.encode m).hasDouble = false := by
    change (m.reference.hasDouble || ((looseSignatureCodec.encode m.signature).hasDouble || _)) = _
    rw [hdouble, hsignature]
    rfl
  have hdepth : Document.maxDepth < (codec.encode m).depth :=
    Nat.lt_succ_of_le (Nat.le_trans hdeep (Nat.le_max_left _ _))
  refine ⟨?_, Value.parse?_render_of_deep hmessage hdepth⟩
  have hreference : (m.reference.within 126).toValue? = none :=
    Value.toValue?_within _ _ (Nat.lt_of_succ_le hdeep)
  have hfree : Codec.free.decode .text (m.reference.within 126) = .error .unreadable := by
    simp only [Codec.free, hreference]
  obtain ⟨rest, hrest⟩ : ∃ rest, (codec.encode m).within Document.maxDepth
      = .object ((some "reference", m.reference.within 126) :: rest) := ⟨_, rfl⟩
  have hdecode : codec.decode .text ((codec.encode m).within Document.maxDepth)
      = .error .unreadable := by
    rw [hrest]
    simp [codec, Fields.codec, Fields.gather, Fields.and, Fields.required, Fields.single, hfree,
      Except.map, Except.bind]
  rw [Codec.read, Codec.write, Document.read_render hmessage, Codec.ofReading, hdecode]

theorem Amount.decode_of_wide {n : Nat} {m : Json.Number} (hn : Nat.pow 2 64 ≤ n)
    (hm : Document.freeNumber? (.int n) = some m) (o : Json.Origin) :
    integerCodec.decode o (.number m) = .error .unreadable := by
  obtain ⟨x, rfl⟩ := Json.Number.exists_float_of_freeNumber? (Int.ofNat_le.mpr hn) hm
  rfl

namespace AmountPair

/-- The free value of a pair has its members in alphabetical order. -/
theorem exists_of_free? {n a : Json.Number} {w : Value}
    (hw : (Value.object [("normalized", .number n), ("atomic", .number a)]).free? = some w) :
    ∃ n' a', Document.freeNumber? n = some n' ∧ Document.freeNumber? a = some a'
      ∧ w = .object [("atomic", .number a'), ("normalized", .number n')] := by
  have hsorted : ∀ v v', Document.insertMember "atomic" v [("normalized", v')]
      = [("atomic", v), ("normalized", v')] := by
    intro v v'
    rw [Document.insertMember, if_neg (by decide), if_pos (by decide)]
  simp only [Value.free?, Document.ofValue, Document.ofMembers, Document.toValue?,
    Document.membersToValues?] at hw
  cases hn : Document.freeNumber? n with
  | none => simp [hn] at hw
  | some n' =>
    cases ha : Document.freeNumber? a with
    | none => simp [hn, ha] at hw
    | some a' =>
      refine ⟨n', a', rfl, rfl, ?_⟩
      simp only [hn, ha, Option.map_some, Document.insertMember, hsorted, Option.some.injEq] at hw
      exact hw.symm

/-- The members of a free value are read one after the other. -/
theorem ofValue_members (n a : Json.Number) :
    codec.ofValue (.object [("atomic", .number a), ("normalized", .number n)])
      = (Amount.integerCodec.decode .value (.number a)).bind fun atomic =>
        (Amount.integerCodec.decode .value (.number n)).map fun normalized =>
          ⟨normalized, atomic⟩ := by
  have hnames : "atomic" ≠ "normalized" := by decide
  simp only [Codec.ofValue, codec, Fields.codec, Document.ofValue, Document.ofMembers, Fields.gather,
    Fields.and, Fields.required, Fields.single, if_neg hnames, if_true, Option.map_some]
  cases Amount.integerCodec.decode .value (.number a) <;>
    cases Amount.integerCodec.decode .value (.number n) <;> rfl

/-- **An amount of more than 64 bits does not come through a free value.** -/
theorem ofValue_of_wide {p : AmountPair} {w : Value}
    (hwide : Nat.pow 2 64 ≤ p.normalized.val ∨ Nat.pow 2 64 ≤ p.atomic.val)
    (hw : Value.parse? (codec.write p) = some w) : ∃ fault, codec.ofValue w = .error fault := by
  have hcarries : codec.Carries 128 1 p := carries p.normalized.lt p.atomic.lt
  have hdepth := Nat.le_trans hcarries.fits.depth_le (by decide : 1 ≤ Document.maxDepth)
  rw [Codec.write, Value.parse?_render hcarries.fits.hasDouble hdepth] at hw
  obtain ⟨n, a, hn, ha, rfl⟩ := exists_of_free? hw
  rw [ofValue_members]
  rcases hwide with hwide | hwide
  · rw [Amount.decode_of_wide hwide hn]
    cases Amount.integerCodec.decode .value (.number a) with
    | error fault => exact ⟨fault, rfl⟩
    | ok _ => exact ⟨.unreadable, rfl⟩
  · rw [Amount.decode_of_wide hwide ha]
    exact ⟨.unreadable, rfl⟩

end AmountPair

/-- So many arrays inside each other. -/
def Json.Value.nested : Nat → Value
  | 0 => .null
  | n + 1 => .array [nested n]

theorem Json.Value.nested_spec (n : Nat) :
    (nested n).IsFree ∧ (nested n).hasDouble = false ∧ (nested n).depth = n := by
  induction n with
  | zero => exact ⟨trivial, rfl, rfl⟩
  | succ n ih =>
    obtain ⟨hfree, hdouble, hdepth⟩ := ih
    refine ⟨⟨hfree, trivial⟩, ?_, ?_⟩
    · simp [nested, hasDouble, Json.anyDouble, hdouble]
    · simp [nested, depth, Json.itemsDepth, hdepth]

namespace WireType

/-- A sealed approval about 127 arrays inside each other. -/
def deepApproval : ApprovalMessage := ⟨.nested 127, [], []⟩

/-- A pair with an amount of 65 bits. -/
def widePair : AmountPair := ⟨⟨Nat.pow 2 64, by decide⟩, default⟩

/-- **Without the bounds the readings do not give the value back.** -/
theorem not_readings_agree :
    (approvalMessage.FreeOfDoubles deepApproval
      ∧ approvalMessage.codec.read (approvalMessage.codec.write deepApproval) = .error .unreadable
      ∧ Value.parse? (approvalMessage.codec.write deepApproval) = none)
    ∧ amountPair.FreeOfDoubles widePair
      ∧ ∀ w, Value.parse? (amountPair.codec.write widePair) = some w →
        amountPair.codec.ofValue w ≠ .ok widePair := by
  obtain ⟨hfree, hdouble, hdepth⟩ := Value.nested_spec 127
  have hdeep : Document.maxDepth ≤ deepApproval.reference.depth := Nat.le_of_eq hdepth.symm
  refine ⟨⟨⟨hfree, hdouble⟩, ApprovalMessage.read_write_of_deep hdouble hdeep⟩, trivial, ?_⟩
  intro w hw hread
  obtain ⟨fault, hfault⟩ := AmountPair.ofValue_of_wide (.inl Nat.le.refl) hw
  have hcontra : Except.error fault = .ok widePair := hfault.symm.trans hread
  cases hcontra

end WireType

end OrderDesk
