import OrderDesk.Proofs.Signing.Instruction

/-!
# Proofs/Signing/Signature — what the signatures of requests say

A request is built from an instruction and signed on the way.  Its signature is of the compact text of
the squeezed instruction (`signature_covers`): two instructions of one kind have one signature if they
differ in the spaces of an order id or of a target only, and are signed differently otherwise.
Instructions of two kinds never have one message (`message_separates`).
-/

namespace OrderDesk

/-- What a request is built from. -/
inductive Submission where
  | create (order : Order) (now : Int64)
  | cancel (orderId : String) (asset : Asset) (now : Int64)
  | replace (request : Replace) (asset : Asset) (now : Int64)
  | settle (swap : Swap)
  | withdraw (payout : Payout)

namespace Submission

/-- The signed part of the request that a signer builds. -/
def instruction (s : Signer) : Submission → Instruction
  | create order now => .order (CreateOrder.sign s order now).order
  | cancel orderId asset now => .cancel (CancelOrder.sign s orderId asset now).cancel
  | replace request asset now => .replace (ReplaceOrder.sign s request asset now).request
  | settle swap => .swap (Settlement.sign s swap).inner
  | withdraw payout => .payout (Withdrawal.sign s payout).inner

/-- The signature in the request that a signer builds. -/
def signature (s : Signer) : Submission → List UInt8
  | create order now => (CreateOrder.sign s order now).signature
  | cancel orderId asset now => (CancelOrder.sign s orderId asset now).signature
  | replace request asset now => (ReplaceOrder.sign s request asset now).signature
  | settle swap => (Settlement.sign s swap).signature
  | withdraw payout => (Withdrawal.sign s payout).signature

/-- **A request is signed with the signature of its instruction's message.** -/
theorem signature_eq (s : Signer) (b : Submission) :
    b.signature s = Curve25519.sign s.seed.toList (b.instruction s).message := by
  cases b <;> rfl

/-- **A signature covers the compact text of the squeezed instruction,** all of it and nothing else.
It covers the compact text of the instruction itself if the text that anyone may choose has no
space. -/
theorem signature_covers (s : Signer) (b : Submission) :
    b.signature s
        = Curve25519.sign s.seed.toList (Bytes.ofString (b.instruction s).squeezed.text)
      ∧ ((b.instruction s).message = Bytes.ofString (b.instruction s).text
          ↔ ∀ t ∈ (b.instruction s).chosen?, ' ' ∉ t.toList)
      ∧ ∀ (s' : Signer) (b' : Submission),
          (b.instruction s).message = (b'.instruction s').message
            ↔ (b.instruction s).squeezed = (b'.instruction s').squeezed := by
  refine ⟨?signed, ?exact, ?told⟩
  case signed => rw [signature_eq, Instruction.message_eq]
  case exact => exact Instruction.message_eq_text_iff
  case told => exact fun s' b' => Instruction.message_eq_iff

/-- The signer with a seed of zeros. -/
def zeroSigner : Signer := ⟨.zero⟩

/-- What a cancel of an order is built from. -/
def cancelOf (orderId : String) : Submission := .cancel orderId (.index 0) 0

/-- **Cancels of two orders with one signature:** the space is not signed. -/
theorem not_signature_covers :
    (cancelOf "a b").instruction zeroSigner ≠ (cancelOf "ab").instruction zeroSigner
      ∧ (cancelOf "a b").signature zeroSigner = (cancelOf "ab").signature zeroSigner
      ∧ ((cancelOf "a b").instruction zeroSigner).message
          ≠ Bytes.ofString ((cancelOf "a b").instruction zeroSigner).text := by
  have hsqueeze : squeeze "a b" = squeeze "ab" := by decide
  refine ⟨?differ, ?same, ?inexact⟩
  case differ =>
    intro h
    have hid : "a b" = "ab" := congrArg Cancel.orderId (Instruction.cancel.inj h)
    exact absurd hid (by decide)
  case same =>
    rw [signature_eq, signature_eq]
    refine congrArg _ (Instruction.message_eq_iff.mpr ?_)
    exact congrArg (fun id => Instruction.cancel ⟨id, .index 0, zeroSigner.publicKey⟩) hsqueeze
  case inexact =>
    intro h
    have hspace := Instruction.message_eq_text_iff.mp h "a b" rfl
    exact absurd hspace (by decide)

end Submission

namespace Instruction

variable {i j : Instruction}

/-- **Instructions of different kinds have different messages,** so that what is a signature of one
message only is not a signature of both. -/
theorem message_separates (h : i.kind ≠ j.kind) :
    i.message ≠ j.message
      ∧ ∀ signs : PublicKey → List UInt8 → List UInt8 → Prop,
          (∀ key σ m m', signs key σ m → signs key σ m' → m = m') →
          ∀ key σ, signs key σ i.message → ¬ signs key σ j.message := by
  have hmessage : i.message ≠ j.message := by
    intro heq
    have hsqueezed := congrArg kind (message_eq_iff.mp heq)
    rw [kind_squeezed, kind_squeezed] at hsqueezed
    exact h hsqueezed
  refine ⟨hmessage, ?_⟩
  intro signs hone key σ hi hj
  exact hmessage (hone key σ _ _ hi hj)

/-- A cancel and a replace of one order. -/
theorem message_separates_cancel_replace :
    (cancel ⟨"a b", .index 0, ⟨.zero⟩⟩).kind ≠ (replace (.ofOrder "a b" 0)).kind
      ∧ (cancel ⟨"a b", .index 0, ⟨.zero⟩⟩).message ≠ (replace (.ofOrder "a b" 0)).message
      ∧ ∀ σ, σ = (cancel ⟨"a b", .index 0, ⟨.zero⟩⟩).message →
        ¬ σ = (replace (.ofOrder "a b" 0)).message := by
  have hkind : (cancel ⟨"a b", .index 0, ⟨.zero⟩⟩).kind ≠ (replace (.ofOrder "a b" 0)).kind := by
    decide
  obtain ⟨hmessage, hsigns⟩ := message_separates hkind
  refine ⟨hkind, hmessage, hsigns (fun _ σ m => σ = m) ?_ ⟨.zero⟩⟩
  rintro key σ m m' rfl rfl
  rfl

end Instruction

end OrderDesk
