import OrderDesk.Clearing.Approval
import OrderDesk.Proofs.Crypto.Exchange
import OrderDesk.Proofs.Crypto.Gcm

/-!
# Proofs/Clearing/Sealed — sealed approvals and their opening

    | ephemeral key (32) | nonce (12) | hidden text | tag (16) |

Opening cuts the bytes where sealing put them together (`openSealed_append`), so both sides come to
one AES key as soon as they come to one shared secret (`openSealed_sealFor`).  No cut is ever made
past the end: with every cut checked, opening gives what it gives without (`openChecked_eq`).
-/

namespace OrderDesk

/-- A digest is eight words. -/
theorem Sha2.length_digest {ω : Type} [Inhabited ω] [Add ω] [XorOp ω] [AndOp ω] [Complement ω]
    {p : Parameters ω} (hword : ∀ w, (p.toBytes w).length = p.wordBytes) (message : List UInt8) :
    (digest p message).length = 8 * p.wordBytes := by
  simp only [digest, List.flatMap_cons, List.flatMap_nil, List.length_append, List.length_nil,
    hword]
  omega

theorem Sha2.length_sha256 (message : List UInt8) : (sha256 message).length = 32 :=
  length_digest (fun w => Bytes.length_ofNat 4 w.toNat) message

theorem Sha2.length_sha512 (message : List UInt8) : (sha512 message).length = 64 :=
  length_digest (fun w => Bytes.length_ofNat 8 w.toNat) message

namespace Approval

variable {s : Signer} {bytes ephemeral nonce hidden : List UInt8}

/-! ## Lengths -/

theorem length_cipherKey (secret : List UInt8) : (cipherKey secret).length = 32 :=
  Sha2.length_sha256 secret

theorem length_exchangeKey (scalar : Nat) : (Curve25519.exchangeKey scalar).length = 32 :=
  Bytes.length_ofNatLittle 32 _

/-! ## Opening, cut by cut -/

/-- The secret that a signer shares with a key. -/
def secretWith (s : Signer) (key : List UInt8) : List UInt8 :=
  Curve25519.sharedSecret (Curve25519.secretScalar s.seed.toList) key

/-- What decrypting comes to. -/
def opened : Option (List UInt8) → Except Error (List UInt8)
  | some text => .ok text
  | none => .error (.decryptionFailure "authentication tag mismatch")

/-- Bytes that are long enough for a header, in their pieces. -/
theorem exists_pieces (h : headerBytes ≤ bytes.length) :
    ∃ ephemeral nonce hidden, bytes = ephemeral ++ (nonce ++ hidden)
      ∧ ephemeral.length = keyBytes ∧ nonce.length = nonceBytes := by
  have hheader : keyBytes + nonceBytes ≤ bytes.length := h
  refine ⟨bytes.take keyBytes, (bytes.drop keyBytes).take nonceBytes,
    (bytes.drop keyBytes).drop nonceBytes, ?_, ?_, ?_⟩
  · rw [List.take_append_drop, List.take_append_drop]
  · exact List.length_take_of_le (by omega)
  · exact List.length_take_of_le (by rw [List.length_drop]; omega)

section Pieces

variable (hkey : ephemeral.length = keyBytes) (hnonce : nonce.length = nonceBytes)
include hkey hnonce

theorem length_pieces : (ephemeral ++ (nonce ++ hidden)).length = headerBytes + hidden.length := by
  rw [List.length_append, List.length_append, hkey, hnonce, headerBytes, Nat.add_assoc]

theorem drop_header : (ephemeral ++ (nonce ++ hidden)).drop headerBytes = hidden := by
  rw [← List.append_assoc]
  exact List.drop_left' (by rw [List.length_append, hkey, hnonce]; rfl)

/-- **Opening cuts where sealing puts together.** -/
theorem openSealed_append (hhidden : Gcm.tagBytes ≤ hidden.length) :
    openSealed s (ephemeral ++ (nonce ++ hidden))
      = opened (Gcm.decrypt? (cipherKey (secretWith s ephemeral)) nonce hidden) := by
  have hlen : ¬ (ephemeral ++ (nonce ++ hidden)).length < headerBytes := by
    rw [length_pieces hkey hnonce]
    omega
  simp only [openSealed, drop_header hkey hnonce, if_neg hlen, if_neg (Nat.not_lt.mpr hhidden),
    List.take_left' hkey, List.drop_left' hkey, List.take_left' hnonce, secretWith]
  cases Gcm.decrypt? _ nonce hidden <;> rfl

/-- Without room for a tag nothing opens. -/
theorem openSealed_of_lt_tag (hhidden : hidden.length < Gcm.tagBytes) :
    openSealed s (ephemeral ++ (nonce ++ hidden))
      = .error (.decryptionFailure ("ciphertext is " ++ Numeral.decimal hidden.length
        ++ " bytes, shorter than the " ++ Numeral.decimal Gcm.tagBytes ++ " byte tag")) := by
  have hlen : ¬ (ephemeral ++ (nonce ++ hidden)).length < headerBytes := by
    rw [length_pieces hkey hnonce]
    omega
  simp only [openSealed, drop_header hkey hnonce, if_neg hlen, if_pos hhidden]

end Pieces

/-! ## What opening gives -/

/-- **Opening gives a text that is shorter by header and tag,** or fails in one way. -/
theorem openSealed_cases (s : Signer) (bytes : List UInt8) :
    (∃ text, openSealed s bytes = .ok text
      ∧ text.length + (headerBytes + Gcm.tagBytes) = bytes.length)
    ∨ ∃ reason, openSealed s bytes = .error (.decryptionFailure reason) := by
  by_cases hheader : bytes.length < headerBytes
  · exact .inr ⟨_, by rw [openSealed, if_pos hheader]⟩
  · obtain ⟨ephemeral, nonce, hidden, rfl, hkey, hnonce⟩ :=
      exists_pieces (Nat.le_of_not_lt hheader)
    by_cases hhidden : hidden.length < Gcm.tagBytes
    · exact .inr ⟨_, openSealed_of_lt_tag hkey hnonce hhidden⟩
    · rw [openSealed_append hkey hnonce (Nat.le_of_not_lt hhidden)]
      cases hd : Gcm.decrypt? (cipherKey (secretWith s ephemeral)) nonce hidden with
      | none => exact .inr ⟨_, rfl⟩
      | some text =>
        refine .inl ⟨text, rfl, ?_⟩
        rw [length_pieces hkey hnonce, ← Gcm.length_of_decrypt? (length_cipherKey _) hnonce
          (Nat.le_of_not_lt hhidden) hd]
        omega

/-! ## Every cut checked -/

/-- A cut, if there is so much to cut. -/
def cut? (n : Nat) (bytes : List UInt8) : Option (List UInt8 × List UInt8) :=
  if n ≤ bytes.length then some (bytes.splitAt n) else none

/-- Bytes, if there are so many. -/
def exactly? (n : Nat) (bytes : List UInt8) : Option (List UInt8) :=
  if bytes.length = n then some bytes else none

/-- **Opening with every cut and every width checked:** nothing, if one of them fails. -/
def openChecked (s : Signer) (bytes : List UInt8) : Option (Except Error (List UInt8)) :=
  if bytes.length < headerBytes then
    some (.error (.decryptionFailure ("payload too short: " ++ Numeral.decimal bytes.length
      ++ " bytes, header alone is " ++ Numeral.decimal headerBytes)))
  else do
    let (ephemeral, rest) ← cut? keyBytes bytes
    let (nonce, hidden) ← cut? nonceBytes rest
    if hidden.length < Gcm.tagBytes then
      some (.error (.decryptionFailure ("ciphertext is " ++ Numeral.decimal hidden.length
        ++ " bytes, shorter than the " ++ Numeral.decimal Gcm.tagBytes ++ " byte tag")))
    else do
      let ephemeral ← exactly? keyBytes ephemeral
      let (half, _) ← cut? 32 (Sha2.sha512 s.seed.toList)
      let scalar := Curve25519.clamp (← exactly? 32 half)
      let key ← exactly? 32 (cipherKey (Curve25519.sharedSecret scalar ephemeral))
      let nonce ← exactly? nonceBytes nonce
      let (covered, tag) ← cut? (hidden.length - Gcm.tagBytes) hidden
      some (opened (Gcm.decrypt? key nonce (covered ++ tag)))

theorem cut?_of_le {n : Nat} (h : n ≤ bytes.length) :
    cut? n bytes = some (bytes.take n, bytes.drop n) := by
  rw [cut?, if_pos h, List.splitAt_eq]

theorem cut?_append {n : Nat} {xs : List UInt8} (h : xs.length = n) (ys : List UInt8) :
    cut? n (xs ++ ys) = some (xs, ys) := by
  rw [cut?_of_le (by rw [List.length_append]; omega), List.take_left' h, List.drop_left' h]

theorem exactly?_of_eq {n : Nat} (h : bytes.length = n) : exactly? n bytes = some bytes :=
  if_pos h

/-- **No cut is made past the end,** and every key and nonce has its width. -/
theorem openChecked_eq (s : Signer) (bytes : List UInt8) :
    openChecked s bytes = some (openSealed s bytes) := by
  by_cases hheader : bytes.length < headerBytes
  · rw [openChecked, if_pos hheader, openSealed, if_pos hheader]
  · obtain ⟨ephemeral, nonce, hidden, rfl, hkey, hnonce⟩ :=
      exists_pieces (Nat.le_of_not_lt hheader)
    have hcuts : cut? keyBytes (ephemeral ++ (nonce ++ hidden)) = some (ephemeral, nonce ++ hidden)
        ∧ cut? nonceBytes (nonce ++ hidden) = some (nonce, hidden) :=
      ⟨cut?_append hkey _, cut?_append hnonce _⟩
    have hdigest : 32 ≤ (Sha2.sha512 s.seed.toList).length := by
      rw [Sha2.length_sha512]
      decide
    simp only [openChecked, if_neg hheader, hcuts, Option.bind_eq_bind, Option.bind_some]
    by_cases hhidden : hidden.length < Gcm.tagBytes
    · simp only [if_pos hhidden, openSealed_of_lt_tag hkey hnonce hhidden]
    · simp only [if_neg hhidden, exactly?_of_eq hkey, exactly?_of_eq hnonce, cut?_of_le hdigest,
        exactly?_of_eq (List.length_take_of_le hdigest), exactly?_of_eq (length_cipherKey _),
        cut?_of_le (Nat.sub_le _ _), Option.bind_some, List.take_append_drop,
        openSealed_append hkey hnonce (Nat.le_of_not_lt hhidden), secretWith,
        Curve25519.secretScalar]

/-! ## Sealing undone -/

/-- **Opening undoes the service's sealing.** -/
theorem openSealed_sealFor (s : Signer) (ephemeral : FixedBytes 32) (nonce : FixedBytes 12)
    (text : List UInt8) :
    openSealed s (sealFor (Curve25519.exchangeKey (Curve25519.secretScalar s.seed.toList))
      (Curve25519.clamp ephemeral.toList) nonce.toList text) = .ok text := by
  have hnonce : nonce.toList.length = nonceBytes := nonce.length_eq
  have hsecret : secretWith s (Curve25519.exchangeKey (Curve25519.clamp ephemeral.toList))
      = Curve25519.sharedSecret (Curve25519.clamp ephemeral.toList)
          (Curve25519.exchangeKey (Curve25519.secretScalar s.seed.toList)) :=
    Curve25519.sharedSecret_clamp_comm _ _
  rw [sealFor, List.append_assoc, openSealed_append (length_exchangeKey _) hnonce, hsecret,
    Gcm.decrypt?_encrypt (length_cipherKey _) hnonce, opened]
  rw [Gcm.length_encrypt (length_cipherKey _) hnonce]
  exact Nat.le_add_left _ _

/-- **A sealed approval opens to what was sealed;** whatever else is opened gives a text that is
sixty bytes shorter or fails in one way, and no cut is made past the end. -/
theorem openSealed_seals (s : Signer) :
    (∀ (ephemeral : FixedBytes 32) (nonce : FixedBytes 12) (text : List UInt8),
      openSealed s (sealFor (Curve25519.exchangeKey (Curve25519.secretScalar s.seed.toList))
        (Curve25519.clamp ephemeral.toList) nonce.toList text) = .ok text)
    ∧ ∀ bytes : List UInt8, openChecked s bytes = some (openSealed s bytes)
      ∧ ((∃ text, openSealed s bytes = .ok text ∧ text.length + 60 = bytes.length)
        ∨ ∃ reason, openSealed s bytes = .error (.decryptionFailure reason))
      ∧ (bytes.length < 60 →
        ∃ reason, openSealed s bytes = .error (.decryptionFailure reason)) := by
  refine ⟨openSealed_sealFor s, fun bytes =>
    ⟨openChecked_eq s bytes, openSealed_cases s bytes, fun hshort => ?_⟩⟩
  obtain ⟨text, -, hlen⟩ | hfail := openSealed_cases s bytes
  · have hlong : text.length + 60 = bytes.length := hlen
    omega
  · exact hfail

example : openSealed ⟨.zero⟩ (List.replicate 59 0)
    = .error (.decryptionFailure "ciphertext is 15 bytes, shorter than the 16 byte tag") := by
  rfl

end Approval

end OrderDesk
