import OrderDesk.Crypto.Gcm
import OrderDesk.Signer

/-!
# Clearing/Approval — sealed settlement approvals

The service seals an approval for one user.  The sealed bytes are an ephemeral X25519 key (32), a
nonce (12), the hidden text and its tag (16); the AES key is the SHA-256 digest of the secret that
the ephemeral key shares with the X25519 form of the user's key.
-/

namespace OrderDesk

open Json (Codec Fields Value)

/-- A sealed approval as it arrives. -/
structure ApprovalMessage where
  /-- What the approval is about, for the service. -/
  reference : Value
  signature : List UInt8
  /-- The sealed approval. -/
  sealedBytes : List UInt8

/-- What the settler hands to the chain. -/
structure ApprovalInner where
  nonce : UInt64
  signature : List UInt8
deriving DecidableEq

/-- An opened approval. -/
structure Approval where
  inner : ApprovalInner
  /-- When it ends. -/
  expiry : UInt64
deriving DecidableEq

/-- Whether an approval has ended. -/
def Approval.isExpired (a : Approval) (now : UInt64) : Bool := a.expiry ≤ now

/-! ## JSON -/

/-- Bytes as hexadecimal text, or nothing. -/
def readHexText (s : String) : Except Json.Fault (List UInt8) :=
  match Hex.decode s.toList with
  | .ok bytes => .ok bytes
  | .error _ => .error .unreadable

/-- A signature in JSON: written as a list of bytes, read from one or from hexadecimal text. -/
def looseSignatureCodec : Codec (List UInt8) where
  encode := (Codec.list Codec.byte).encode
  decode o d := match d with
    | .string s => readHexText s
    | d => (Codec.list Codec.byte).decode o d

/-- Bytes in JSON as hexadecimal text, written with `0x`. -/
def hexCodec : Codec (List UInt8) where
  encode bytes := .string ("0x" ++ Hex.text bytes)
  decode _ d := match d with
    | .string s => readHexText s
    | _ => .error .unreadable

/-- A sealed approval in JSON. -/
def ApprovalMessage.codec : Codec ApprovalMessage :=
  ((Fields.required "reference" reference Codec.free).and <|
    (Fields.required "signature" signature looseSignatureCodec).and <|
    Fields.required "encrypted_data" sealedBytes hexCodec).codec
    fun (reference, signature, sealedBytes) => ⟨reference, signature, sealedBytes⟩

/-- The inner part of an approval in JSON. -/
def ApprovalInner.codec : Codec ApprovalInner :=
  ((Fields.required "nonce" nonce Codec.word).and <|
    Fields.required "signature" signature looseSignatureCodec).codec
    fun (nonce, signature) => ⟨nonce, signature⟩

/-- An approval in JSON. -/
def Approval.codec : Codec Approval :=
  ((Fields.required "inner" inner ApprovalInner.codec).and <|
    Fields.required "expiry" expiry Codec.word).codec
    fun (inner, expiry) => ⟨inner, expiry⟩

/-! ## Opening -/

namespace Approval

/-- How many bytes the ephemeral key takes. -/
def keyBytes : Nat := 32

/-- How many bytes the nonce takes. -/
def nonceBytes : Nat := 12

/-- How many bytes stand before the hidden text. -/
def headerBytes : Nat := keyBytes + nonceBytes

/-- The AES key of a shared secret. -/
def cipherKey (secret : List UInt8) : List UInt8 := Sha2.sha256 secret

/-- **Opening sealed bytes.** -/
def openSealed (s : Signer) (bytes : List UInt8) : Except Error (List UInt8) :=
  let hidden := bytes.drop headerBytes
  if bytes.length < headerBytes then
    .error (.decryptionFailure ("payload too short: " ++ Numeral.decimal bytes.length
      ++ " bytes, header alone is " ++ Numeral.decimal headerBytes))
  else if hidden.length < Gcm.tagBytes then
    .error (.decryptionFailure ("ciphertext is " ++ Numeral.decimal hidden.length
      ++ " bytes, shorter than the " ++ Numeral.decimal Gcm.tagBytes ++ " byte tag"))
  else
    let ephemeral := bytes.take keyBytes
    let nonce := (bytes.drop keyBytes).take nonceBytes
    let secret := Curve25519.sharedSecret (Curve25519.secretScalar s.seed.toList) ephemeral
    match Gcm.decrypt? (cipherKey secret) nonce hidden with
    | some text => .ok text
    | none => .error (.decryptionFailure "authentication tag mismatch")

/-- Sealing a text for a user, as the service does: `scalar` is the clamped ephemeral secret. -/
def sealFor (recipient : List UInt8) (scalar : Nat) (nonce text : List UInt8) : List UInt8 :=
  let secret := Curve25519.sharedSecret scalar recipient
  Curve25519.exchangeKey scalar ++ nonce ++ Gcm.encrypt (cipherKey secret) nonce text

/-- The approval in an opened text. -/
def ofBytes (bytes : List UInt8) : Except Error Approval := (codec.readBytes bytes).mapError .json

/-- **Opening an approval message.** -/
def openMessage (s : Signer) (message : ApprovalMessage) : Except Error Approval :=
  openSealed s message.sealedBytes >>= ofBytes

end Approval

end OrderDesk
