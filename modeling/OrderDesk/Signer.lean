import OrderDesk.Crypto.Curve25519
import OrderDesk.Identifier.PublicKey

/-!
# Signer — the identity that signs

A signer is a 32-byte seed.  It signs a text without its spaces, carriage returns and line feeds; a
value is signed as its compact JSON text.
-/

namespace OrderDesk

/-- A signing identity. -/
structure Signer where
  /-- The secret seed. -/
  seed : FixedBytes 32

namespace Signer

/-- The signer with a seed of 32 bytes. -/
def ofByteList (bytes : List UInt8) : Except Error Signer :=
  match FixedBytes.ofList? bytes with
  | some seed => .ok ⟨seed⟩
  | none => .error (.invalidIdentifier (.keyLength bytes.length))

/-- The signer with a seed in hexadecimal, with or without `0x`. -/
def parse (text : String) : Except Error Signer := decodeHex text.toList >>= ofByteList

/-- The public key as bytes. -/
def keyBytes (s : Signer) : List UInt8 := Curve25519.publicKey s.seed.toList

/-- The public key. -/
def publicKey (s : Signer) : PublicKey :=
  ⟨(FixedBytes.ofList? s.keyBytes).getD .zero⟩

/-- Whether a character is left out of what is signed. -/
def isSkipped (c : Char) : Bool := c = ' ' || c = '\r' || c = '\n'

/-- The bytes of a text that are signed. -/
def signedBytes (payload : String) : List UInt8 :=
  (payload.toList.filter fun c => !isSkipped c).flatMap String.utf8EncodeChar

/-- **The signature of a text.** -/
def sign (s : Signer) (payload : String) : List UInt8 :=
  Curve25519.sign s.seed.toList (signedBytes payload)

/-- The signature of a value's compact JSON text. -/
def signJson {α : Type} (s : Signer) (c : Json.Codec α) (a : α) : List UInt8 := s.sign (c.write a)

/-- Whether a signature of a value's compact JSON text is by a key. -/
def verifies {α : Type} (key : PublicKey) (c : Json.Codec α) (a : α) (signature : List UInt8) :
    Bool :=
  Curve25519.verify key.bytes.toList (signedBytes (c.write a)) signature

/-- The secret scalar as the bytes of an X25519 secret. -/
def exchangeSecret (s : Signer) : List UInt8 :=
  Bytes.ofNatLittle 32 (Curve25519.secretScalar s.seed.toList)

/-- A signer as diagnostics show it: by its public key only. -/
def debugText (s : Signer) : String := "<User " ++ s.publicKey.text ++ ">"

end Signer

end OrderDesk
