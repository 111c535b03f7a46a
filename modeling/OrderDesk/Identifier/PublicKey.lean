import OrderDesk.Identifier.ChainId

/-!
# Identifier/PublicKey — the 32-byte keys of users

A key is read from hexadecimal text with or without `0x`, or from bytes; fewer than 32 bytes are
brought to the width by zeros in front.  It is written in lower case without a prefix.
-/

namespace OrderDesk

/-- A user's Ed25519 public key. -/
structure PublicKey where
  /-- The encoded point. -/
  bytes : FixedBytes 32
deriving DecidableEq

namespace PublicKey

/-- The key that at most 32 bytes denote. -/
def ofByteList (bytes : List UInt8) : Except Error PublicKey :=
  (padLeft 32 "public key" bytes).map PublicKey.mk

/-- **Reading a text.** -/
def parse (text : String) : Except Error PublicKey := decodeHex text.toList >>= ofByteList

/-- The hexadecimal text of a key. -/
def text (k : PublicKey) : String := Hex.text k.bytes.toList

/-- A key as diagnostics show it. -/
def debugText (k : PublicKey) : String := "UserPublicKey(" ++ k.text ++ ")"

/-- A key in JSON: written as text, read from text or from a list of bytes. -/
def codec : Json.Codec PublicKey where
  encode k := .string k.text
  decode o d := match d with
    | .string s => ChainId.reported (parse s)
    | .array ds => (ChainId.readBytes o ds).bind fun bytes => ChainId.reported (ofByteList bytes)
    | _ => .error .unreadable

end PublicKey

end OrderDesk
