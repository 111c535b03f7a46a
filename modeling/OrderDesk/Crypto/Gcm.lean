import OrderDesk.Crypto.Aes

/-!
# Crypto/Gcm — authenticated encryption with AES-256 in counter mode

A text is hidden by a stream of enciphered counters and vouched for by a tag of sixteen bytes over
the hidden text.  There is no additional data.  `encrypt` hides and vouches; `decrypt?` checks the tag
first and then uncovers.
-/

namespace OrderDesk.Gcm

/-- How many bytes a tag takes. -/
def tagBytes : Nat := 16

/-! ## The tag's field -/

/-- The product of two elements of the field of 2¹²⁸ elements, whose bits run from the most
significant down: for the lowest `bits` bits of the first factor, the second is halved once each. -/
def mulBits (x : Nat) : (bits : Nat) → (v z : Nat) → Nat
  | 0, _, z => z
  | bits + 1, v, z =>
    let z := if x.testBit bits then z ^^^ v else z
    let v := if v % 2 = 1 then (v / 2) ^^^ (0xe1 * Nat.pow 2 120) else v / 2
    mulBits x bits v z

/-- The product of two elements. -/
def mul (x y : Nat) : Nat := mulBits x 128 y 0

/-- The blocks of sixteen bytes, the last one filled up with zeros. -/
def blocks : (count : Nat) → List UInt8 → List (List UInt8)
  | 0, _ => []
  | count + 1, bytes =>
    let block := bytes.take 16
    (block ++ List.replicate (16 - block.length) 0) :: blocks count (bytes.drop 16)

/-- All blocks of a byte string. -/
def blocksOf (bytes : List UInt8) : List (List UInt8) := blocks ((bytes.length + 15) / 16) bytes

/-- The hash of a hidden text and its length under a key. -/
def ghash (key : Nat) (hidden : List UInt8) : Nat :=
  let lengths := Bytes.ofNat 16 (8 * hidden.length)
  (blocksOf hidden ++ [lengths]).foldl (fun y block => mul (y ^^^ Bytes.toNat block) key) 0

/-! ## The stream -/

/-- The counter block of a nonce. -/
def counterBlock (nonce : List UInt8) (count : Nat) : List UInt8 := nonce ++ Bytes.ofNat 4 count

/-- The stream from a counter on, for `blocks` blocks. -/
def stream (keys : List (List UInt8)) (nonce : List UInt8) : (blocks : Nat) → Nat → List UInt8
  | 0, _ => []
  | blocks + 1, count =>
    Aes.encryptBlock keys (counterBlock nonce count) ++ stream keys nonce blocks (count + 1)

/-- A text with the stream added to it; adding it twice uncovers the text. -/
def cover (keys : List (List UInt8)) (nonce text : List UInt8) : List UInt8 :=
  Aes.xor text (stream keys nonce ((text.length + 15) / 16) 2)

/-- The tag of a hidden text. -/
def tag (keys : List (List UInt8)) (nonce hidden : List UInt8) : List UInt8 :=
  let key := Bytes.toNat (Aes.encryptBlock keys (List.replicate 16 0))
  Aes.xor (Bytes.ofNat 16 (ghash key hidden)) (Aes.encryptBlock keys (counterBlock nonce 1))

/-- **Encrypting**: the hidden text and its tag. -/
def encrypt (key nonce text : List UInt8) : List UInt8 :=
  let keys := Aes.roundKeys key
  let hidden := cover keys nonce text
  hidden ++ tag keys nonce hidden

/-- **Decrypting**: the text, if the tag is that of the hidden text. -/
def decrypt? (key nonce sealed : List UInt8) : Option (List UInt8) :=
  let keys := Aes.roundKeys key
  let hidden := sealed.take (sealed.length - tagBytes)
  if tag keys nonce hidden = sealed.drop (sealed.length - tagBytes) then some (cover keys nonce hidden)
  else none

end OrderDesk.Gcm
