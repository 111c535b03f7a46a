import OrderDesk.Duration
import OrderDesk.Http.Status
import OrderDesk.Json.Codec
import OrderDesk.Text.Hex
import OrderDesk.Text.Quoted

/-!
# Error — what can go wrong, and how it is reported

One type of errors serves every operation.  An error keeps its cause; `Error.message` words it.
-/

namespace OrderDesk

/-- Why a text or value is no identifier.  Identifiers are never guessed. -/
inductive Flaw where
  /-- The text is not hexadecimal. -/
  | notHex (text : String) (fault : Hex.Fault)
  /-- The text has no digits. -/
  | emptyChainId (text : String)
  /-- The bytes are too many for a routed chain. -/
  | chainLength (bytes : Nat)
  /-- The text has not the eighteen digits of a routed chain. -/
  | chainDigits (text : String)
  /-- The text has no `@`. -/
  | noChainPart (text : String)
  /-- Nothing stands before the `@`. -/
  | emptyAddress (text : String)
  /-- The bytes are too many for an address. -/
  | addressLength (bytes : Nat)
  /-- The member holds neither a text nor an object. -/
  | badMember (name : String) (value : Json.Value)
  /-- The value has none of the shapes of a chain address. -/
  | notChainAddress (value : Json.Value)
  /-- The member is no array. -/
  | notByteList (name : String)
  /-- The member's array holds something that is no byte. -/
  | notByte (name : String) (item : Json.Value)
  /-- The numeral is too large for an index. -/
  | largeIndex (text : String)
  /-- The text is an address without its chain. -/
  | bareAddress (text : String)
  /-- The text is no asset. -/
  | notAsset (text : String)
  /-- The number is no index. -/
  | notIndex (number : Json.Number)
  /-- An index is announced, but an address follows. -/
  | indexHoldsAddress
  /-- The value has none of the shapes of an asset. -/
  | noIndexOrAddress (value : Json.Value)
  /-- The text names no rounding. -/
  | unknownRounding (text : String)
  /-- The bytes are no signing key. -/
  | keyLength (bytes : Nat)
  /-- The scheme is not one of the web's. -/
  | unsupportedScheme (scheme : String)
  /-- A reason in the words of the caller. -/
  | stated (reason : String)

/-- What does not fit its fixed width. -/
inductive Excess where
  /-- Bytes beyond a limit. -/
  | width (what : String) (bytes limit : Nat)
  /-- A chain id that is too large. -/
  | chainId (text : String)
  /-- An amount whose rescaled form is too large. -/
  | rescaled (amount fromDecimals toDecimals : Nat)
  /-- An amount that has no decimal form. -/
  | decimal (amount decimals : Nat)
  /-- A decimal below zero. -/
  | negative (value : String)
  /-- A decimal with too many digits behind the point. -/
  | scale (value : String)
  /-- A reason in the words of the caller. -/
  | stated (reason : String)

/-- What can go wrong. -/
inductive Error where
  /-- A malformed asset, vault or chain identifier. -/
  | invalidIdentifier (flaw : Flaw)
  /-- Fetching a nonce or exchanging it for a token failed. -/
  | authenticationFailure (reason : String)
  /-- No response with the key arrived before the deadline. -/
  | correlationTimeout (key : String) (timeout : Duration)
  /-- A request is already waiting under the key. -/
  | duplicateCorrelation (key : String)
  /-- A sealed approval is cut short or was tampered with. -/
  | decryptionFailure (reason : String)
  /-- A value does not fit its fixed width. -/
  | overflow (excess : Excess)
  /-- The other side closed the stream, or the network failed. -/
  | streamDisconnected (reason : String)
  /-- A status that reports no success. -/
  | status (code : Nat) (body : String)
  /-- A request that got no answer. -/
  | http
  /-- A text or value that could not be decoded. -/
  | json (fault : Json.Fault)

namespace Hex

/-- What is wrong with a text, in words. -/
def Fault.message : Fault → String
  | .oddLength => "odd number of digits"
  | .badDigit byte offset =>
    "invalid character " ++ Quoted.char (Char.ofNat byte.toNat) ++ " at position "
      ++ Numeral.decimal offset

end Hex

/-- The shape of a chain address, in words. -/
def addressShape : String := "expected <address>@<chain>"

/-- Why it is no identifier, in words. -/
def Flaw.message : Flaw → String
  | .notHex text fault => Quoted.text text ++ ": " ++ fault.message
  | .emptyChainId text => "empty chain id " ++ Quoted.text text
  | .chainLength bytes =>
    "overflow: chain is " ++ Numeral.decimal bytes ++ " bytes, at most 9 allowed"
  | .chainDigits text =>
    "chain " ++ Quoted.text text
      ++ " must contain 1 byte routing id and 8 bytes VM id (18 hex chars)"
  | .noChainPart text => Quoted.text text ++ " has no chain part, " ++ addressShape
  | .emptyAddress text => Quoted.text text ++ " has an empty address"
  | .addressLength bytes => "address is " ++ Numeral.decimal bytes ++ " bytes, at most 32 allowed"
  | .badMember name value => "invalid " ++ name ++ " field: " ++ value.render
  | .notChainAddress value => "not a chain address: " ++ value.render
  | .notByteList name => name ++ " must be a byte list"
  | .notByte name item => name ++ " contains non-byte " ++ item.render
  | .largeIndex text => "index " ++ text ++ " exceeds 64 bits"
  | .bareAddress text =>
    Quoted.text text ++ " looks like an address but has no chain part, " ++ addressShape
  | .notAsset text => Quoted.text text ++ " is neither an index nor a chain address"
  | .notIndex number =>
    "index must be a non-negative integer: " ++ String.ofList number.text
  | .indexHoldsAddress => "Index holds an address"
  | .noIndexOrAddress value =>
    "asset identifier must have an Index or an Address: " ++ value.render
  | .unknownRounding text => "unknown rounding " ++ Quoted.text text
  | .keyLength bytes => "private key is " ++ Numeral.decimal bytes ++ " bytes, expected 32"
  | .unsupportedScheme scheme => "unsupported scheme " ++ Quoted.text scheme
  | .stated reason => reason

/-- What does not fit, in words. -/
def Excess.message : Excess → String
  | .width what bytes limit =>
    what ++ " is " ++ Numeral.decimal bytes ++ " bytes, at most " ++ Numeral.decimal limit
      ++ " allowed"
  | .chainId text => "chain id " ++ text ++ " exceeds 64 bits"
  | .rescaled amount fromDecimals toDecimals =>
    Numeral.decimal amount ++ " scaled from " ++ Numeral.decimal fromDecimals ++ " to "
      ++ Numeral.decimal toDecimals ++ " decimals"
  | .decimal amount decimals =>
    Numeral.decimal amount ++ " at " ++ Numeral.decimal decimals ++ " decimals"
  | .negative value => "negative amount " ++ value
  | .scale value => value
  | .stated reason => reason

namespace Error

/-- **The message of an error.**  The wording of transport and JSON libraries is not part of it. -/
def message : Error → String
  | invalidIdentifier flaw => "invalid identifier: " ++ flaw.message
  | authenticationFailure reason => "authentication failed: " ++ reason
  | correlationTimeout key timeout => "no response for " ++ key ++ " within " ++ timeout.text
  | duplicateCorrelation key => "a request is already pending for " ++ key
  | decryptionFailure reason => "decryption failed: " ++ reason
  | overflow excess => "overflow: " ++ excess.message
  | streamDisconnected reason => "stream disconnected: " ++ reason
  | status code body => "http " ++ Http.statusText code ++ ": " ++ body
  | http => ""
  | json .unreadable => ""
  | json (.refused reason) => reason

/-- Whether the service rejected the credentials. -/
def isUnauthorized : Error → Bool
  | status code _ => Http.isRejection code
  | _ => false

/-- Whether an error is about a malformed identifier. -/
def isInvalidIdentifier : Error → Bool
  | invalidIdentifier _ => true
  | _ => false

/-- Whether an error is about a value that does not fit. -/
def isOverflow : Error → Bool
  | overflow _ => true
  | _ => false

/-- An error as a decoder reports it. -/
def toFault (e : Error) : Json.Fault := .refused e.message

end Error

end OrderDesk
