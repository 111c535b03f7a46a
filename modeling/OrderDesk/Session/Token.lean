import OrderDesk.Duration
import OrderDesk.Text.Quoted

/-!
# Session/Token — bearer tokens and their freshness

Times are signed 64-bit counts of nanoseconds since 1970.  A token is fresh while now and a margin
together are before its expiry; a sum beyond 64 bits counts as the latest time there is.
-/

namespace OrderDesk

/-- A bearer token. -/
structure Token where
  /-- The text that the service issued. -/
  value : String
  /-- When it expires. -/
  expiry : Int64
deriving DecidableEq, Repr

namespace Token

/-- The latest time. -/
def latest : Int := Int.pow 2 63 - 1

/-- A margin as a time, the latest one at most. -/
def clamped (margin : Duration) : Int := min margin.nanoseconds latest

/-- The time a margin behind another time, the latest one at most. -/
def later (now : Int64) (margin : Duration) : Int := min (now.toInt + clamped margin) latest

/-- **Whether a token lives longer than a margin from now.** -/
def isFreshAt (t : Token) (now : Int64) (margin : Duration) : Bool :=
  later now margin < t.expiry.toInt

/-- A token as diagnostics show it: without its text. -/
def debugText (t : Token) : String :=
  "Token \x7b value: " ++ Quoted.text "<redacted>" ++ ", expiry_ns: "
    ++ Numeral.signed t.expiry.toInt ++ " \x7d"

end Token

end OrderDesk
