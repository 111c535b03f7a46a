import OrderDesk.Error
import OrderDesk.Session.Token

/-!
# Session/Basic — one token, many callers

A session caches one token.  A caller that finds it fresh takes it at once; any other caller asks for
the refresh lock, which is passed on first come, first served.  Whoever holds the lock looks once
more and, if the cached token still does not serve, exchanges a signed nonce for a new one.

A caller is a `Stage` that goes on in small steps: `Session.advance` is one step of its own,
`exchangeEnded` and `attemptEnded` say how it goes on when what it waits for has come.  Each step
reads or writes what callers share once, so that steps of different callers may come in any order.
-/

namespace OrderDesk

/-- What a caller wants a token for. -/
inductive Purpose where
  /-- Any token that is fresh. -/
  | refresh
  /-- A token in place of one that the service rejected. -/
  | replace (rejected : Token)
deriving DecidableEq

/-- What a caller is after. -/
inductive Goal where
  /-- A token. -/
  | token (p : Purpose)
  /-- The outcome of an operation that needs a token. -/
  | call
deriving DecidableEq

/-- Where a caller is.  `α` is what its operation gives. -/
inductive Stage (α : Type) where
  /-- About to look for a fresh token. -/
  | check
  /-- Has read the clock and is about to read the cached token. -/
  | checkAt (time : Int64)
  /-- About to ask for the lock. -/
  | request (p : Purpose)
  /-- In the queue for the lock. -/
  | queued (p : Purpose)
  /-- Holds the lock and is about to look again. -/
  | recheck (p : Purpose)
  /-- Holds the lock, has read the clock and is about to read the cached token. -/
  | recheckAt (time : Int64)
  /-- Holds the lock, has found no token that serves and is about to start an exchange. -/
  | unserved (p : Purpose)
  /-- Holds the lock; an exchange is in flight. -/
  | exchange (p : Purpose)
  /-- Holds the lock and is about to cache a new token. -/
  | store (p : Purpose) (t : Token)
  /-- Holds the lock and is about to give it up. -/
  | release (p : Purpose) (r : Except Error Token)
  /-- The operation is in flight with a token: for the first time with a fresh one, for the second
  and last time with one in place of a rejected one. -/
  | attempt (p : Purpose) (t : Token)
  /-- Has got a token, or failed to. -/
  | granted (r : Except Error Token)
  /-- The operation has ended. -/
  | ended (r : Except Error α)

/-- The state that callers share. -/
structure Session where
  /-- How long before its expiry a token is replaced. -/
  margin : Duration
  /-- The cached token, fresh or not. -/
  token : Option Token
  /-- Who holds the refresh lock. -/
  holder : Option Nat
  /-- Who waits for it, the first one first. -/
  queue : List Nat
deriving DecidableEq

namespace Session

/-- A session without a token. -/
def ofMargin (margin : Duration) : Session := ⟨margin, none, none, []⟩

/-- **Dropping the token.**  It needs no lock. -/
def invalidate (s : Session) : Session := { s with token := none }

/-- The cached token, if it is fresh. -/
def fresh? (s : Session) (now : Int64) : Option Token :=
  s.token.filter (·.isFreshAt now s.margin)

/-- The cached token, if it is not the rejected one. -/
def other? (s : Session) (rejected : Token) : Option Token := s.token.filter (· != rejected)

/-- Asking for the lock: it is taken if it is free. -/
def ask (s : Session) (id : Nat) : Session :=
  match s.holder with
  | none => { s with holder := some id }
  | some _ => { s with queue := s.queue ++ [id] }

/-- Giving the lock up: it passes to the first in the queue. -/
def unlock (s : Session) : Session := { s with holder := s.queue.head?, queue := s.queue.tail }

/-- **A caller that is given up** passes the lock on, or loses its place in the queue. -/
def leave (s : Session) (id : Nat) : Session :=
  if s.holder = some id then s.unlock else { s with queue := s.queue.filter (· ≠ id) }

/-- How a caller goes on with a token, or without one. -/
def grant {α : Type} (goal : Goal) (p : Purpose) (r : Except Error Token) : Stage α :=
  match goal, r with
  | .token _, r => .granted r
  | .call, .ok t => .attempt p t
  | .call, .error e => .ended (.error e)

/-- Where a caller starts. -/
def start {α : Type} : Goal → Stage α
  | .token (.replace rejected) => .request (.replace rejected)
  | .token .refresh => .check
  | .call => .check

/-- How a caller with the lock goes on when it has looked again. -/
def decided {α : Type} (p : Purpose) : Option Token → Stage α
  | some t => .release p (.ok t)
  | none => .unserved p

/-- **One step of a caller on its own.**  A caller that waits stays where it is. -/
def advance {α : Type} (now : Int64) (id : Nat) (goal : Goal) (s : Session) :
    Stage α → Session × Stage α
  | .check => (s, .checkAt now)
  | .checkAt time =>
    match s.fresh? time with
    | some t => (s, grant goal .refresh (.ok t))
    | none => (s, .request .refresh)
  | .request p => (s.ask id, if s.holder.isNone then .recheck p else .queued p)
  | .queued p => (s, if s.holder = some id then .recheck p else .queued p)
  | .recheck .refresh => (s, .recheckAt now)
  | .recheck (.replace rejected) => (s, decided (.replace rejected) (s.other? rejected))
  | .recheckAt time => (s, decided .refresh (s.fresh? time))
  | .unserved p => (s, .exchange p)
  | .store p t => ({ s with token := some t }, .release p (.ok t))
  | .release p r => (s.unlock, grant goal p r)
  | stage => (s, stage)

/-- How an exchange that failed is reported. -/
def authenticationFailure : Error → Error
  | .authenticationFailure reason => .authenticationFailure reason
  | e => .authenticationFailure e.message

/-- **The end of an exchange:** a token is to be cached, a failure leaves the cached token alone. -/
def exchangeEnded {α : Type} (p : Purpose) : Except Error Token → Stage α
  | .ok t => .store p t
  | .error e => .release p (.error (authenticationFailure e))

/-- **The end of an operation:** a first rejection asks for another token, all else is the
outcome. -/
def attemptEnded {α : Type} (p : Purpose) (t : Token) (r : Except Error α) : Stage α :=
  match p, r with
  | .refresh, .error e => if e.isUnauthorized then .request (.replace t) else .ended (.error e)
  | _, r => .ended r

/-- Steps of a caller on its own, as many as there can be before it waits. -/
def settle {α : Type} (now : Int64) (id : Nat) (goal : Goal) (s : Session) (stage : Stage α) :
    Session × Stage α :=
  Nat.repeat (fun (s, stage) => advance now id goal s stage) 6 (s, stage)

/-- A session as diagnostics show it: without its token. -/
def debugText (s : Session) : String :=
  "Session \x7b margin: " ++ s.margin.text ++ ", .. \x7d"

end Session

end OrderDesk
