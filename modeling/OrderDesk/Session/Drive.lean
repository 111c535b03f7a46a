import OrderDesk.Session.Basic

/-!
# Session/Drive — a caller on its own

A caller that nobody interferes with is run to its end.  Exchanges and attempts are functions on the
state `σ` of the world outside.
-/

namespace OrderDesk.Session

variable {α σ : Type}

/-- The world outside a session. -/
structure Surroundings (α σ : Type) where
  /-- The time. -/
  now : σ → Int64
  /-- The exchange of a signed nonce for a token. -/
  exchange : σ → Except Error Token × σ
  /-- The operation, with a token. -/
  attempt : Token → σ → Except Error α × σ

/-- The number of a caller that is alone. -/
def alone : Nat := 0

/-- A caller that goes on while it waits for an exchange or attempt, up to a number of these. -/
def driveFor (e : Surroundings α σ) (goal : Goal) :
    Nat → Session → Stage α → σ → Stage α × Session × σ
  | n, session, stage, s =>
    match n, settle (e.now s) alone goal session stage with
    | n + 1, (session, .exchange p) =>
      let (r, s) := e.exchange s
      driveFor e goal n session (exchangeEnded p r) s
    | n + 1, (session, .attempt p t) =>
      let (r, s) := e.attempt t s
      driveFor e goal n session (attemptEnded p t r) s
    | _, (session, stage) => (stage, session, s)

/-- **A caller run to its end:** there are two exchanges and two attempts at most. -/
def drive (e : Surroundings α σ) (goal : Goal) (session : Session) (s : σ) :
    Stage α × Session × σ :=
  driveFor e goal 4 session (start goal) s

end OrderDesk.Session
