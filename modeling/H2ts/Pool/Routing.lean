import H2ts.Connection.Client

/-!
# The pool

`H2Pool` over any `PoolConnection`.  A connection is a handle (`Rc`) into the world,
where connections change on their own.

A step is one synchronous section between two awaits, as for the client.  The
future of a `request` waits for the factory, for the open of another request or for
the response; a factory that is ready at once is an `opened` with nothing before
it.
-/

namespace H2ts

/-- A connection that a pool routes over, with what happens to it otherwise. -/
class PoolConnection (σ : Type*) (α ι : outParam (Type*)) where
  isClosed : σ → Bool
  canOpenStream : σ → Bool
  /-- `request`, up to its first await. -/
  request : σ → ι → σ
  close : σ → σ
  step : σ → α → σ

instance : PoolConnection Client Action Request where
  isClosed c := c.closed
  canOpenStream c := c.canOpenStream
  request c init := c.request init
  close c := c.close
  step c a := c.step a

/-- A call of `H2Pool::request`. -/
inductive Pool.Call (ι : Type*) where
  /-- Not polled yet. -/
  | idle
  /-- It owns the open and waits for the factory. -/
  | opening (init : ι)
  /-- It waits for the open of another call. -/
  | waiting (init : ι)
  /-- A connection has the request, and answers the call. -/
  | routed (conn : Nat)
  /-- The factory failed. -/
  | failed (error : H2Error)
  /-- The caller dropped the future. -/
  | dropped
deriving DecidableEq

structure Pool (σ ι : Type*) where
  maxConnections : Nat
  conns : List Nat
  opening : Bool
  /-- The calls at the other end of the senders. -/
  openWaiters : List Nat
  /-- What is behind the handles. -/
  world : Nat → σ
  calls : Nat → Pool.Call ι
  /-- The calls and the connections that got their requests, in order. -/
  handed : List (Nat × Nat)

namespace Pool

/-- What happens to a pool. -/
inductive Action (α ι : Type*) where
  /-- A future is polled for the first time. -/
  | request (i : Nat) (init : ι)
  /-- The factory has a connection or an error for the call. -/
  | opened (i : Nat) (result : Except H2Error Nat)
  /-- A call that waited for an open resumes. -/
  | wake (i : Nat)
  /-- A caller drops the future. -/
  | drop (i : Nat)
  | close
  /-- Something happens to a connection. -/
  | conn (h : Nat) (a : α)

variable {σ α ι : Type*}

def new (maxConnections : Nat) (world : Nat → σ) : Pool σ ι where
  maxConnections := maxConnections
  conns := []
  opening := false
  openWaiters := []
  world := world
  calls _ := .idle
  handed := []

def setCall (s : Pool σ ι) (i : Nat) (call : Call ι) : Pool σ ι :=
  { s with calls := Function.update s.calls i call }

variable [PoolConnection σ α ι]

open PoolConnection

/-- Drop the connections that are closed. -/
def retain (s : Pool σ ι) : Pool σ ι :=
  { s with conns := s.conns.filter fun h => !isClosed (s.world h) }

/-- The connection for a request, if there is no need to open one. -/
def chosen (s : Pool σ ι) : Option Nat :=
  match s.conns.find? fun h => canOpenStream (s.world h) with
  | some h => some h
  | none =>
      -- At the connection cap: park on an existing connection.
      if !s.conns.isEmpty && s.maxConnections ≤ s.conns.length then s.conns.head? else none

/-- Issue the request on a connection. -/
def route (s : Pool σ ι) (i : Nat) (init : ι) (h : Nat) : Pool σ ι :=
  { s with
    world := Function.update s.world h (request (s.world h) init)
    calls := Function.update s.calls i (.routed h)
    handed := s.handed ++ [(i, h)] }

/-- `open_one`, up to its await. -/
def openOne (s : Pool σ ι) (i : Nat) (init : ι) : Pool σ ι :=
  if s.opening then { s with openWaiters := s.openWaiters ++ [i] }.setCall i (.waiting init)
  else { s with opening := true }.setCall i (.opening init)

/-- The top of the loop. -/
def attempt (s : Pool σ ι) (i : Nat) (init : ι) : Pool σ ι :=
  let s := s.retain
  match s.chosen with
  | some h => s.route i init h
  | none => s.openOne i init

/-- The rest of the loop after `open_one`, and its top again.  A brand-new connection
that is already at its limit gets the request. -/
def resume (s : Pool σ ι) (i : Nat) (init : ι) : Pool σ ι :=
  match s.conns.getLast? with
  | some h =>
      if !isClosed (s.world h) && !canOpenStream (s.world h) then s.route i init h
      else s.attempt i init
  | none => s.attempt i init

/-- The open is over, and its waiters wake. -/
def landed (s : Pool σ ι) : Pool σ ι := { s with opening := false, openWaiters := [] }

/-- The factory of a call completes. -/
def finishOpen (s : Pool σ ι) (i : Nat) (init : ι) : Except H2Error Nat → Pool σ ι
  | .error err => s.landed.setCall i (.failed err)
  | .ok h => { s.landed with conns := s.conns ++ [h] }.resume i init

def setConn (s : Pool σ ι) (h : Nat) (c : σ) : Pool σ ι :=
  { s with world := Function.update s.world h c }

def close (s : Pool σ ι) : Pool σ ι :=
  { s.conns.foldl (fun s h => s.setConn h (PoolConnection.close (s.world h))) s with conns := [] }

/-- Drop a future. -/
def dropCall (s : Pool σ ι) (i : Nat) : Pool σ ι :=
  match s.calls i with
  | .opening _ | .waiting _ | .routed _ => s.setCall i .dropped
  | _ => s

def step (s : Pool σ ι) : Action α ι → Pool σ ι
  | .request i init =>
      match s.calls i with
      | .idle => s.attempt i init
      | _ => s
  | .opened i result =>
      match s.calls i with
      | .opening init => s.finishOpen i init result
      | _ => s
  | .wake i =>
      match s.calls i with
      | .waiting init => if i ∈ s.openWaiters then s else s.resume i init
      | _ => s
  | .drop i => s.dropCall i
  | .close => s.close
  | .conn h a => s.setConn h (PoolConnection.step (s.world h) a)

/-- The pool after a list of actions. -/
def after (maxConnections : Nat) (world : Nat → σ) (actions : List (Action α ι)) : Pool σ ι :=
  Machine.run step (new maxConnections world) actions

end Pool

end H2ts
