import H2ts.Server.Handshake

/-!
# The handshake of the Go server

`handshake.go`: the same decision, read from all values of a field and with the comparison
of strings under Unicode case folding.
-/

namespace H2ts

namespace Go

open Runes Utf8

structure AcceptOptions where
  /-- The empty string declines, and so does nil. -/
  select : Option (List Bytes → Bytes)
  allowImplicitCodec : Bool
  allowedOrigins : Option (List Bytes)

structure HandshakeError where
  status : Nat
  reason : String
deriving DecidableEq, Repr

def errNotUpgrade : HandshakeError := ⟨426, "not a WebSocket upgrade request"⟩

def errUnsupportedSubprotocol : HandshakeError := ⟨400, "client offered no supported subprotocol"⟩

def errForbiddenOrigin : HandshakeError := ⟨403, "origin not allowed"⟩

def errNotHijackable : HandshakeError :=
  ⟨500, "connection does not support hijacking (serve the gateway over HTTP/1.1)"⟩

/-- `http.Header.Get`: the first value, or nothing. -/
def get (h : Headers) (header : String) : Bytes := (h.values header).headD []

section

variable (F : Folding)

def headerListContains (h : Headers) (header needle : String) : Bool :=
  (h.values header).any fun v =>
    (splitComma v).any fun tok => equalFold F (trimSpace tok) (octets needle)

def isUpgradeRequest (r : Headers) : Bool :=
  headerListContains F r "Upgrade" "websocket" && headerListContains F r "Connection" "upgrade" &&
    get r "Sec-WebSocket-Key" != []

def offeredProtocols (r : Headers) : List Bytes :=
  (r.values "Sec-WebSocket-Protocol").flatMap fun v =>
    ((splitComma v).map trimSpace).filter fun tok => tok != []

def containsFold (list : List Bytes) (s : Bytes) : Bool := list.any fun v => equalFold F v s

/-- What the selector picks, the empty string if it declines. -/
def selection (sel : Option (List Bytes → Bytes)) (offered : List Bytes) : Bytes :=
  match sel with
  | some sel => sel offered
  | none => []

/-- The chosen subprotocol, whether there is one, and whether to accept. -/
def negotiate (offered : List Bytes) (sel : Option (List Bytes → Bytes)) (allowImplicit : Bool) :
    Bytes × Bool × Bool :=
  if selection sel offered != [] && containsFold F offered (selection sel offered) then
    (selection sel offered, true, true)
  else
    match offered.find? fun p => equalFold F p DEFAULT_SUBPROTOCOL with
    | some p => (p, true, true)
    | none =>
        if allowImplicit then
          match offered with
          | p :: _ => (p, true, true)
          | [] => ([], false, true)
        else ([], false, false)

/-- The `Origin` is in the allowlist, if there is one. -/
def originAllowed (r : Headers) (allowed : Option (List Bytes)) : Bool :=
  match allowed with
  | some allowed => get r "Origin" != [] && containsFold F allowed (get r "Origin")
  | none => true

/-- The rejection, or the subprotocol that the `101` echoes. -/
def acceptWithOptions (hijackable : Bool) (r : Headers) (opts : AcceptOptions) :
    Except HandshakeError (Option Bytes) :=
  if !isUpgradeRequest F r then .error errNotUpgrade
  else if !originAllowed F r opts.allowedOrigins then .error errForbiddenOrigin
  else
    let (chosen, hasChosen, accept) :=
      negotiate F (offeredProtocols r) opts.select opts.allowImplicitCodec
    if !accept then .error errUnsupportedSubprotocol
    else if !hijackable then .error errNotHijackable
    else .ok (if hasChosen then some chosen else none)

end

end Go

end H2ts
