import H2ts.Bytes
import H2ts.Lib.Runes

/-!
# The handshake of the Rust server

`handshake.rs`: from the header fields of a request and a selector to a rejection, or to a
`101` that echoes a subprotocol or none.  Strings are their bytes.

The `Sec-WebSocket-Accept` value is left out: it decides nothing.
-/

namespace H2ts

open Runes Utf8

/-- The header fields of a request, in their order.  Names do not depend on case. -/
abbrev Headers := List (Bytes × Bytes)

/-- All values of a field, in their order. -/
def Headers.values (headers : Headers) (name : String) : List Bytes :=
  (headers.filter fun field => eqIgnoreAsciiCase field.1 (octets name)).map Prod.snd

def DEFAULT_SUBPROTOCOL : Bytes := octets "h2ts"

/-- `split(',')` -/
def splitComma (s : Bytes) : List Bytes := s.splitOn 44

/-- What picks a subprotocol from the offered ones. -/
abbrev Select := List Bytes → Option Bytes

namespace Server

structure AcceptOptions where
  allowImplicitCodec : Bool
  allowedOrigins : Option (List Bytes)
deriving DecidableEq, Repr

inductive WebSocketError where
  | notUpgradeRequest
  | unsupportedSubprotocol
  | forbiddenOrigin
deriving DecidableEq, Repr

/-- The status of `rejection_response`. -/
def WebSocketError.status : WebSocketError → Nat
  | notUpgradeRequest => 426
  | unsupportedSubprotocol => 400
  | forbiddenOrigin => 403

/-- `HeaderMap::get`: the first value. -/
def get (headers : Headers) (name : String) : Option Bytes := (headers.values name).head?

/-- `HeaderValue::to_str` -/
def toStr (value : Bytes) : Option Bytes :=
  if value.all fun b => (32 ≤ b && b < 127) || b == 9 then some value else none

/-- `HeaderValue::from_str` -/
def fromStr (s : Bytes) : Option Bytes :=
  if s.all fun b => (32 ≤ b && b != 127) || b == 9 then some s else none

def headerLists (request : Headers) (header needle : String) : Bool :=
  match (get request header).bind toStr with
  | some list => (splitComma list).any fun t => eqIgnoreAsciiCase (trim t) (octets needle)
  | none => false

def isUpgradeRequest (request : Headers) : Bool :=
  headerLists request "upgrade" "websocket" && headerLists request "connection" "upgrade" &&
    (get request "sec-websocket-key").isSome

def offeredProtocols (request : Headers) : List Bytes :=
  match (get request "sec-websocket-protocol").bind toStr with
  | some list => ((splitComma list).map trim).filter fun s => !s.isEmpty
  | none => []

inductive Fallback where
  /-- Complete the handshake, with a subprotocol or none. -/
  | accept (protocol : Option Bytes)
  | reject
deriving DecidableEq, Repr

/-- The decision when the selector declined. -/
def fallbackSubprotocol (offered : List Bytes) (allowImplicitCodec : Bool) : Fallback :=
  match offered.find? fun p => eqIgnoreAsciiCase p DEFAULT_SUBPROTOCOL with
  | some p => .accept (some p)
  | none => if allowImplicitCodec then .accept offered.head? else .reject

/-- The `Origin` is in the allowlist, if there is one. -/
def originAllowed (request : Headers) (allowed : Option (List Bytes)) : Bool :=
  match allowed with
  | some allowed =>
      match (get request "origin").bind toStr with
      | some origin => allowed.any fun a => eqIgnoreAsciiCase a origin
      | none => false
  | none => true

/-- The selector's answer if it was offered, else the fallback. -/
def decision (offered : List Bytes) (select : Select) (allowImplicitCodec : Bool) : Fallback :=
  match select offered with
  | some proto =>
      if offered.any fun o => eqIgnoreAsciiCase o proto then .accept (some proto)
      else fallbackSubprotocol offered allowImplicitCodec
  | none => fallbackSubprotocol offered allowImplicitCodec

/-- The `101`; a subprotocol that is no header value is skipped. -/
def respond : Fallback → Except WebSocketError (Option Bytes)
  | .accept chosen => .ok (chosen.bind fromStr)
  | .reject => .error .unsupportedSubprotocol

/-- The rejection, or the subprotocol that the `101` echoes. -/
def acceptWithOptions (request : Headers) (select : Select) (options : AcceptOptions) :
    Except WebSocketError (Option Bytes) :=
  if !isUpgradeRequest request then .error .notUpgradeRequest
  else if !originAllowed request options.allowedOrigins then .error .forbiddenOrigin
  else respond (decision (offeredProtocols request) select options.allowImplicitCodec)

end Server

end H2ts
