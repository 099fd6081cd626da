import H2ts.Hpack.Coder
import H2ts.Lib.KeyMap

/-!
# Requests and response heads

The message types of `connection.rs`: what a request sends and how a decoded
header block becomes a response head.

`str::to_uppercase` maps the full Unicode range and is a parameter of
`buildRequestHeaders`.  The connection takes a `Request`, which holds the header
list that function built.
-/

namespace H2ts

open Hpack

/-! ## Requests -/

/-- A request body: nothing, a buffer, or a stream of chunks. -/
inductive RequestBody where
  | empty
  | bytes (buffer : Bytes)
  | stream (chunks : List Bytes)
deriving DecidableEq, Repr

namespace RequestBody

/-- Whether HEADERS carries END_STREAM.  A stream counts as non-empty. -/
def isEmpty : RequestBody → Bool
  | empty => true
  | bytes buffer => buffer.isEmpty
  | stream _ => false

/-- The chunks the upload takes off the body. -/
def chunks : RequestBody → List Bytes
  | empty => []
  | bytes buffer => [buffer]
  | stream chunks => chunks

end RequestBody

structure RequestInit where
  method : Option String
  path : Option String
  authority : Option String
  scheme : Option String
  headers : List (String × String)
  body : RequestBody
deriving DecidableEq, Repr

def FORBIDDEN_HEADERS : List String :=
  ["connection", "host", "keep-alive", "proxy-connection", "transfer-encoding", "upgrade"]

/-- The header fields of a header given by the caller: none for pseudo and
forbidden headers, never indexed for credentials. -/
def callerHeader (rawName value : String) : List Header :=
  let name := toAsciiLowercase rawName
  if name.toList.head? = some ':' ∨ name ∈ FORBIDDEN_HEADERS then []
  else if name = "authorization" ∨ name = "cookie" then [Header.neverIndexed name value]
  else [Header.new name value]

def buildRequestHeaders (toUppercase : String → String) (init : RequestInit) : List Header :=
  let method := toUppercase (init.method.getD "GET")
  let scheme := init.scheme.getD "http"
  let path := init.path.getD "/"
  [Header.new ":method" method, Header.new ":scheme" scheme] ++
    (init.authority.map (Header.new ":authority")).toList ++ [Header.new ":path" path] ++
    init.headers.flatMap fun (rawName, value) => callerHeader rawName value

/-- What `request` sends: the header list and the body. -/
structure Request where
  headers : List Header
  body : RequestBody
deriving DecidableEq, Repr

def RequestInit.toRequest (toUppercase : String → String) (init : RequestInit) : Request :=
  ⟨buildRequestHeaders toUppercase init, init.body⟩

/-- The request of an `init` that gives nothing but a body.  Its method is in
upper case already. -/
def Request.bare (body : RequestBody) : Request :=
  RequestInit.toRequest id ⟨none, none, none, none, [], body⟩

/-! ## Response heads -/

/-- A header map. -/
abbrev HeaderMap := KeyMap String String

structure Head where
  status : Nat
  headers : HeaderMap
  raw : List Header
deriving DecidableEq

/-- `str::parse::<u16>`: digits after an optional plus sign, at most 65535. -/
def parseU16 (s : String) : Option Nat :=
  let digits := match s.toList with
    | '+' :: rest => rest
    | chars => chars
  if digits ≠ [] ∧ digits.all Char.isDigit then
    let value := digits.foldl (fun acc c => acc * 10 + (c.toNat - '0'.toNat)) 0
    if value < 2 ^ 16 then some value else none
  else
    none

/-- Add a field to the status and the map: pseudo headers are skipped, repeated
ones are joined. -/
def collectHeader (acc : Nat × HeaderMap) (h : Header) : Nat × HeaderMap :=
  let (status, headers) := acc
  if h.name = ":status" then ((parseU16 h.value).getD 0, headers)
  else if h.name.toList.head? = some ':' then (status, headers)
  else
    match headers.lookup h.name with
    | some existing =>
        let sep := if h.name = "cookie" then "; " else ", "
        (status, headers.insert h.name (existing ++ sep ++ h.value))
    | none => (status, headers.insert h.name h.value)

def collectHeaders (raw : List Header) : Head :=
  let (status, headers) := raw.foldl collectHeader (0, ∅)
  ⟨status, headers, raw⟩

/-- Whether a header block is an interim response. -/
def isInterim (raw : List Header) : Bool :=
  let status := (collectHeaders raw).status
  100 ≤ status && status < 200

end H2ts
