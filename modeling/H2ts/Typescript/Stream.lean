import H2ts.Messages
import H2ts.Typescript.Codec

/-!
# TypeScript streams

`stream.ts` and `flow.ts`: the receive side of a stream, its `head` promise and its
body.  What waits on a promise is not part of a stream; the connection resumes it.

The header map of a head is a function of its raw headers and is not kept, and neither
is `state`, which nothing reads.
-/

namespace H2ts

namespace Typescript

open Hpack

/-- A rejection or exception value. -/
inductive Reason where
  | thrown (thrown : Thrown)
  /-- A value from outside: a transport error or an abort reason. -/
  | external (value : Nat)
deriving DecidableEq, Repr

inductive Promise (α : Type*) where
  | pending
  | resolved (value : α)
  | rejected (reason : Reason)
deriving DecidableEq

/-! ## Windows -/

/-- The value is a JavaScript number, of which the sums are rounded. -/
structure SendWindow where
  available : Int
  closed : Bool
deriving DecidableEq, Repr

namespace SendWindow

def new (initial : Int) : SendWindow := ⟨initial, false⟩

def update (w : SendWindow) (increment : Int) : SendWindow :=
  { w with available := Js.number (w.available + increment) }

def adjust (w : SendWindow) (delta : Int) : SendWindow :=
  { w with available := Js.number (w.available + delta) }

def consume (w : SendWindow) (n : Int) : SendWindow :=
  { w with available := Js.number (w.available - n) }

def close (w : SendWindow) : SendWindow := { w with closed := true }

end SendWindow

/-! ## Heads -/

/-- White space and line terminators. -/
def isSpace (c : Char) : Bool :=
  c.toNat ∈ [0x9, 0xa, 0xb, 0xc, 0xd, 0x20, 0xa0, 0x1680, 0x2028, 0x2029, 0x202f, 0x205f, 0x3000,
    0xfeff] || (0x2000 ≤ c.toNat && c.toNat ≤ 0x200a)

/-- `Number.parseInt(s, 10)`; `none` is NaN. -/
def parseInt (s : String) : Option Int :=
  let trimmed := s.toList.dropWhile isSpace
  let (sign, rest) : Int × List Char := match trimmed with
    | '-' :: rest => (-1, rest)
    | '+' :: rest => (1, rest)
    | rest => (1, rest)
  let digits := rest.takeWhile Char.isDigit
  if digits.isEmpty then none
  else some (sign * digits.foldl (fun acc c => acc * 10 + (c.toNat - '0'.toNat)) 0)

structure HeadHead where
  /-- `none` is NaN. -/
  status : Option Int
  raw : List Header
deriving DecidableEq

/-- The last `:status` counts. -/
def collectHeaders (raw : List Header) : HeadHead where
  status := raw.foldl (fun status h => if h.name = ":status" then parseInt h.value else status) none
  raw := raw

/-- A 1xx response. -/
def HeadHead.interim (head : HeadHead) : Bool :=
  match head.status with
  | some status => 100 ≤ status && status < 200
  | none => false

/-! ## Streams -/

/-- Where `pumpBody` stands. -/
inductive Pump where
  /-- There is no upload, or it is over. -/
  | none
  /-- It waits for the next chunk. -/
  | pulling (chunks : List Bytes)
  /-- It waits for the window of the connection. -/
  | waitConn (chunk : Bytes) (offset : Nat) (rest : List Bytes)
  /-- It waits for the window of the stream. -/
  | waitStream (chunk : Bytes) (offset : Nat) (rest : List Bytes)
  /-- It waits for a write. -/
  | sending (chunk : Bytes) (offset : Nat) (rest : List Bytes)
  /-- It waits for the write of the terminal DATA. -/
  | ending
deriving DecidableEq

structure H2Stream where
  id : Int
  /-- It was reserved by a PUSH_PROMISE. -/
  pushed : Bool
  sendWindow : SendWindow
  localClosed : Bool
  remoteClosed : Bool
  head : Promise HeadHead
  gotHead : Bool
  /-- The raw headers of the trailers. -/
  trailers : Option (List Header)
  recvQueue : List Bytes
  recvBuffered : Nat
  recvEnded : Bool
  recvError : Option Reason
  bodyDone : Bool
  pump : Pump
deriving DecidableEq

namespace H2Stream

def new (id initialSendWindow : Int) (pushed : Bool) : H2Stream where
  id := id
  pushed := pushed
  sendWindow := .new initialSendWindow
  localClosed := false
  remoteClosed := false
  head := .pending
  gotHead := false
  trailers := none
  recvQueue := []
  recvBuffered := 0
  recvEnded := false
  recvError := none
  bodyDone := false
  pump := .none

def endBody (s : H2Stream) : H2Stream := { s with recvEnded := true }

def receiveHeaders (s : H2Stream) (raw : List Header) (endStream : Bool) : H2Stream :=
  if !s.gotHead then
    let head := collectHeaders raw
    if head.interim then s
    else
      let s := { s with gotHead := true, head := .resolved head }
      if endStream then s.endBody else s
  else
    let s := { s with trailers := some raw }
    if endStream then s.endBody else s

def receiveData (s : H2Stream) (data : Bytes) (endStream : Bool) : H2Stream :=
  let s := if 0 < data.length && !s.bodyDone then
      { s with
        recvQueue := s.recvQueue ++ [data]
        recvBuffered := s.recvBuffered + data.length }
    else s
  if endStream then { s with recvEnded := true } else s

/-- Tear down with an error.  The first one is kept. -/
def fail (s : H2Stream) (err : Reason) : H2Stream :=
  let s := { s with sendWindow := s.sendWindow.close }
  let s := if !s.gotHead then { s with gotHead := true, head := .rejected err } else s
  { s with recvError := s.recvError.or (some err) }

def receiveReset (s : H2Stream) (errorCode : Int) : H2Stream :=
  let code := (ErrorCode.fromValue (UInt32.ofInt errorCode)).getD .protocolError
  s.fail (.thrown (.h2 code ("stream " ++ toString s.id ++ " reset by peer") (some s.id)))

/-- Whether cancelling the body tells the peer. -/
def live (s : H2Stream) : Bool := !s.bodyDone && !s.recvEnded && s.recvError.isNone

end H2Stream

end Typescript

end H2ts
