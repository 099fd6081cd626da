import H2ts.Bytes
import H2ts.Lib.WebSocket

/-!
# Receiving frames

`wslay_frame_recv`.  A call goes on from the state in which the last one stopped, and hands
out what there is of a payload.

The receive callback is the one of the bridge: `inbound` holds what was read from the socket
and not asked for, and an empty one means to come back later.  What does not matter to a
server that sends all at once, the state of a frame that is partly sent, is left out.
-/

namespace H2ts

namespace Wslay

open BigEndian WebSocket

/-- The capacity of `ibuf`. -/
def IBUF_SIZE : Nat := 4096

def isCtrlFrame (opcode : UInt8) : Bool := opcode >>> 3 &&& 1 != 0

structure OpcodeMemo where
  fin : Bool
  rsv : UInt8
  opcode : UInt8
deriving DecidableEq, Repr

/-- The first byte of a frame. -/
def memoOf (b0 : UInt8) : OpcodeMemo := ⟨b0 >>> 7 &&& 1 != 0, b0 >>> 4 &&& 7, b0 &&& 0xf⟩

/-- The mask bit and the seven bits of the length. -/
def maskOf (b1 : UInt8) : Bool := b1 >>> 7 &&& 1 != 0

def payloadlenOf (b1 : UInt8) : Nat := (b1 &&& 0x7f).toNat

/-- Where receiving has stopped.  `ireqread`, the number of bytes that it needs, goes with it. -/
inductive FrameState where
  | header1
  | extPayloadlen (ireqread : Nat)
  | maskkey
  | payload
deriving DecidableEq, Repr

def FrameState.ireqread : FrameState → Nat
  | header1 => 2
  | extPayloadlen ireqread => ireqread
  | maskkey => 4
  | payload => 0

structure FrameContext where
  /-- The bytes in the buffer, from `ibufmark` on. -/
  ibuf : Bytes
  /-- What the callback still has. -/
  inbound : Bytes
  iom : OpcodeMemo
  ipayloadlen : Nat
  ipayloadoff : Nat
  imask : Bool
  imaskkey : Fin 4 → UInt8
  istate : FrameState
deriving DecidableEq

/-- What a call hands out. -/
structure Iocb where
  fin : Bool
  rsv : UInt8
  opcode : UInt8
  payloadLength : Nat
  mask : Bool
  data : Bytes
deriving DecidableEq, Repr

inductive RecvError where
  | wantRead
  | proto
deriving DecidableEq, Repr

namespace FrameContext

def init : FrameContext where
  ibuf := []
  inbound := []
  iom := ⟨false, 0, 0⟩
  ipayloadlen := 0
  ipayloadoff := 0
  imask := false
  imaskkey := fun _ => 0
  istate := .header1

/-- `wslay_recv`: as much as the buffer has room for. -/
def recv (c : FrameContext) : FrameContext :=
  { c with
    ibuf := c.ibuf ++ c.inbound.take (IBUF_SIZE - c.ibuf.length)
    inbound := c.inbound.drop (IBUF_SIZE - c.ibuf.length) }

/-- What is needed is in the buffer, or it is asked for once. -/
def await (c : FrameContext) : FrameContext :=
  if c.ibuf.length < c.istate.ireqread then c.recv else c

/-- The length is known. -/
def afterLength (c : FrameContext) : FrameContext :=
  { c with istate := if c.imask then .maskkey else .payload }

def recvHeader1 (c : FrameContext) : Except (RecvError × FrameContext) FrameContext :=
  match c.istate with
  | .header1 =>
      match c.await.ibuf with
      | b0 :: b1 :: rest =>
          let c := { c.await with ibuf := rest, iom := memoOf b0, imask := maskOf b1 }
          if isCtrlFrame (memoOf b0).opcode && (125 < payloadlenOf b1 || !(memoOf b0).fin) then
            .error (.proto, c)
          else if payloadlenOf b1 = 126 then .ok { c with istate := .extPayloadlen 2 }
          else if payloadlenOf b1 = 127 then .ok { c with istate := .extPayloadlen 8 }
          else .ok { c with ipayloadlen := payloadlenOf b1, ipayloadoff := 0 }.afterLength
      | _ => .error (.wantRead, c.await)
  | _ => .ok c

def recvExtPayloadlen (c : FrameContext) : Except (RecvError × FrameContext) FrameContext :=
  match c.istate with
  | .extPayloadlen ireqread =>
      if c.await.ibuf.length < ireqread then .error (.wantRead, c.await)
      else
        let length := ofBe (c.await.ibuf.take ireqread)
        let c := { c.await with
          ibuf := c.await.ibuf.drop ireqread
          ipayloadlen := length
          ipayloadoff := 0 }
        if ireqread = 8 then
          if length < 2 ^ 16 || 2 ^ 63 ≤ length then .error (.proto, c) else .ok c.afterLength
        else if length < 126 then .error (.proto, c)
        else .ok c.afterLength
  | _ => .ok c

def recvMaskkey (c : FrameContext) : Except (RecvError × FrameContext) FrameContext :=
  match c.istate with
  | .maskkey =>
      if c.await.ibuf.length < 4 then .error (.wantRead, c.await)
      else .ok { c.await with
        ibuf := c.await.ibuf.drop 4
        imaskkey := fun i => c.await.ibuf.getD i 0
        istate := .payload }
  | _ => .ok c

/-- For the payload, only an empty buffer asks for more. -/
def awaitPayload (c : FrameContext) : FrameContext :=
  if c.ibuf.isEmpty && 0 < c.ipayloadlen - c.ipayloadoff then c.recv else c

def recvPayload (c : FrameContext) : Except (RecvError × FrameContext) (Iocb × FrameContext) :=
  let c := c.awaitPayload
  let rempayloadlen := c.ipayloadlen - c.ipayloadoff
  if c.ibuf.isEmpty && 0 < rempayloadlen then .error (.wantRead, c)
  else
    let raw := c.ibuf.take rempayloadlen
    let off := c.ipayloadoff + raw.length
    .ok ({
      fin := c.iom.fin
      rsv := c.iom.rsv
      opcode := c.iom.opcode
      payloadLength := c.ipayloadlen
      mask := c.imask
      data := if c.imask then mask c.imaskkey c.ipayloadoff raw else raw },
      { c with
        ibuf := c.ibuf.drop rempayloadlen
        ipayloadoff := off
        istate := if c.ipayloadlen = off then .header1 else .payload })

end FrameContext

/-- `wslay_frame_recv`. -/
def frameRecv (c : FrameContext) : Except (RecvError × FrameContext) (Iocb × FrameContext) := do
  let c ← c.recvHeader1
  let c ← c.recvExtPayloadlen
  let c ← c.recvMaskkey
  c.recvPayload

end Wslay

end H2ts
