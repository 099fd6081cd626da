import H2ts.Connection.Conservation
import H2ts.FrameSafety

/-!
# Padding and receive credit

The peer charges the whole payload of a DATA frame to the receive windows, the pad
length octet and the padding included.  The parser strips them, and credit is
returned for what is left.  So runs here take frames as they stand on the wire
(`RawFrame`), and every section that moves bytes has a place: a stream, or nobody
(`place`).  What a place was charged, it gets back exactly if none of its frames
was padded and its body was not dropped with `2^31` bytes unread
(`repaid_iff`).
-/

namespace H2ts

open BigEndian History

/-! ## DATA payloads -/

theorem parsePayload_data {typeId flagBits : UInt8} {id id' : UInt32} {payload bytes : Bytes}
    {endStream : Bool}
    (parsed : parsePayload typeId flagBits id payload = .ok (some (.data id' bytes endStream))) :
    typeId = FrameType.DATA ∧ parseData flagBits id payload = .ok (.data id' bytes endStream) := by
  obtain rfl : FrameType.DATA = typeId := typeId_parsePayload parsed
  obtain ⟨frame, same, made⟩ := map_some_eq_ok.mp parsed
  cases same
  exact ⟨rfl, made⟩

theorem length_readBytes {r rest : ByteReader} {n : Nat} {data : Bytes}
    (read : readBytes r n = .ok (data, rest)) : data.length ≤ r.length := by
  unfold readBytes ByteReader.bytes at read
  split at read
  next found =>
    split at found
    · cases found
    · cases found
      cases read
      exact List.length_take_le' n r
  next => cases read

/-- Padding makes DATA shorter than its payload. -/
theorem length_readPadded {payload data : Bytes} {padded : Bool}
    (read : readPadded payload payload.length padded = .ok data) :
    if padded then data.length < payload.length else data.length = payload.length := by
  cases padded with
  | false =>
      simp only [readPadded, Bool.not_false, if_true, readBytes_self, bind, Except.bind, pure,
        Except.pure, Except.ok.injEq] at read
      rw [← read]
      rfl
  | true =>
      cases payload with
      | nil => cases read
      | cons length rest =>
          have same : readPadded (length :: rest) (length :: rest).length true = (do
              let dataLength ← checkedSub rest.length length.toNat
                (.new .protocolError "pad length exceeds frame payload")
              let read ← readBytes rest dataLength
              return read.1) := rfl
          rw [same] at read
          cases left : checkedSub rest.length length.toNat
              (.new .protocolError "pad length exceeds frame payload") with
          | error fault =>
              rw [left] at read
              cases read
          | ok dataLength =>
              cases front : readBytes rest dataLength with
              | error fault =>
                  simp only [left, front, bind, Except.bind] at read
                  cases read
              | ok found =>
                  simp only [left, front, bind, Except.bind, pure, Except.pure, Except.ok.injEq] at read
                  have most := length_readBytes front
                  rw [read] at most
                  exact Nat.lt_succ_of_le most

theorem length_parseData {flagBits : UInt8} {id id' : UInt32} {payload bytes : Bytes}
    {endStream : Bool} (parsed : parseData flagBits id payload = .ok (.data id' bytes endStream)) :
    if hasFlag flagBits Flags.DATA_PADDED then bytes.length < payload.length
    else bytes.length = payload.length := by
  unfold parseData at parsed
  cases read : readPadded payload payload.length (hasFlag flagBits Flags.DATA_PADDED) with
  | error fault =>
      rw [read] at parsed
      cases parsed
  | ok data =>
      rw [read] at parsed
      cases parsed
      exact length_readPadded read

/-! ## Frames on the wire -/

/-- A frame before it is parsed. -/
structure RawFrame where
  typeId : UInt8
  flagBits : UInt8
  streamId : UInt32
  payload : Bytes
  /-- The length field has 24 bits. -/
  short : payload.length < 2 ^ 24

namespace RawFrame

/-- The frame on the wire. -/
def bytes (raw : RawFrame) : Bytes :=
  be24 (UInt32.ofNat raw.payload.length) ++ raw.typeId :: raw.flagBits :: be32 raw.streamId ++
    raw.payload

def parse (raw : RawFrame) : Except Fault (Option Frame) :=
  parsePayload raw.typeId raw.flagBits (low31 raw.streamId) raw.payload

/-- The section of a frame.  One of an unknown type has none. -/
def action (raw : RawFrame) : Option Action :=
  match raw.parse with
  | .ok (some frame) => some (.frame frame)
  | .ok none => none
  | .error (.h2 err) => some (.corrupt err)
  | .error .panic => none

/-- A DATA frame with the PADDED flag. -/
def padded (raw : RawFrame) : Bool :=
  raw.typeId == FrameType.DATA && hasFlag raw.flagBits Flags.DATA_PADDED

/-- What the peer charges for a frame. -/
def charge (raw : RawFrame) : Nat := if raw.typeId = FrameType.DATA then raw.payload.length else 0

theorem scanFrame_bytes (raw : RawFrame) {maxFrameSize : Nat}
    (fits : raw.payload.length ≤ maxFrameSize) :
    scanFrame maxFrameSize raw.bytes =
      match raw.parse with
      | .error fault => .fail fault
      | .ok found => .item found [] := by
  have lengthRead : (UInt32.ofNat raw.payload.length).toNat % 2 ^ 24 = raw.payload.length := by
    have short := raw.short
    rw [UInt32.toNat_ofNat']
    omega
  simp only [bytes, be24, be32, List.cons_append, List.nil_append, scanFrame_cons, ofBe24_be24,
    lengthRead, Nat.not_lt_of_le fits, Nat.lt_irrefl, if_false, ofBe32_be32, List.take_length,
    List.drop_length]
  rfl

/-- A DATA frame that is not padded is charged for its bytes, and a padded one for
more. -/
theorem charge_data {raw : RawFrame} {id : UInt32} {bytes : Bytes} {endStream : Bool}
    (action : raw.action = some (.frame (.data id bytes endStream))) :
    bytes.length ≤ raw.charge ∧ (raw.charge = bytes.length ↔ raw.padded = false) := by
  have parsed : raw.parse = .ok (some (.data id bytes endStream)) := by
    unfold RawFrame.action at action
    split at action
    next frame parsed =>
      cases action
      exact parsed
    next => cases action
    next => cases action
    next => cases action
  obtain ⟨isData, parsed⟩ := parsePayload_data parsed
  have length := length_parseData parsed
  simp only [charge, padded, isData, if_true, beq_self_eq_true, Bool.true_and]
  split at length
  next padded =>
    rw [padded]
    exact ⟨length.le, by simp [Nat.ne_of_gt length]⟩
  next unpadded =>
    rw [Bool.eq_false_of_not_eq_true unpadded, length]
    exact ⟨le_rfl, by simp⟩

end RawFrame

/-- What happens to a client: a frame comes, or a section of its own runs. -/
inductive Input where
  | wire (raw : RawFrame)
  | own (action : Action) (isOwn : ∀ frame, action ≠ .frame frame)

namespace Input

def action : Input → Option Action
  | .wire raw => raw.action
  | .own action _ => some action

def padded : Input → Bool
  | .wire raw => raw.padded
  | .own .. => false

def charge : Input → Nat
  | .wire raw => raw.charge
  | .own .. => 0

theorem charge_data {x : Input} {id : UInt32} {bytes : Bytes} {endStream : Bool}
    (action : x.action = some (.frame (.data id bytes endStream))) :
    bytes.length ≤ x.charge ∧ (x.charge = bytes.length ↔ x.padded = false) := by
  cases x with
  | wire raw => exact RawFrame.charge_data action
  | own given isOwn =>
      cases action
      exact absurd rfl (isOwn _)

/-- Sections that are not about frames come from the client. -/
theorem eq_own {x : Input} {a : Action} (action : x.action = some a)
    (noFrame : ∀ frame, a ≠ .frame frame) (sound : ∀ err, a ≠ .corrupt err) :
    ∃ isOwn, x = .own a isOwn := by
  cases x with
  | wire raw =>
      change raw.action = some a at action
      unfold RawFrame.action at action
      split at action
      · cases action
        exact absurd rfl (noFrame _)
      · cases action
      · cases action
        exact absurd rfl (sound _)
      · cases action
  | own given isOwn =>
      cases action
      exact ⟨isOwn, rfl⟩

theorem framed {x : Input} {a : Action} (action : x.action = some a) : Client.Framed a := by
  cases a with
  | frame frame =>
      cases frame with
      | data id bytes endStream =>
          cases x with
          | wire raw =>
              have small := (RawFrame.charge_data action).1
              have most : raw.charge ≤ raw.payload.length := by
                unfold RawFrame.charge
                split
                · exact le_rfl
                · exact Nat.zero_le _
              exact (small.trans most).trans_lt raw.short
          | own given isOwn =>
              cases action
              exact absurd rfl (isOwn _)
      | _ => trivial
  | _ => trivial

end Input

namespace Client

def take (c : Client) (x : Input) : Client :=
  match x.action with
  | none => c
  | some a => c.step a

/-- A frame on the wire is taken as `on_bytes` takes its bytes. -/
theorem onBytes_bytes (c : Client) (raw : RawFrame) {maxFrameSize : Nat}
    (fits : raw.payload.length ≤ maxFrameSize) :
    (c.onBytes (.new maxFrameSize) raw.bytes).2 = c.take (.wire raw) := by
  have scanned : (frameScanner maxFrameSize).scan ([] ++ raw.bytes) = _ := raw.scanFrame_bytes fits
  have empty : (frameScanner maxFrameSize).drain [] = .ok ([], []) :=
    (frameScanner maxFrameSize).drain_more rfl
  unfold onBytes take Input.action RawFrame.action
  simp only [FrameDecoder.push, FrameDecoder.new]
  cases parsed : raw.parse with
  | error fault =>
      rw [parsed] at scanned
      rw [(frameScanner maxFrameSize).drain_fail scanned]
      cases fault <;> rfl
  | ok found =>
      rw [parsed] at scanned
      rw [(frameScanner maxFrameSize).drain_item scanned, empty]
      cases found with
      | none => rfl
      | some frame =>
          show (c.onFrames [frame]) = c.onFrame frame
          rw [onFrames]
          cases (c.dispatch frame).2 <;> rfl

/-- A run over inputs is a run of sections. -/
theorem run_take (c : Client) (inputs : List Input) :
    Machine.run take c inputs = Machine.run step c (inputs.filterMap Input.action) := by
  induction inputs generalizing c with
  | nil => rfl
  | cons x inputs ih =>
      rw [Machine.run_cons, ih, take]
      cases action : x.action with
      | none => rw [List.filterMap_cons_none action]
      | some a => rw [List.filterMap_cons_some action, Machine.run_cons]

/-! ## Places -/

variable {c d : Client}

/-- Where the bytes that a section moves belong: to a stream, or to nobody.  DATA
for a body that has ended is not taken at all. -/
def place (c : Client) : Action → Option (Option Nat)
  | .frame (.data id _ _) =>
      match c.streams.lookup id with
      | none => some none
      | some s => if (c.cells s.cell).recv.ended then none else some (some s.cell)
  | .read k => some (some k)
  | .dropBody k => if (c.cells k).holder = .reading then some (some k) else none
  | _ => none

def placeOf (c : Client) (x : Input) : Option (Option Nat) := x.action.bind c.place

/-- The bytes a place holds.  Nobody holds none, and neither does a dropped body. -/
def heldAt (c : Client) : Option Nat → Nat
  | none => 0
  | some k => if k < c.desk.opened then c.desk.held 0 k else 0

/-- The increments of the connection window that a section sends. -/
def granted (c : Client) (x : Input) : Nat := returned 0 ((c.take x).history.drop c.history.length)

/-- What a place gets back in a section. -/
def paidTo (here : Option Nat) (c : Client) (x : Input) : Nat :=
  if c.placeOf x = some here then c.granted x else 0

/-- What a place is charged in a section. -/
def chargedTo (here : Option Nat) (c : Client) (x : Input) : Nat :=
  if c.placeOf x = some here then x.charge else 0

end Client

/-- The octets of a DATA frame that are not data. -/
def Input.padding (x : Input) : Nat :=
  match x.action with
  | some (.frame (.data _ bytes _)) => x.charge - bytes.length
  | _ => 0

namespace Client

variable {c d e : Client}

/-- What a WINDOW_UPDATE is too small for. -/
def cutOff (c : Client) (x : Input) : Nat :=
  match x with
  | .own (.dropBody k) _ => (c.cells k).recv.buffered - (c.cells k).recv.buffered % 2 ^ 31
  | _ => 0

/-- What a place loses in a section. -/
def lostAt (here : Option Nat) (c : Client) (x : Input) : Nat :=
  if c.placeOf x = some here then x.padding + c.cutOff x else 0

theorem Still.heldAt (still : Still c d) (here : Option Nat) : d.heldAt here = c.heldAt here := by
  cases here with
  | none => rfl
  | some k =>
      simp only [Client.heldAt]
      by_cases old : k < c.desk.opened
      · obtain ⟨holder, shelf⟩ := still.shelves k old
        rw [if_pos old, if_pos (old.trans_le still.opened)]
        exact Desk.held_congr (by rw [shelf]) (by rw [shelf]) (still.dropped k)
      · rw [if_neg old]
        split
        next below => rw [Desk.held, (still.new k (Nat.le_of_not_lt old) below).2, ite_self]
        next => rfl

/-- The shelf of one stream changes, and only that stream moves. -/
theorem heldAt_shelve {k : Nat} {shelf : Shelf}
    (desk : d.desk = { c.desk with shelves := Function.update c.desk.shelves k shelf })
    {here : Option Nat} (ne : here ≠ some k) : d.heldAt here = c.heldAt here := by
  cases here with
  | none => rfl
  | some j =>
      have opened : d.desk.opened = c.desk.opened := by rw [desk]
      have same := Desk.held_shelve desk 0 j (by simpa using ne)
      simp only [heldAt, opened, same]

/-- What that stream holds changes by what was paid, received and lost. -/
theorem heldAt_move {k loss : Nat} {shelf : Shelf}
    (desk : d.desk = { c.desk with shelves := Function.update c.desk.shelves k shelf })
    (below : k < c.desk.opened) (settles : Settles 0 c d loss) :
    d.heldAt (some k) + returned 0 d.history + loss + received 0 c.history =
      c.heldAt (some k) + returned 0 c.history + received 0 d.history := by
  have opened : d.desk.opened = c.desk.opened := by rw [desk]
  have moved := Desk.unread_move opened below (Desk.held_shelve desk 0)
  rw [Settles] at settles
  simp only [heldAt, opened, below, if_true]
  omega

theorem returned_step (attended : Attended c) {x : Input} {a : Action} (action : x.action = some a) :
    returned 0 (c.step a).history = returned 0 c.history + c.granted x := by
  have turns := attended.turns a
  obtain ⟨events, history⟩ := history_turns turns
  simp only [granted, take, action]
  rw [← history, List.drop_left, returned_append]

/-- The account of a place over a section: what it holds, gets back or loses is what
it held or is charged. -/
def Balances (here : Option Nat) (c : Client) (x : Input) : Prop :=
  (c.take x).heldAt here + paidTo here c x + lostAt here c x = c.heldAt here + chargedTo here c x

namespace Balances

variable {here : Option Nat} {x : Input}

/-- The section has its place elsewhere. -/
theorem elsewhere (ne : c.placeOf x ≠ some here) (same : (c.take x).heldAt here = c.heldAt here) :
    Balances here c x := by
  rw [Balances, paidTo, lostAt, chargedTo, if_neg ne, if_neg ne, if_neg ne, same]

theorem at_place (placed : c.placeOf x = some here)
    (account : (c.take x).heldAt here + c.granted x + (x.padding + c.cutOff x) =
      c.heldAt here + x.charge) : Balances here c x := by
  rw [Balances, paidTo, lostAt, chargedTo, if_pos placed, if_pos placed, if_pos placed]
  exact account

/-- Only reading has a place where nothing moves. -/
theorem still (attended : Attended c) {a : Action} (action : x.action = some a)
    (noData : ∀ id bytes endStream, a ≠ .frame (.data id bytes endStream))
    (noDrop : ∀ k, a = .dropBody k → (c.cells k).holder ≠ .reading)
    (still : Still c (c.step a)) : Balances here c x := by
  have state : c.take x = c.step a := by simp only [take, action]
  have placed : c.placeOf x = c.place a := by simp only [placeOf, action, Option.bind_some]
  have same : (c.take x).heldAt here = c.heldAt here := state ▸ still.heldAt here
  have unplaced (none : c.place a = .none) : Balances here c x :=
    elsewhere (by rw [placed, none]; simp) same
  cases a with
  | frame frame =>
      cases frame with
      | data id bytes endStream => exact absurd rfl (noData id bytes endStream)
      | _ => exact unplaced rfl
  | read k =>
      by_cases own : here = some k
      · subst own
        have paid := returned_step attended action
        rw [still.returned] at paid
        obtain ⟨isOwn, rfl⟩ := Input.eq_own action (by simp) (by simp)
        refine at_place placed ?_
        show (c.take _).heldAt _ + c.granted _ + (0 + 0) = c.heldAt _ + 0
        omega
      · refine elsewhere ?_ same
        rw [placed]
        simpa [place] using Ne.symm own
  | dropBody k => exact unplaced (by simp only [place, noDrop k rfl, if_false])
  | _ => exact unplaced rfl

theorem data (solvent : Solvent c) {id : UInt32} {bytes : Bytes} {endStream : Bool}
    (action : x.action = some (.frame (.data id bytes endStream)))
    (live : c.closed = false)
    (still : Still (c.receiveDataFrame id bytes endStream)
      (c.step (.frame (.data id bytes endStream)))) : Balances here c x := by
  have attended := solvent.attended
  have state : c.take x = c.step (.frame (.data id bytes endStream)) := by simp only [take, action]
  have placed : c.placeOf x = c.place (.frame (.data id bytes endStream)) := by
    simp only [placeOf, action, Option.bind_some]
  have held (here : Option Nat) :
      (c.take x).heldAt here = (c.receiveDataFrame id bytes endStream).heldAt here :=
    state ▸ still.heldAt here
  have paid := returned_step attended action
  rw [still.returned] at paid
  have received : received 0 (c.receiveDataFrame id bytes endStream).history =
      received 0 c.history + bytes.length := c.received_receiveDataFrame id bytes endStream 0
  have most := (Input.charge_data action).1
  have padding : x.padding = x.charge - bytes.length := by simp only [Input.padding, action]
  have uncut : c.cutOff x = 0 := by
    unfold cutOff
    split
    · cases action
    · rfl
  cases found : c.streams.lookup id with
  | none =>
      have desk := desk_receiveDataFrame_none found bytes endStream
      have placed : c.placeOf x = some none := by simp only [placed, place, found]
      cases here with
      | none =>
          -- The bytes are returned at once.
          have small : bytes.length < 2 ^ 24 := Input.framed action
          obtain ⟨loss, settles, none⟩ := credit_discard found bytes endStream 0
          rw [none rfl live (solvent.live live).1 (by omega), Settles, desk] at settles
          refine at_place placed ?_
          show 0 + c.granted x + (x.padding + c.cutOff x) = 0 + x.charge
          omega
      | some k =>
          refine elsewhere (by rw [placed]; simp) ?_
          rw [held]
          simp only [heldAt, desk]
  | some s =>
      have desk := desk_receiveDataFrame found bytes endStream
      obtain ⟨below, -, fits⟩ := attended.served.mapped id s found
      cases ended : (c.cells s.cell).recv.ended with
      | true =>
          have placed : c.placeOf x = none := by simp only [placed, place, found, ended, if_true]
          refine elsewhere (by rw [placed]; simp) ((held here).trans ?_)
          by_cases own : here = some s.cell
          · have shelf : (c.receiveDataFrame id bytes endStream).desk.shelves s.cell =
                c.desk.shelves s.cell := by
              rw [desk]
              simp [RecvState.receiveData, ended, Client.desk, Cell.shelf]
            have same : (c.receiveDataFrame id bytes endStream).desk.held 0 s.cell =
                c.desk.held 0 s.cell := Desk.held_same shelf (by rw [desk]; rfl)
            have opened : (c.receiveDataFrame id bytes endStream).desk.opened = c.desk.opened := by
              rw [desk]
            simp only [own, heldAt, opened, same]
          · exact heldAt_shelve desk own
      | false =>
          have placed : c.placeOf x = some (some s.cell) := by
            simp only [placed, place, found, ended, Bool.false_eq_true, if_false]
          by_cases own : here = some s.cell
          · subst own
            have alive : c.desk.bodyDropped s.cell = false := by
              by_contra dropped
              rw [solvent.quit id s found (by simpa using dropped)] at ended
              cases ended
            obtain ⟨loss, settles, none⟩ := credit_receive attended.served found bytes endStream 0
            rw [none ended alive] at settles
            have moved := heldAt_move desk below settles
            refine at_place placed ?_
            rw [held]
            omega
          · refine elsewhere (by rw [placed]; simpa using Ne.symm own) ((held here).trans ?_)
            exact heldAt_shelve desk own

theorem read (solvent : Solvent c) {k : Nat} {bytes : Bytes} {queue : List Bytes}
    (action : x.action = some (.read k)) (live : c.closed = false)
    (reading : (c.cells k).holder = .reading) (queued : (c.cells k).recv.queue = bytes :: queue)
    (after : c.step (.read k) = (c.yieldTo k { (c.cells k).recv with
        queue := queue
        buffered := (c.cells k).recv.buffered - bytes.length } (.chunk bytes)).replenishRecvWindow
      (c.cells k).id bytes.length) : Balances here c x := by
  have state : c.take x = c.step (.read k) := by simp only [take, action]
  have placed : c.placeOf x = some (some k) := by simp only [placeOf, action, Option.bind_some, place]
  have desk := c.desk_chunk k { (c.cells k).recv with
    queue := queue
    buffered := (c.cells k).recv.buffered - bytes.length } (.chunk bytes) (c.cells k).id bytes.length
  by_cases own : here = some k
  · subst own
    obtain ⟨outTx, short⟩ := solvent.live live
    have below := (solvent.attended.staffed.reading k reading).1
    have small : bytes.length < 2 ^ 31 := by
      refine short k below bytes ?_
      show bytes ∈ (c.cells k).recv.queue
      rw [queued]
      exact .head _
    obtain ⟨loss, settles, received, none⟩ :=
      credit_chunk solvent.attended.staffed reading queued 0
    rw [none rfl live outTx small] at settles
    have moved := heldAt_move desk below settles
    rw [← after, ← state] at moved received
    have paid := returned_step solvent.attended action
    rw [← state] at paid
    obtain ⟨isOwn, rfl⟩ := Input.eq_own action (by simp) (by simp)
    refine at_place placed ?_
    show (c.take _).heldAt _ + c.granted _ + (0 + 0) = c.heldAt _ + 0
    omega
  · refine elsewhere (by rw [placed]; simpa using Ne.symm own) ?_
    rw [state, after]
    exact heldAt_shelve desk own

theorem drop (solvent : Solvent c) {k : Nat} (action : x.action = some (.dropBody k))
    (live : c.closed = false) (reading : (c.cells k).holder = .reading) : Balances here c x := by
  have state : c.take x = c.dropBody k := by
    simp only [take, action]
    rfl
  have placed : c.placeOf x = some (some k) := by
    simp only [placeOf, action, Option.bind_some, place, reading, if_true]
  have desk := desk_dropBody reading
  by_cases own : here = some k
  · subst own
    have below := (solvent.attended.staffed.reading k reading).1
    obtain ⟨loss, settles, received, lost⟩ := credit_dropBody solvent.attended.staffed reading 0
    rw [lost rfl live (solvent.live live).1] at settles
    have moved := heldAt_move desk below settles
    rw [← state] at moved received
    have paid := returned_step solvent.attended action
    rw [show c.step (.dropBody k) = c.take x from state.symm] at paid
    obtain ⟨isOwn, rfl⟩ := Input.eq_own action (by simp) (by simp)
    refine at_place placed ?_
    show (c.take _).heldAt _ + c.granted _ +
      (0 + ((c.cells k).recv.buffered - (c.cells k).recv.buffered % 2 ^ 31)) = c.heldAt _ + 0
    omega
  · refine elsewhere (by rw [placed]; simpa using Ne.symm own) ?_
    rw [state]
    exact heldAt_shelve desk own

end Balances

/-- On an open connection the account of every place balances. -/
theorem balances_take (solvent : Solvent c) {x : Input} (live : (c.take x).closed = false)
    (here : Option Nat) : Balances here c x := by
  cases action : x.action with
  | none =>
      refine .elsewhere (by simp [placeOf, action]) ?_
      simp only [take, action]
  | some a =>
      have attended := solvent.attended
      simp only [take, action] at live
      have turns := attended.turns a
      have before := (live_turns turns live).1
      rcases moves_cases attended live with ⟨noData, noDrop, still⟩ |
        ⟨id, bytes, endStream, rfl, still⟩ | ⟨k, bytes, queue, rfl, reading, queued, after⟩ |
        ⟨k, rfl, reading, -⟩
      · exact .still attended action noData noDrop still
      · exact .data solvent action before still
      · exact .read solvent action before reading queued after
      · exact .drop solvent action before reading

/-! ## Runs -/

/-- DATA is not padded, and a body is not dropped that holds `2^31` bytes. -/
def Whole (c : Client) (x : Input) : Prop :=
  x.padded = false ∧
    match x with
    | .own (.dropBody k) _ => (c.cells k).recv.buffered < 2 ^ 31
    | _ => True

theorem lostAt_eq_zero {here : Option Nat} {x : Input} :
    lostAt here c x = 0 ↔ (c.placeOf x = some here → Whole c x) := by
  unfold lostAt
  split
  next placed =>
    simp only [placed, true_imp_iff]
    cases x with
    | wire raw =>
        -- Only DATA has a place.
        obtain ⟨id, bytes, endStream, action⟩ : ∃ id bytes endStream,
            (Input.wire raw).action = some (.frame (.data id bytes endStream)) := by
          simp only [placeOf, Option.bind_eq_some_iff] at placed
          obtain ⟨a, action, placed⟩ := placed
          by_cases isOwn : ∀ frame, a ≠ .frame frame
          · by_cases sound : ∀ err, a ≠ .corrupt err
            · obtain ⟨_, same⟩ := Input.eq_own action isOwn sound
              cases same
            · obtain ⟨err, rfl⟩ := by simpa using sound
              cases placed
          · obtain ⟨frame, rfl⟩ := by simpa using isOwn
            cases frame with
            | data id bytes endStream => exact ⟨id, bytes, endStream, action⟩
            | _ => cases placed
        have charge := Input.charge_data action
        have padding : (Input.wire raw).padding = (Input.wire raw).charge - bytes.length := by
          simp only [Input.padding, action]
        simp only [Whole, and_true, ← charge.2, padding, cutOff]
        omega
    | own a isOwn =>
        cases a with
        | frame frame => exact absurd rfl (isOwn frame)
        | dropBody k =>
            show 0 + ((c.cells k).recv.buffered - (c.cells k).recv.buffered % 2 ^ 31) = 0 ↔
              false = false ∧ (c.cells k).recv.buffered < 2 ^ 31
            simp only [true_and]
            omega
        | _ => exact ⟨fun _ => ⟨rfl, trivial⟩, fun _ => rfl⟩
  next elsewhere => simp [elsewhere]

theorem solvent_take (solvent : Solvent c) (x : Input) : Solvent (c.take x) := by
  unfold take
  cases action : x.action with
  | none => exact solvent
  | some a => exact solvent_step solvent (Input.framed action)

theorem live_take (attended : Attended c) {x : Input} (live : (c.take x).closed = false) :
    c.closed = false := by
  unfold take at live
  cases action : x.action with
  | none => simpa only [action] using live
  | some a =>
      simp only [action] at live
      have turns := attended.turns a
      exact (live_turns turns live).1

/-- A place that holds nothing any more was repaid what it was charged, exactly if
nothing that came for it was padded, and what was dropped was less than `2^31`
bytes. -/
theorem repaid_iff (options : ConnectOptions) {inputs : List Input} {here : Option Nat}
    (live : (Machine.run take (connect options) inputs).closed = false)
    (consumed : (Machine.run take (connect options) inputs).heldAt here = 0) :
    Machine.total take (paidTo here) (connect options) inputs =
        Machine.total take (chargedTo here) (connect options) inputs ↔
      Machine.Along take (fun c x => c.placeOf x = some here → Whole c x) (connect options)
        inputs := by
  have along := Machine.along_of_last (P := Solvent) (fun _ x solvent => solvent_take solvent x)
    (fun _ _ solvent live => live_take solvent.attended live) (solvent_connect options) live
  have balance := @Machine.total_balance _ _ take Solvent _ (fun c => c.heldAt here) (paidTo here)
    (lostAt here) (chargedTo here) (fun _ x solvent => solvent_take solvent x)
    (fun _ _ solvent live => balances_take solvent live here) _ (solvent_connect options) _ along
  have start : (connect options).heldAt here = 0 := by
    cases here with
    | none => rfl
    | some k =>
        simp only [heldAt, desk_connect]
        rfl
  have whole : (fun c x => c.placeOf x = some here → Whole c x) =
      fun c x => lostAt here c x = 0 := by
    funext c x
    exact propext lostAt_eq_zero.symm
  rw [whole, ← Machine.total_eq_zero]
  omega

/-- A request on stream 1. -/
def requestInput : Input := .own (.request (.bare .empty)) nofun

/-- HEADERS with status 200. -/
def headInput : Input := .wire ⟨FrameType.HEADERS, Flags.HEADERS_END_HEADERS, 1, [0x88], by decide⟩

def pollInput : Input := .own (.pollCall 0) nofun

def readInput : Input := .own (.read 0) nofun

/-- Three bytes come without padding, and are read. -/
def unpaddedRun : List Input :=
  [requestInput, headInput, pollInput, .wire ⟨FrameType.DATA, 0, 1, [1, 2, 3], by decide⟩, readInput]

theorem repaid_unpadded :
    Machine.total take (paidTo (some 0)) (connect {}) unpaddedRun = 3 ∧
      Machine.total take (paidTo (some 0)) (connect {}) unpaddedRun =
        Machine.total take (chargedTo (some 0)) (connect {}) unpaddedRun := by
  have whole : Machine.Along take (fun c x => c.placeOf x = some (some 0) → Whole c x) (connect {})
      unpaddedRun :=
    ⟨fun _ => ⟨rfl, trivial⟩, fun _ => ⟨rfl, trivial⟩, fun _ => ⟨rfl, trivial⟩,
      fun _ => ⟨rfl, trivial⟩, fun _ => ⟨rfl, trivial⟩, trivial⟩
  exact ⟨by decide +kernel, (repaid_iff {} (by decide +kernel) (by decide +kernel)).mpr whole⟩

/-- One byte comes with three octets of padding, and is read. -/
def paddedRun : List Input :=
  [requestInput, headInput, pollInput,
    .wire ⟨FrameType.DATA, Flags.DATA_PADDED, 1, [3, 1, 0, 0, 0], by decide⟩, readInput]

/-- One octet is returned of the five that were charged. -/
theorem not_repaid_padded :
    (Machine.run take (connect {}) paddedRun).closed = false ∧
      (Machine.run take (connect {}) paddedRun).heldAt (some 0) = 0 ∧
      Machine.total take (paidTo (some 0)) (connect {}) paddedRun = 1 ∧
      Machine.total take (chargedTo (some 0)) (connect {}) paddedRun = 5 := by
  decide +kernel

end Client

end H2ts
