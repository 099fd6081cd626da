import H2ts.Typescript.Sections

/-!
# The connection window of the TypeScript client

`connSendWindow` is an account.  It is never overdrawn, and a DATA frame is within both windows
and the frame size of the peer.  Its value with the DATA that was sent is what the peer has
granted, as long as that is at most `2^53`; above that the sums of a double are rounded
(`within_credit`).

Only two sections touch the account: the dispatch of a WINDOW_UPDATE for the connection, and
the part of an upload that sends (`Spends`).  All others leave it alone (`Spares`).
-/

namespace H2ts

namespace Typescript

open Hpack

/-- The bytes that count against the windows. -/
def Frame.payload : Frame → Nat
  | .data _ bytes _ => bytes.length
  | _ => 0

/-- An increment on the wire is not negative. -/
def Action.Grants : Action → Prop
  | .frame (.windowUpdate _ increment) => 0 ≤ increment
  | _ => True

/-- The parser masks the sign. -/
theorem grants_parseWindowUpdate {streamId : Int} {payload : Bytes} {frame : Frame}
    (parsed : parseWindowUpdate streamId payload = .ok frame) : (Action.frame frame).Grants := by
  have masked (n : Int) : 0 ≤ Js.band n 0x7fffffff := by
    have small : (Js.int32 n &&& Js.int32 0x7fffffff).toNat ≤ 0x7fffffff := by
      rw [BitVec.toNat_and]
      exact Nat.and_le_right
    rw [Js.band, BitVec.toInt_eq_toNat_of_lt (by omega)]
    exact Int.natCast_nonneg _
  unfold parseWindowUpdate at parsed
  split at parsed
  · cases parsed
  · dsimp only at parsed
    cases read : ByteReader.u32 ⟨payload, 0⟩ with
    | error thrown =>
        rw [read] at parsed
        cases parsed
    | ok found =>
        rw [read] at parsed
        cases parsed
        exact masked found.1

/-- A WINDOW_UPDATE is one that was parsed. -/
def Action.Parsed : Action → Prop
  | .frame (.windowUpdate id increment) =>
      ∃ payload, parseWindowUpdate id payload = .ok (.windowUpdate id increment)
  | _ => True

theorem grants_of_parsed {a : Action} (parsed : a.Parsed) : a.Grants := by
  cases a with
  | frame frame =>
      cases frame with
      | windowUpdate id increment =>
          obtain ⟨payload, read⟩ := parsed
          exact grants_parseWindowUpdate read
      | _ => trivial
  | _ => trivial

namespace H2Connection

variable {D : Type} {coder : Coder D} {c d e : H2Connection D}

/-! ## Sections that leave the account alone -/

/-- The window stays, and no DATA with bytes in it is sent. -/
structure Spares (c d : H2Connection D) : Prop where
  window : d.connSendWindow.available = c.connSendWindow.available
  sent : ∃ frames, d.out = c.out ++ frames ∧ ∀ f ∈ frames, f.payload = 0

namespace Spares

theorem quiet (window : d.connSendWindow.available = c.connSendWindow.available) (out : d.out = c.out) :
    Spares c d :=
  ⟨window, [], by rw [out, List.append_nil], fun _ mem => absurd mem List.not_mem_nil⟩

theorem refl (c : H2Connection D) : Spares c c := quiet rfl rfl

theorem trans (first : Spares c d) (later : Spares d e) : Spares c e := by
  obtain ⟨window, frames, out, free⟩ := first
  obtain ⟨window', frames', out', free'⟩ := later
  refine ⟨window'.trans window, frames ++ frames', ?_, fun f mem => ?_⟩
  · rw [out', out, List.append_assoc]
  · rcases List.mem_append.mp mem with mem | mem
    · exact free f mem
    · exact free' f mem

/-- Changes before, of which the account knows nothing. -/
theorem after (later : Spares d e) (window : d.connSendWindow.available = c.connSendWindow.available)
    (out : d.out = c.out) : Spares c e :=
  (quiet window out).trans later

theorem send (c : H2Connection D) {frame : Frame} (free : frame.payload = 0) : Spares c (c.send frame) := by
  unfold H2Connection.send
  split
  · exact refl c
  · refine ⟨rfl, [frame], rfl, fun f mem => ?_⟩
    rw [List.mem_singleton.mp mem]
    exact free

theorem sends (c : H2Connection D) {frames : List Frame} (free : ∀ f ∈ frames, f.payload = 0) :
    Spares c (frames.foldl H2Connection.send c) := by
  induction frames generalizing c with
  | nil => exact refl c
  | cons frame frames ih =>
      exact (send c (free frame (.head _))).trans (ih _ fun other mem => free other (.tail _ mem))

theorem resetStream (c : H2Connection D) (id : Int) (code : ErrorCode) :
    Spares c (c.resetStream id code) := by
  have told : Spares c (c.send (.rstStream id code.value.toNat)) := send c rfl
  unfold H2Connection.resetStream
  dsimp only
  split
  · exact told
  · exact told.trans (quiet rfl rfl)

theorem retireIfFullyClosed (c : H2Connection D) (id : Int) : Spares c (c.retireIfFullyClosed id) := by
  unfold H2Connection.retireIfFullyClosed
  split
  · exact refl c
  · split <;> exact quiet rfl rfl

theorem replenishRecvWindow (c : H2Connection D) (id : Int) (n : Nat) :
    Spares c (c.replenishRecvWindow id n) := by
  unfold H2Connection.replenishRecvWindow
  split
  · exact refl c
  · have own : Spares c (if id ∈ c.streams then c.send (.windowUpdate id n) else c) := by
      split
      · exact send c rfl
      · exact refl c
    exact own.trans (send _ rfl)

theorem destroy (c : H2Connection D) (err : Reason) : Spares c (c.destroy err) := by
  unfold H2Connection.destroy
  split
  · exact refl c
  · exact quiet rfl rfl

theorem connectionError (c : H2Connection D) (thrown : Thrown) : Spares c (c.connectionError thrown) :=
  (send c rfl).trans (destroy _ _)

theorem applyRemoteSettings (c : H2Connection D) (s : Settings) : Spares c (c.applyRemoteSettings s).1 := by
  have initial : Spares c (c.applyInitialWindowSize s.initialWindowSize).1 := by
    unfold applyInitialWindowSize
    split
    · exact refl c
    · split <;> exact quiet rfl rfl
  have framed (c : H2Connection D) : Spares c (c.applyMaxFrameSize s.maxFrameSize).1 := by
    unfold applyMaxFrameSize
    split
    · exact refl c
    · split <;> exact quiet rfl rfl
  have others (c : H2Connection D) : Spares c (c.applyOtherSettings s) := by
    unfold applyOtherSettings
    dsimp only
    split <;> exact quiet rfl rfl
  unfold H2Connection.applyRemoteSettings
  generalize c.applyInitialWindowSize s.initialWindowSize = result at initial ⊢
  obtain ⟨c', thrown | done⟩ := result
  · exact initial
  · have second := framed c'
    dsimp only
    generalize c'.applyMaxFrameSize s.maxFrameSize = result at second ⊢
    obtain ⟨c'', thrown | done⟩ := result
    · exact initial.trans second
    · exact (initial.trans second).trans (others c'')

theorem handlePush (c : H2Connection D) (promisedId : Int) : Spares c (c.handlePush promisedId) := by
  have noted : Spares c
    (if promisedId > c.highestPromised then { c with highestPromised := promisedId } else c) := by
    split <;> exact quiet rfl rfl
  unfold H2Connection.handlePush
  dsimp only
  generalize (if promisedId > c.highestPromised then { c with highestPromised := promisedId } else c) =
    u at noted ⊢
  split
  · exact noted.trans (send u rfl)
  · exact noted.trans (quiet rfl rfl)

theorem takeHeaderBlock (c : H2Connection D) (pb : PendingHeaderBlock) (headers : List Header) :
    Spares c (c.takeHeaderBlock pb headers) := by
  unfold H2Connection.takeHeaderBlock
  split
  · unfold receiveResponse
    split
    · exact refl c
    · dsimp only
      split
      · exact (retireIfFullyClosed _ _).after rfl rfl
      · exact quiet rfl rfl
  · exact handlePush c _

theorem growHeaderBlock (coder : Coder D) (c : H2Connection D) (pb : PendingHeaderBlock) (endHeaders : Bool) :
    Spares c (c.growHeaderBlock coder pb endHeaders).1 := by
  unfold H2Connection.growHeaderBlock
  dsimp only
  split
  · exact quiet rfl rfl
  · split
    · unfold completeHeaderBlock
      dsimp only
      split
      · exact quiet rfl rfl
      · exact (takeHeaderBlock _ pb _).after rfl rfl
    · exact quiet rfl rfl

theorem receiveData (c : H2Connection D) (id : Int) (data : Bytes) (endStream : Bool) :
    Spares c (c.receiveData id data endStream) := by
  unfold H2Connection.receiveData
  split
  · dsimp only
    split
    · exact (retireIfFullyClosed _ _).after rfl rfl
    · exact quiet rfl rfl
  · split
    · exact send c rfl
    · exact refl c

theorem receiveGoaway (c : H2Connection D) (lastStreamId errorCode : Int) :
    Spares c (c.receiveGoaway lastStreamId errorCode) := by
  have deleted (c : H2Connection D) (ids : List Int) : Spares c (ids.foldl deleteStream c) := by
    induction ids generalizing c with
    | nil => exact refl c
    | cons id ids ih => exact (ih (c.deleteStream id)).after rfl rfl
  have woken (c : H2Connection D) (ids : List Int) : Spares c (ids.foldl deleteStream c).wakeStreamSlots :=
    (deleted c ids).trans (quiet rfl rfl)
  unfold H2Connection.receiveGoaway
  dsimp only
  split
  · exact ((woken _ _).trans (destroy _ _)).after rfl rfl
  · exact (woken _ _).after rfl rfl

/-- A frame that grants nothing on the connection. -/
theorem dispatchFrame (coder : Coder D) (c : H2Connection D) {frame : Frame}
    (other : ∀ increment, frame ≠ .windowUpdate 0 increment) : Spares c (c.dispatchFrame coder frame).1 := by
  cases frame with
  | settings ack settings =>
      rw [H2Connection.dispatchFrame]
      split
      · exact refl c
      · have applied := applyRemoteSettings c settings
        generalize c.applyRemoteSettings settings = result at applied ⊢
        obtain ⟨c', thrown | done⟩ := result
        · exact applied
        · exact applied.trans (send c' rfl)
  | headers id fragment endStream endHeaders priority => exact growHeaderBlock coder c _ _
  | continuation id fragment endHeaders =>
      rw [H2Connection.dispatchFrame]
      split
      · exact refl c
      · split
        · exact growHeaderBlock coder c _ _
        · exact refl c
  | pushPromise id promised fragment endHeaders => exact growHeaderBlock coder c _ _
  | data id data endStream => exact receiveData c id data endStream
  | rstStream id errorCode =>
      show Spares c (c.receiveRstStream id errorCode)
      unfold receiveRstStream
      split <;> exact quiet rfl rfl
  | windowUpdate id increment =>
      have stream : id ≠ 0 := by
        rintro rfl
        exact other increment rfl
      show Spares c (c.receiveWindowUpdate id increment).1
      unfold receiveWindowUpdate
      rw [if_neg stream, if_neg stream]
      split
      · exact resetStream c id _
      · split <;> exact quiet rfl rfl
  | ping ack opaqueData =>
      show Spares c (c.receivePing ack opaqueData)
      unfold receivePing
      split
      · split <;> exact quiet rfl rfl
      · exact send c rfl
  | goaway lastStreamId errorCode debugData => exact receiveGoaway c lastStreamId errorCode
  | priority id priority => exact refl c

theorem payload_headerFrames (id : Int) (max : Nat) (block : Bytes) (endStream : Bool) :
    ∀ f ∈ headerFrames id max block endStream, f.payload = 0 := by
  have continued (fuel : Nat) (rest : Bytes) : ∀ f ∈ continuationFrames id max fuel rest, f.payload = 0 := by
    induction fuel generalizing rest with
    | zero =>
        intro f mem
        exact absurd mem List.not_mem_nil
    | succ fuel ih =>
        intro f mem
        rw [continuationFrames] at mem
        split at mem
        · exact absurd mem List.not_mem_nil
        · rcases List.mem_cons.mp mem with rfl | mem
          · rfl
          · exact ih _ f mem
  intro f mem
  unfold headerFrames at mem
  split at mem
  · rw [List.mem_singleton.mp mem]
    rfl
  · rcases List.mem_cons.mp mem with rfl | mem
    · rfl
    · exact continued _ _ f mem

theorem openStream (coder : Coder D) (c : H2Connection D) (i : Nat) (init : H2RequestInit) :
    Spares c (c.openStream coder i init) := by
  unfold H2Connection.openStream
  split
  · have reset : Spares c (c.reserve.resetStream c.nextStreamId .cancel) := (resetStream _ _ _).after rfl rfl
    exact reset.trans (quiet rfl rfl)
  · have listening : Spares c (if init.signal then
        { c.reserve with listeners := Function.update c.reserve.listeners i (some c.made) }
        else c.reserve) := by
      split <;> exact quiet rfl rfl
    exact (listening.trans (sends _ (payload_headerFrames _ _ _ _))).trans (quiet rfl rfl)

theorem tryOpen (coder : Coder D) (c : H2Connection D) (i : Nat) (init : H2RequestInit) :
    Spares c (c.tryOpen coder i init) := by
  unfold H2Connection.tryOpen
  split
  · exact openStream coder c i init
  · split <;> exact quiet rfl rfl

theorem resume (coder : Coder D) (c : H2Connection D) (i : Nat) : Spares c (c.resume coder i) := by
  unfold H2Connection.resume
  split
  · split
    · exact refl c
    · exact tryOpen coder c i _
    · exact quiet rfl rfl
  · split
    · exact refl c
    · exact tryOpen coder c i _
  · split <;> exact quiet rfl rfl
  · exact refl c

theorem abort (c : H2Connection D) (i : Nat) : Spares c (c.abort i) := by
  unfold H2Connection.abort
  dsimp only
  split
  · exact quiet rfl rfl
  · split
    · exact (resetStream _ _ _).after rfl rfl
    · exact quiet rfl rfl

theorem pumpChunk (c : H2Connection D) (k : Nat) (chunk : Bytes) (offset : Nat) (rest : List Bytes) :
    Spares c (c.pumpChunk k chunk offset rest) := by
  unfold H2Connection.pumpChunk
  split
  · split <;> exact quiet rfl rfl
  · exact quiet rfl rfl

theorem pumpThrow (c : H2Connection D) (k : Nat) (reason : Reason) : Spares c (c.pumpThrow k reason) := by
  have failed : Spares c (let failing := c.modify k fun s => { s.fail reason with pump := .none }
      if (c.objects k).id ∈ failing.streams then failing.resetStream
        (c.objects k).id .cancel else failing) := by
    dsimp only
    split
    · exact (resetStream _ _ _).after rfl rfl
    · exact quiet rfl rfl
  unfold H2Connection.pumpThrow
  dsimp only
  split
  · exact failed
  · exact failed
  · exact failed
  · exact refl c

theorem pull (c : H2Connection D) (k : Nat) : Spares c (c.pull k) := by
  unfold H2Connection.pull
  dsimp only
  split
  · split
    · exact (replenishRecvWindow _ _ _).after rfl rfl
    · split <;> exact quiet rfl rfl
  · exact refl c

theorem cancel (c : H2Connection D) (k : Nat) : Spares c (c.cancel k) := by
  unfold H2Connection.cancel
  dsimp only
  split
  · have returned : Spares c ((c.modify k fun s => { s with
        bodyDone := true, recvBuffered := 0, recvQueue := [] }).replenishRecvWindow (c.objects k).id
          (c.objects k).recvBuffered) :=
      (replenishRecvWindow _ _ _).after rfl rfl
    split
    · exact returned.trans (resetStream _ _ _)
    · exact returned
  · exact refl c

theorem cancelPush (c : H2Connection D) (j : Nat) : Spares c (c.cancelPush j) := by
  unfold H2Connection.cancelPush
  split
  · exact refl c
  · exact resetStream c _ _

theorem ping (c : H2Connection D) : Spares c c.ping := by
  unfold H2Connection.ping
  dsimp only
  split
  · exact quiet rfl rfl
  · exact (send _ rfl).after rfl rfl

theorem close (c : H2Connection D) : Spares c c.close := by
  unfold H2Connection.close
  split
  · exact refl c
  · exact (send c rfl).trans (quiet rfl rfl)

theorem finishClose (c : H2Connection D) : Spares c c.finishClose := by
  unfold H2Connection.finishClose
  split
  · exact refl c
  · exact (destroy _ _).after rfl rfl

theorem writeFailed (c : H2Connection D) (reason : Reason) : Spares c (c.writeFailed reason) := by
  have refused : Spares c (if c.ready = .pending then { c with ready := .rejected reason } else c) := by
    split <;> exact quiet rfl rfl
  exact refused.trans (destroy _ _)

end Spares

/-! ## Sections that move it -/

/-- A DATA frame with bytes in it comes from an upload, and is within both windows and the frame
size of the peer. -/
def Permitted (c : H2Connection D) (f : Frame) : Prop :=
  f.payload = 0 ∨ ∃ k data, f = .data (c.objects k).id data false ∧
    (data.length : Int) ≤ c.connSendWindow.available ∧
      (data.length : Int) ≤ (c.objects k).sendWindow.available ∧
    (data.length : Int) ≤ c.remote.maxFrameSize

/-- What is sent is permitted, and the account has it if its sums are exact. -/
structure Spends (credit : Int) (c d : H2Connection D) : Prop where
  sent : ∃ frames, d.out = c.out ++ frames ∧ (∀ f ∈ frames, c.Permitted f) ∧
    (0 ≤ c.connSendWindow.available → 0 ≤ credit → c.connSendWindow.available + credit ≤ 2 ^ 53 →
      d.connSendWindow.available + ((frames.map Frame.payload).sum : Nat) =
        c.connSendWindow.available + credit)
  solvent : 0 ≤ c.connSendWindow.available → 0 ≤ credit → 0 ≤ d.connSendWindow.available

theorem sum_payload {frames : List Frame} (free : ∀ f ∈ frames, f.payload = 0) :
    (frames.map Frame.payload).sum = 0 := by
  refine List.sum_eq_zero fun n mem => ?_
  obtain ⟨f, inside, rfl⟩ := List.mem_map.mp mem
  exact free f inside

theorem Spares.spends (spares : Spares c d) : Spends 0 c d := by
  obtain ⟨window, frames, out, free⟩ := spares
  refine ⟨⟨frames, out, fun f mem => .inl (free f mem), fun _ _ _ => ?_⟩,
    fun solvent _ => window ▸ solvent⟩
  rw [sum_payload free, window]
  rfl

theorem Spends.spares {credit : Int} (spends : Spends credit c d) (later : Spares d e) :
    Spends credit c e := by
  obtain ⟨⟨frames, out, permitted, account⟩, solvent⟩ := spends
  obtain ⟨window, frames', out', free⟩ := later
  refine ⟨⟨frames ++ frames', ?_, fun f mem => ?_, fun start positive exact_ => ?_⟩,
    fun start positive => window ▸ solvent start positive⟩
  · rw [out', out, List.append_assoc]
  · rcases List.mem_append.mp mem with mem | mem
    · exact permitted f mem
    · exact .inl (free f mem)
  · rw [List.map_append, List.sum_append, sum_payload free, Nat.add_zero, window]
    exact account start positive exact_

/-- The increments that a step adds to the connection window. -/
def creditsOf (c : H2Connection D) : Action → List Int
  | .frame (.windowUpdate id increment) => if id = 0 ∧ c.pendingHeaderBlock = none then [increment] else []
  | _ => []

theorem Spends.onFrame {credit : Int} {frame : Frame}
    (dispatched : Spends credit c (c.dispatch coder frame).1) :
    Spends credit c (c.onFrame coder frame) := by
  unfold H2Connection.onFrame
  generalize c.dispatch coder frame = result at dispatched ⊢
  obtain ⟨d, thrown | done⟩ := result
  · exact dispatched.spares (.connectionError d thrown)
  · exact dispatched

theorem spends_windowUpdate (coder : Coder D) (c : H2Connection D) (increment : Int) :
    Spends (c.creditsOf (.frame (.windowUpdate 0 increment))).sum c
      (c.onFrame coder (.windowUpdate 0 increment)) := by
  refine Spends.onFrame ?_
  cases pending : c.pendingHeaderBlock with
  | some pb =>
      have none : c.creditsOf (.frame (.windowUpdate 0 increment)) = [] :=
        if_neg fun both => Option.some_ne_none pb (pending.symm.trans both.2)
      have refused : c.dispatch coder (.windowUpdate 0 increment) =
          (c, .error (.h2 .protocolError "expected CONTINUATION frame" Option.none)) := by
        rw [dispatch, pending]
        rfl
      rw [none, refused]
      exact (Spares.refl c).spends
  | none =>
      have credit : c.creditsOf (.frame (.windowUpdate 0 increment)) = [increment] := if_pos ⟨rfl, pending⟩
      have taken : c.dispatch coder (.windowUpdate 0 increment) = c.receiveWindowUpdate 0 increment := by
        rw [dispatch, pending]
        rfl
      rw [credit, taken, List.sum_singleton]
      unfold receiveWindowUpdate
      split
      next zero =>
        rw [zero]
        exact (Spares.refl c).spends
      next =>
        refine ⟨⟨[], (List.append_nil _).symm, fun f mem => absurd mem List.not_mem_nil,
          fun start positive fits => ?_⟩, fun start positive => ?_⟩
        · exact (Int.add_zero _).trans (Js.number_exact (Int.add_nonneg start positive) fits)
        · exact Js.number_nonneg (Int.add_nonneg start positive)

theorem spends_pumpSend (c : H2Connection D) (k : Nat) (chunk : Bytes) (offset : Nat) (rest : List Bytes) :
    Spends 0 c (c.pumpSend k chunk offset rest) := by
  unfold pumpSend
  dsimp only
  split
  · have stopped : Spares c (c.setPump k .none) := .quiet rfl rfl
    exact stopped.spends
  next open_ =>
    split
    · exact (Spares.pumpChunk c k chunk offset rest).spends
    next positive =>
      -- The connection is open, so what is consumed is sent.
      generalize granted : min (min (min ((chunk.length : Int) - offset) c.connSendWindow.available)
        (c.objects k).sendWindow.available) c.remote.maxFrameSize = grant at positive ⊢
      have length : (((chunk.drop offset).take grant.toNat).length : Int) = grant := by
        rw [List.length_take, List.length_drop]
        omega
      have live : c.closedFlag = false := by
        cases shut : c.closedFlag with
        | false => rfl
        | true =>
            rw [shut] at open_
            exact absurd rfl open_
      simp only [H2Connection.send, modify, setPump, live, Bool.false_eq_true, if_false]
      refine ⟨⟨[.data (c.objects k).id ((chunk.drop offset).take grant.toNat) false], rfl, fun f mem => ?_,
        fun _ _ fits => ?_⟩, fun start _ => ?_⟩
      · rw [List.mem_singleton.mp mem]
        exact .inr ⟨k, _, rfl, by omega, by omega, by omega⟩
      · show Js.number (c.connSendWindow.available - grant) +
            (((chunk.drop offset).take grant.toNat).length + 0 : Nat) = c.connSendWindow.available + 0
        rw [Js.number_exact (by omega) (by omega)]
        omega
      · exact Js.number_nonneg (by omega)

theorem spends_pump (c : H2Connection D) (k : Nat) : Spends 0 c (c.pump k) := by
  have set (pump : Pump) : Spares c (c.setPump k pump) := .quiet rfl rfl
  unfold pump
  dsimp only
  split
  · exact (Spares.refl c).spends
  · split
    · exact (set _).spends
    · have ended : Spares c ((c.send (.data (c.objects k).id [] true)).setPump k .ending) :=
        (Spares.send c rfl).trans (.quiet rfl rfl)
      exact ended.spends
  · exact (Spares.pumpChunk c k _ 0 _).spends
  · exact (set _).spends
  · exact spends_pumpSend c k _ _ _
  · exact (Spares.pumpChunk c k _ _ _).spends
  · have retired : Spares c
      ((c.modify k fun s => { s with localClosed := true, pump := .none }).retireIfFullyClosed
        (c.objects k).id) :=
      (Spares.retireIfFullyClosed _ _).after rfl rfl
    exact retired.spends

/-- Every step has its place in the account. -/
theorem spends_step (coder : Coder D) (c : H2Connection D) (a : Action) :
    Spends (c.creditsOf a).sum c (c.step coder a) := by
  cases a with
  | frame frame =>
      by_cases grant : ∃ increment, frame = .windowUpdate 0 increment
      · obtain ⟨increment, rfl⟩ := grant
        exact spends_windowUpdate coder c increment
      · have other : ∀ increment, frame ≠ .windowUpdate 0 increment :=
          fun increment same => grant ⟨increment, same⟩
        have none : c.creditsOf (.frame frame) = [] := by
          cases frame with
          | windowUpdate id increment =>
              refine if_neg fun both => ?_
              obtain ⟨rfl, -⟩ := both
              exact other increment rfl
          | _ => rfl
        have dispatched : Spares c (c.dispatch coder frame).1 := by
          unfold dispatch
          split
          · exact .refl c
          · exact .dispatchFrame coder c other
        rw [none]
        exact .onFrame dispatched.spends
  | corrupt thrown => exact (Spares.connectionError c thrown).spends
  | transportClosed => exact (Spares.destroy c _).spends
  | readFailed reason => exact (Spares.destroy c reason).spends
  | writeFailed reason => exact (Spares.writeFailed c reason).spends
  | written =>
      have settled : Spares c c.written := by
        unfold H2Connection.written
        split <;> exact .quiet rfl rfl
      exact settled.spends
  | request i init =>
      have called : Spares c (c.request i init) := by
        unfold H2Connection.request
        split
        · split <;> exact .quiet rfl rfl
        · exact .refl c
      exact called.spends
  | resume i => exact (Spares.resume coder c i).spends
  | abort i => exact (Spares.abort c i).spends
  | pump k => exact spends_pump c k
  | pumpThrow k reason => exact (Spares.pumpThrow c k reason).spends
  | pull k => exact (Spares.pull c k).spends
  | cancel k => exact (Spares.cancel c k).spends
  | cancelPush j => exact (Spares.cancelPush c j).spends
  | ping => exact (Spares.ping c).spends
  | close => exact (Spares.close c).spends
  | finishClose => exact (Spares.finishClose c).spends

/-! ## Runs -/

theorem credits_nonneg {a : Action} (grants : a.Grants) : 0 ≤ (c.creditsOf a).sum := by
  cases a with
  | frame frame =>
      cases frame with
      | windowUpdate id increment =>
          show 0 ≤ (if id = 0 ∧ c.pendingHeaderBlock = none then [increment] else []).sum
          split
          · rw [List.sum_singleton]
            exact grants
          · exact le_rfl
      | _ => exact le_rfl
  | _ => exact le_rfl

/-- The bytes of DATA that were sent. -/
def dataSent (c : H2Connection D) : Nat := (c.out.map Frame.payload).sum

/-- The account with what was granted so far. -/
structure Balanced (granted : List Int) (c : H2Connection D) : Prop where
  account : SPEC_INITIAL_WINDOW + granted.sum ≤ 2 ^ 53 →
    c.connSendWindow.available + c.dataSent = SPEC_INITIAL_WINDOW + granted.sum
  solvent : 0 ≤ c.connSendWindow.available

theorem Balanced.spends {granted credits : List Int} (balanced : Balanced granted c)
    (spends : Spends credits.sum c d)
    (positive : 0 ≤ credits.sum) : Balanced (granted ++ credits) d := by
  obtain ⟨account, solvent⟩ := balanced
  obtain ⟨⟨frames, out, -, spent⟩, stays⟩ := spends
  have total : d.dataSent = c.dataSent + (frames.map Frame.payload).sum := by
    rw [dataSent, out, List.map_append, List.sum_append]
    rfl
  refine ⟨fun small => ?_, stays solvent positive⟩
  rw [List.sum_append] at small
  have before := account (by omega)
  have after := spent solvent positive (by omega)
  rw [total, List.sum_append]
  omega

theorem balanced_connect (decoder : D) (options : ConnectOptions) :
    Balanced [] (connect decoder options) := by
  have fresh : Balanced [] (H2Connection.fresh decoder options.onPush) := by
    refine ⟨fun _ => rfl, ?_⟩
    show (0 : Int) ≤ SPEC_INITIAL_WINDOW
    decide
  have greeted : Spares (H2Connection.fresh decoder options.onPush) (connect decoder options) := by
    unfold connect
    dsimp only
    split
    · exact (Spares.send _ rfl).trans (.send _ rfl)
    · exact .send _ rfl
  have free : Spends ([] : List Int).sum (H2Connection.fresh decoder options.onPush)
    (connect decoder options) :=
    greeted.spends
  exact fresh.spends free le_rfl

/-- In every run, the value of the connection window with the DATA that was sent is what the peer
has granted, as long as that is at most `2^53`; the window is not overdrawn; and whatever comes
next sends only what is permitted. -/
theorem within_credit (coder : Coder D) (decoder : D) (options : ConnectOptions) (actions : List Action)
    (parsed : ∀ a ∈ actions, a.Parsed) :
    let c := after coder decoder options actions
    let granted := SPEC_INITIAL_WINDOW +
      (Machine.gather (step coder) creditsOf (connect decoder options) actions).sum
    (granted ≤ 2 ^ 53 → c.connSendWindow.available + c.dataSent = granted) ∧
      0 ≤ c.connSendWindow.available ∧
      ∀ a, ∃ frames, (c.step coder a).out = c.out ++ frames ∧ ∀ f ∈ frames, c.Permitted f := by
  intro c granted
  have balanced : Balanced
    ([] ++ Machine.gather (step coder) creditsOf (connect decoder options) actions) c :=
    Machine.gather_invariant_along (step coder) creditsOf
      (fun c a _ balanced parsed =>
        balanced.spends (spends_step coder c a) (credits_nonneg (grants_of_parsed parsed)))
      (balanced_connect decoder options) parsed
  refine ⟨balanced.account, balanced.solvent, fun a => ?_⟩
  obtain ⟨frames, out, permitted, -⟩ := (spends_step coder c a).sent
  exact ⟨frames, out, permitted⟩

/-- An upload of three bytes, with a window update before the last two. -/
theorem within_credit_upload :
    let actions : List Action := [.written, .request 0 ⟨.bare (.stream [[1], [2, 3]]), false⟩, .resume 0,
      .pump 0, .pump 0, .pump 0, .frame (.windowUpdate 0 10), .pump 0, .pump 0, .pump 0, .pump 0, .pump 0]
    let c := after hpack (.new 4096) {} actions
    let granted := SPEC_INITIAL_WINDOW +
      (Machine.gather (step hpack) creditsOf (connect (.new 4096) {}) actions).sum
    c.connSendWindow.available + c.dataSent = granted ∧ c.dataSent = 3 ∧
      0 ≤ c.connSendWindow.available ∧
      ∀ a, ∃ frames, (c.step hpack a).out = c.out ++ frames ∧ ∀ f ∈ frames, c.Permitted f := by
  intro actions c granted
  have parsed : ∀ a ∈ actions, a.Parsed := by
    simp only [actions, List.forall_mem_cons, Action.Parsed, List.not_mem_nil, false_implies, implies_true,
      and_true, true_and]
    exact ⟨[0, 0, 0, 10], rfl⟩
  obtain ⟨account, solvent, permitted⟩ := within_credit hpack (.new 4096) {} actions parsed
  exact ⟨account (by decide +kernel), by decide +kernel, solvent, permitted⟩

end H2Connection

end Typescript

end H2ts
