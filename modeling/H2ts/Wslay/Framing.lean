import H2ts.Wslay.Reader

/-!
# Frames and bytes

`frameRecv` takes bytes in lumps: what there is, up to the buffer, and of a payload whatever is
at hand.  A call takes the reader from where the last one stopped to where it stops itself
(`frameRecv_spec`).
-/

namespace H2ts

namespace Wslay

open BigEndian WebSocket

namespace FrameContext

/-- The bytes that are not parsed. -/
def pending (f : FrameContext) : Bytes := f.ibuf ++ f.inbound

def head (f : FrameContext) : Head := ⟨f.iom, f.imask⟩

theorem memo_head (f : FrameContext) : f.head.memo = f.iom := rfl

def key (f : FrameContext) : Fin 4 → UInt8 := if f.imask then f.imaskkey else fun _ => 0

def phase (f : FrameContext) : Phase :=
  match f.istate with
  | .header1 => .first
  | .extPayloadlen ireqread => .ext f.head ireqread []
  | .maskkey => .key f.head f.ipayloadlen []
  | .payload => .payload f.head f.ipayloadlen f.key f.ipayloadoff

/-- How much of a payload is taken. -/
def off (f : FrameContext) : Nat := if f.istate = .payload then f.ipayloadoff else 0

def iocb (f : FrameContext) (data : Bytes) : Iocb :=
  ⟨f.iom.fin, f.iom.rsv, f.iom.opcode, f.ipayloadlen, f.imask, data⟩

/-- The states, in the order in which a call goes through them. -/
def rank (f : FrameContext) : Nat :=
  match f.istate with
  | .header1 => 0
  | .extPayloadlen _ => 1
  | .maskkey => 2
  | .payload => 3

/-- What holds from the length on: control frames are whole and short. -/
def Whole (f : FrameContext) : Prop :=
  isCtrlFrame f.iom.opcode = true → f.iom.fin = true ∧ f.ipayloadlen ≤ 125

structure Sound (f : FrameContext) : Prop where
  ext : ∀ ireqread, f.istate = .extPayloadlen ireqread →
    (ireqread = 2 ∨ ireqread = 8) ∧ isCtrlFrame f.iom.opcode = false
  maskkey : f.istate = .maskkey → f.imask = true ∧ f.ipayloadoff = 0 ∧ f.Whole
  payload : f.istate = .payload →
    (f.ipayloadoff < f.ipayloadlen ∨ f.ipayloadoff = 0 ∧ f.ipayloadlen = 0) ∧ f.Whole

/-- What holds between two calls: of a payload, something is missing. -/
structure Rested (f : FrameContext) : Prop where
  sound : f.Sound
  missing : f.istate = .payload → f.ipayloadoff < f.ipayloadlen

/-- There is not enough to go on with. -/
structure Waiting (f : FrameContext) : Prop where
  rested : f.Rested
  inbound : f.inbound = []
  short : if f.istate = .payload then f.ibuf = [] else f.ibuf.length < f.istate.ireqread

theorem rested_init : init.Rested := by
  refine ⟨⟨?_, ?_, ?_⟩, ?_⟩ <;> intros <;> contradiction

theorem Sound.rested {f : FrameContext} (sound : f.Sound) (header : f.istate ≠ .payload) : f.Rested :=
  ⟨sound, fun payload => absurd payload header⟩

/-! ## Taking bytes from the callback -/

variable {f : FrameContext}

@[simp] theorem pending_recv (f : FrameContext) : f.recv.pending = f.pending := by
  rw [pending, recv, List.append_assoc, List.take_append_drop]
  rfl

/-- A buffer that has room took everything. -/
theorem inbound_recv {n : Nat} (short : f.recv.ibuf.length < n) (fits : n ≤ IBUF_SIZE) :
    f.recv.inbound = [] := by
  simp only [recv, List.length_append, List.length_take] at short
  exact List.drop_eq_nil_of_le (by omega)

@[simp] theorem pending_await (f : FrameContext) : f.await.pending = f.pending := by
  unfold await
  split
  · exact f.pending_recv
  · rfl

theorem await_eq (f : FrameContext) :
    f.await = { f with ibuf := f.await.ibuf, inbound := f.await.inbound } := by
  unfold await
  split <;> rfl

@[simp] theorem istate_await (f : FrameContext) : f.await.istate = f.istate := by rw [await_eq]

@[simp] theorem iom_await (f : FrameContext) : f.await.iom = f.iom := by rw [await_eq]

@[simp] theorem imask_await (f : FrameContext) : f.await.imask = f.imask := by rw [await_eq]

@[simp] theorem ipayloadlen_await (f : FrameContext) : f.await.ipayloadlen = f.ipayloadlen := by rw [await_eq]

@[simp] theorem ipayloadoff_await (f : FrameContext) : f.await.ipayloadoff = f.ipayloadoff := by rw [await_eq]

theorem whole_await : f.await.Whole ↔ f.Whole := by
  rw [Whole, iom_await, ipayloadlen_await]
  exact Iff.rfl

@[simp] theorem head_await (f : FrameContext) : f.await.head = f.head := by rw [await_eq]; rfl

@[simp] theorem phase_await (f : FrameContext) : f.await.phase = f.phase := by rw [await_eq]; rfl

theorem Rested.await (rested : f.Rested) : f.await.Rested := by
  rw [await_eq]
  exact ⟨⟨rested.sound.ext, rested.sound.maskkey, rested.sound.payload⟩, rested.missing⟩

theorem ireqread_le (sound : f.Sound) : f.istate.ireqread ≤ IBUF_SIZE := by
  cases state : f.istate with
  | header1 => decide
  | extPayloadlen ireqread =>
      obtain ⟨two | eight, -⟩ := sound.ext ireqread state
      · rw [two]
        decide
      · rw [eight]
        decide
  | maskkey => decide
  | payload => decide

/-- The bytes that are needed are not there. -/
theorem waiting_await (rested : f.Rested) (header : f.istate ≠ .payload)
    (short : f.await.ibuf.length < f.istate.ireqread) : f.await.Waiting := by
  refine ⟨rested.await, ?_, ?_⟩
  · unfold FrameContext.await at short ⊢
    split at short
    next less =>
      rw [if_pos less]
      exact inbound_recv short (ireqread_le rested.sound)
    next enough => exact absurd short enough
  · rw [istate_await, if_neg header]
    exact short

end FrameContext

/-! ## The reader goes along -/

namespace Reader

variable {r : Reader} {f f' : FrameContext}

/-- Where the reader is when `frameRecv` gets into a state.  A payload that is empty is
complete at once. -/
def arrive (r : Reader) (f : FrameContext) : Reader :=
  if f.istate = .payload ∧ f.ipayloadlen = 0 then r.chunk f.head 0 f.key 0 [] else { r with phase := f.phase }

theorem arrive_header (header : f.istate ≠ .payload) : r.arrive f = { r with phase := f.phase } :=
  if_neg fun both => header both.1

theorem arrive_rested (rested : f.Rested) : r.arrive f = { r with phase := f.phase } := by
  refine if_neg ?_
  rintro ⟨payload, empty⟩
  have missing := rested.missing payload
  omega

theorem arrive_payload (payload : f.istate = .payload) (start : f.ipayloadoff = 0) :
    r.arrive f = r.enter f.head f.ipayloadlen f.key := by
  unfold arrive enter FrameContext.phase
  simp only [payload, start, true_and]

/-- The state after the length. -/
theorem arrive_afterLength (r : Reader) (start : f.ipayloadoff = 0) :
    r.arrive f.afterLength = r.sized f.head f.ipayloadlen := by
  unfold sized FrameContext.head
  cases masked : f.imask with
  | true =>
      have next : f.afterLength = { f with istate := .maskkey } := by
        rw [FrameContext.afterLength, masked, if_pos rfl]
      have header : ({ f with istate := .maskkey } : FrameContext).istate ≠ .payload :=
        FrameState.noConfusion
      rw [next, arrive_header header, if_pos rfl, FrameContext.phase, FrameContext.head, masked]
  | false =>
      have next : f.afterLength = { f with istate := .payload } := by
        rw [FrameContext.afterLength, masked, if_neg Bool.false_ne_true]
      have key : FrameContext.key { f with istate := .payload } = fun _ => 0 := by
        rw [FrameContext.key]
        exact if_neg (by rw [masked]; exact Bool.false_ne_true)
      have arrives := arrive_payload (r := r) (f := { f with istate := .payload }) rfl start
      rw [next, arrives, key, if_neg Bool.false_ne_true, FrameContext.head, masked]

/-- What one stage of a call does, which leaves the states up to `n` behind. -/
def Stage (n : Nat) (r : Reader) (f : FrameContext) :
    Except (RecvError × FrameContext) FrameContext → Prop
  | .ok f' => f'.Sound ∧ n < f'.rank ∧ (f.istate = .payload → f' = f) ∧
      (f.istate ≠ .payload → f'.istate = .payload → f'.ipayloadoff = 0) ∧
      ∃ p, f.pending = p ++ f'.pending ∧ (f' = f ∨ p ≠ []) ∧ (r.arrive f).feed p = r.arrive f'
  | .error (.wantRead, f') => f'.Waiting ∧ f.istate ≠ .payload ∧ f'.istate ≠ .payload ∧
      ∃ p, f.pending = p ++ f'.pending ∧ (r.arrive f).feed p = { r with phase := f'.phase }
  | .error (.proto, f') => ∃ p, f.pending = p ++ f'.pending ∧ (r.arrive f).feed p = r.stop .malformed

/-- A stage that a frame is beyond. -/
theorem Stage.skip {n : Nat} (sound : f.Sound) (beyond : n < f.rank) : Stage n r f (.ok f) :=
  ⟨sound, beyond, fun _ => rfl, fun header payload => absurd payload header, [], rfl, .inl rfl, rfl⟩

theorem Stage.bind {m n : Nat} {x : Except (RecvError × FrameContext) FrameContext}
    {next : FrameContext → Except (RecvError × FrameContext) FrameContext} (first : Stage m r f x)
    (later : ∀ f', f'.Sound → m < f'.rank → Stage n r f' (next f')) : Stage n r f (x >>= next) := by
  rcases x with ⟨_ | _, f'⟩ | f'
  · exact first
  · exact first
  · obtain ⟨sound, beyond, same, start, p, front, moved, fed⟩ := first
    have second := later f' sound beyond
    show Stage n r f (next f')
    generalize next f' = result at second ⊢
    rcases result with ⟨_ | _, f''⟩ | f''
    · obtain ⟨waiting, header, header', p', front', fed'⟩ := second
      refine ⟨waiting, ?_, header', p ++ p', ?_, ?_⟩
      · intro payload
        exact header (same payload ▸ payload)
      · rw [front, front', List.append_assoc]
      · rw [feed_append, fed, fed']
    · obtain ⟨p', front', fed'⟩ := second
      refine ⟨p ++ p', ?_, ?_⟩
      · rw [front, front', List.append_assoc]
      · rw [feed_append, fed, fed']
    · obtain ⟨sound', beyond', same', start', p', front', moved', fed'⟩ := second
      refine ⟨sound', beyond', ?_, ?_, p ++ p', ?_, ?_, ?_⟩
      · intro payload
        rw [same' (same payload ▸ payload), same payload]
      · intro header payload
        by_cases arrived : f'.istate = .payload
        · rw [same' arrived]
          exact start header arrived
        · exact start' arrived payload
      · rw [front, front', List.append_assoc]
      · rcases moved with rfl | moved
        · rcases moved' with rfl | moved'
          · exact .inl rfl
          · exact .inr (List.append_ne_nil_of_right_ne_nil p moved')
        · exact .inr (List.append_ne_nil_of_left_ne_nil moved p')
      · rw [feed_append, fed, fed']

/-! ## The stages -/

/-- A stage that waits for its bytes. -/
theorem Stage.wait {n : Nat} (sound : f.Sound) (header : f.istate ≠ .payload)
    (short : f.await.ibuf.length < f.istate.ireqread) : Stage n r f (.error (.wantRead, f.await)) := by
  refine ⟨FrameContext.waiting_await (sound.rested header) header short, header, ?_, [], ?_, ?_⟩
  · rw [FrameContext.istate_await]
    exact header
  · rw [FrameContext.pending_await, List.nil_append]
  · rw [FrameContext.phase_await, feed_nil, arrive_header header]

/-- The length of a frame is known, and its last bytes are taken. -/
theorem Stage.length {n : Nat} {p : Bytes} (header : f.istate ≠ .payload) (early : n < 2)
    (start : f'.ipayloadoff = 0) (whole : f'.Whole) (front : f.pending = p ++ f'.pending) (moved : p ≠ [])
    (fed : (r.arrive f).feed p = r.sized f'.head f'.ipayloadlen) : Stage n r f (.ok f'.afterLength) := by
  have next : f'.afterLength.istate = .maskkey ∧ f'.imask = true ∨ f'.afterLength.istate = .payload := by
    unfold FrameContext.afterLength
    cases f'.imask with
    | true => exact .inl ⟨rfl, rfl⟩
    | false => exact .inr rfl
  refine ⟨⟨?_, ?_, ?_⟩, ?_, fun payload => absurd payload header, fun _ _ => start, p, front, .inr moved, ?_⟩
  · intro ireqread ext
    rcases next with ⟨maskkey, -⟩ | payload
    · exact absurd (ext.symm.trans maskkey) FrameState.noConfusion
    · exact absurd (ext.symm.trans payload) FrameState.noConfusion
  · intro maskkey
    rcases next with ⟨-, masked⟩ | payload
    · exact ⟨masked, start, whole⟩
    · exact absurd (maskkey.symm.trans payload) FrameState.noConfusion
  · intro payload
    refine ⟨?_, whole⟩
    show f'.ipayloadoff < f'.ipayloadlen ∨ f'.ipayloadoff = 0 ∧ f'.ipayloadlen = 0
    omega
  · rcases next with ⟨maskkey, -⟩ | payload
    · rw [FrameContext.rank, maskkey]
      exact early
    · rw [FrameContext.rank, payload]
      exact Nat.lt_succ_of_lt early
  · rw [fed, arrive_afterLength r start]

/-- The length of a frame is in the bytes after the header. -/
theorem Stage.ext {p : Bytes} {ireqread : Nat} (header : f.istate ≠ .payload)
    (width : ireqread = 2 ∨ ireqread = 8) (data : isCtrlFrame f'.iom.opcode = false)
    (ext : f'.istate = .extPayloadlen ireqread) (front : f.pending = p ++ f'.pending) (moved : p ≠ [])
    (fed : (r.arrive f).feed p = { r with phase := .ext f'.head ireqread [] }) : Stage 0 r f (.ok f') := by
  have header' : f'.istate ≠ .payload := by rw [ext]; exact FrameState.noConfusion
  refine ⟨⟨?_, ?_, fun payload => absurd payload header'⟩, ?_, fun payload => absurd payload header,
    fun _ payload => absurd payload header', p, front, .inr moved, ?_⟩
  · intro ireqread' same
    cases ext.symm.trans same
    exact ⟨width, data⟩
  · intro maskkey
    exact absurd (ext.symm.trans maskkey) FrameState.noConfusion
  · rw [FrameContext.rank, ext]
    exact Nat.one_pos
  · rw [fed, arrive_header header', FrameContext.phase, ext]

theorem stage_header1 (live : r.standing = .live) (sound : f.Sound) : Stage 0 r f f.recvHeader1 := by
  unfold FrameContext.recvHeader1
  cases state : f.istate with
  | header1 =>
      have header : f.istate ≠ .payload := by rw [state]; exact FrameState.noConfusion
      have waits := Stage.wait (n := 0) (r := r) sound header
      rw [state] at waits
      have front := f.pending_await
      unfold FrameContext.pending at front
      dsimp only
      generalize buffered : f.await.ibuf = ibuf at waits front ⊢
      rcases ibuf with _ | ⟨b0, _ | ⟨b1, rest⟩⟩
      · exact waits Nat.two_pos
      · exact waits Nat.one_lt_two
      · have first : ({ r with phase := f.phase } : Reader).phase = .first := by
          rw [FrameContext.phase, state]
        have fed : (r.arrive f).feed [b0, b1] = r.header b0 b1 := by
          rw [arrive_header header]
          exact (feed_header (r := { r with phase := f.phase }) live first b0 b1).trans
            (r.header_phase f.phase b0 b1)
        rw [Reader.header] at fed
        dsimp only at fed ⊢
        by_cases wrong : (isCtrlFrame (memoOf b0).opcode &&
          (125 < payloadlenOf b1 || !(memoOf b0).fin)) = true
        · rw [if_pos wrong] at fed ⊢
          exact ⟨[b0, b1], front.symm, fed⟩
        rw [if_neg wrong] at fed ⊢
        simp only [Bool.and_eq_true, Bool.or_eq_true, decide_eq_true_eq, Bool.not_eq_true', not_and, not_or,
          Bool.not_eq_false, not_lt] at wrong
        by_cases two : payloadlenOf b1 = 126
        · rw [if_pos two] at fed ⊢
          have data : isCtrlFrame (memoOf b0).opcode = false := by
            by_contra control
            have short := wrong (Bool.eq_true_of_not_eq_false control)
            omega
          exact Stage.ext (p := [b0, b1]) header (.inl rfl) data rfl front.symm (List.cons_ne_nil b0 [b1]) fed
        rw [if_neg two] at fed ⊢
        by_cases eight : payloadlenOf b1 = 127
        · rw [if_pos eight] at fed ⊢
          have data : isCtrlFrame (memoOf b0).opcode = false := by
            by_contra control
            have short := wrong (Bool.eq_true_of_not_eq_false control)
            omega
          exact Stage.ext (p := [b0, b1]) header (.inr rfl) data rfl front.symm (List.cons_ne_nil b0 [b1]) fed
        · rw [if_neg eight] at fed ⊢
          exact Stage.length (p := [b0, b1]) header Nat.two_pos rfl
            (fun control => (wrong control).symm) front.symm
            (List.cons_ne_nil b0 [b1]) fed
  | extPayloadlen ireqread => exact .skip sound (by rw [FrameContext.rank, state]; exact Nat.one_pos)
  | maskkey => exact .skip sound (by rw [FrameContext.rank, state]; exact Nat.two_pos)
  | payload => exact .skip sound (by rw [FrameContext.rank, state]; exact Nat.succ_pos 2)

/-- What is needed is there, and what is left behind it. -/
theorem front_await (n : Nat) :
    f.pending = f.await.ibuf.take n ++ (f.await.ibuf.drop n ++ f.await.inbound) := by
  rw [← List.append_assoc, List.take_append_drop]
  exact f.pending_await.symm

theorem stage_extPayloadlen (live : r.standing = .live) (sound : f.Sound) (late : 0 < f.rank) :
    Stage 1 r f f.recvExtPayloadlen := by
  unfold FrameContext.recvExtPayloadlen
  cases state : f.istate with
  | header1 =>
      rw [FrameContext.rank, state] at late
      exact absurd late (lt_irrefl 0)
  | extPayloadlen ireqread =>
      have header : f.istate ≠ .payload := by rw [state]; exact FrameState.noConfusion
      obtain ⟨width, data⟩ := sound.ext ireqread state
      have waits := Stage.wait (n := 1) (r := r) sound header
      rw [state] at waits
      dsimp only
      by_cases short : f.await.ibuf.length < ireqread
      · rw [if_pos short]
        exact waits short
      rw [if_neg short]
      have length : (f.await.ibuf.take ireqread).length = ireqread := List.length_take_of_le (not_lt.mp short)
      have moved : f.await.ibuf.take ireqread ≠ [] := by
        rw [← List.length_pos_iff, length]
        omega
      have fed : (r.arrive f).feed (f.await.ibuf.take ireqread) =
          r.extended f.head ireqread (ofBe (f.await.ibuf.take ireqread)) := by
        have phase : ({ r with phase := f.phase } : Reader).phase = .ext f.head ireqread [] := by
          rw [FrameContext.phase, state]
        have read := feed_ext (r := { r with phase := f.phase }) _ live phase moved length
        rw [arrive_header header, read, extended_phase]
      have front := front_await (f := f) ireqread
      generalize f.await.ibuf.take ireqread = p at fed moved front ⊢
      rw [extended] at fed
      by_cases least : shortest ireqread (ofBe p) = true
      · rw [if_pos least] at fed
        have next : Stage 1 r f (.ok ({ f.await with
            ibuf := f.await.ibuf.drop ireqread
            ipayloadlen := ofBe p
            ipayloadoff := 0 } : FrameContext).afterLength) := by
          refine Stage.length (p := p) header Nat.one_lt_two rfl ?_ front moved ?_
          · intro control
            rw [← f.iom_await] at data
            exact absurd (data.symm.trans control) Bool.false_ne_true
          · rw [fed]
            exact congrArg (r.sized · _) f.head_await.symm
        unfold shortest at least
        rcases width with rfl | rfl
        · rw [if_neg (by decide)] at least ⊢
          rw [if_neg (by simpa using least)]
          exact next
        · rw [if_pos rfl] at least ⊢
          rw [if_neg (by simpa using least)]
          exact next
      · rw [if_neg least] at fed
        unfold shortest at least
        rcases width with rfl | rfl
        · rw [if_neg (by decide)] at least ⊢
          rw [if_pos (by simpa using least)]
          exact ⟨p, front, fed⟩
        · rw [if_pos rfl] at least ⊢
          have far : ofBe p < 2 ^ 16 ∨ 2 ^ 63 ≤ ofBe p := by
            simp only [Bool.and_eq_true, decide_eq_true_eq, not_and, not_lt] at least
            omega
          rw [if_pos (by simpa only [Bool.or_eq_true, decide_eq_true_eq] using far)]
          exact ⟨p, front, fed⟩
  | maskkey => exact .skip sound (by rw [FrameContext.rank, state]; exact Nat.one_lt_two)
  | payload => exact .skip sound (by rw [FrameContext.rank, state]; exact Nat.succ_lt_succ Nat.two_pos)

theorem stage_maskkey (live : r.standing = .live) (sound : f.Sound) (late : 1 < f.rank) :
    Stage 2 r f f.recvMaskkey := by
  unfold FrameContext.recvMaskkey
  cases state : f.istate with
  | header1 =>
      rw [FrameContext.rank, state] at late
      exact absurd late (Nat.not_lt_zero 1)
  | extPayloadlen ireqread =>
      rw [FrameContext.rank, state] at late
      exact absurd late (lt_irrefl 1)
  | maskkey =>
      have header : f.istate ≠ .payload := by rw [state]; exact FrameState.noConfusion
      obtain ⟨masked, start, whole⟩ := sound.maskkey state
      have waits := Stage.wait (n := 2) (r := r) sound header
      rw [state] at waits
      dsimp only
      by_cases short : f.await.ibuf.length < 4
      · rw [if_pos short]
        exact waits short
      rw [if_neg short]
      have length : (f.await.ibuf.take 4).length = 4 := List.length_take_of_le (not_lt.mp short)
      have moved : f.await.ibuf.take 4 ≠ [] := by
        rw [← List.length_pos_iff, length]
        exact Nat.succ_pos 3
      have phase : ({ r with phase := f.phase } : Reader).phase = .key f.head f.ipayloadlen [] := by
        rw [FrameContext.phase, state]
      have read := feed_key (r := { r with phase := f.phase }) _ live phase moved length
      rw [enter_phase] at read
      have front := front_await (f := f) 4
      have start' : f.await.ipayloadoff = 0 := f.ipayloadoff_await.trans start
      refine ⟨⟨?_, ?_, ?_⟩, Nat.lt_succ_self 2, ?_, fun _ _ => start', _, front, .inr moved, ?_⟩
      · intro _ ext
        exact absurd ext FrameState.noConfusion
      · intro maskkey
        exact absurd maskkey FrameState.noConfusion
      · intro _
        refine ⟨?_, f.whole_await.mpr whole⟩
        show f.await.ipayloadoff < f.await.ipayloadlen ∨ f.await.ipayloadoff = 0 ∧ f.await.ipayloadlen = 0
        omega
      · intro payload
        exact absurd payload header
      · have arrives := arrive_payload (r := r) (f := { f.await with
          ibuf := f.await.ibuf.drop 4
          imaskkey := fun i => f.await.ibuf.getD i 0
          istate := .payload }) rfl start'
        have key : (fun i : Fin 4 => (f.await.ibuf.take 4).getD i 0) =
            FrameContext.key { f.await with
              ibuf := f.await.ibuf.drop 4
              imaskkey := fun i => f.await.ibuf.getD i 0
              istate := .payload } := by
          rw [FrameContext.key]
          dsimp only
          rw [if_pos (f.imask_await.trans masked)]
          funext i
          rw [List.getD_eq_getElem?_getD, List.getD_eq_getElem?_getD, List.getElem?_take_of_lt i.isLt]
        rw [arrive_header header, read, arrives, key, ← f.head_await, ← f.ipayloadlen_await]
        rfl
  | payload => exact .skip sound (by rw [FrameContext.rank, state]; exact Nat.lt_succ_self 2)

/-! ## A call -/

/-- A part of a payload is taken: `p` from the stream, `raw` of it payload. -/
structure Took (r : Reader) (f : FrameContext) (p raw : Bytes) (iocb : Iocb) (f' : FrameContext) : Prop where
  front : f.pending = p ++ f'.pending
  moved : p ≠ []
  fed : r.feed p = r.chunk f'.head f'.ipayloadlen f'.key f.off raw
  iocb : iocb = f'.iocb (mask f'.key f.off raw)
  off : f'.ipayloadoff = f.off + raw.length
  inside : f'.ipayloadoff ≤ f'.ipayloadlen
  empty : raw = [] → f'.ipayloadlen = 0
  state : f'.istate = if f'.ipayloadlen = f'.ipayloadoff then .header1 else .payload
  same : f.istate = .payload → f'.head = f.head ∧ f'.ipayloadlen = f.ipayloadlen
  whole : f'.Whole

/-- What a call does. -/
def Call (r : Reader) (f : FrameContext) : Except (RecvError × FrameContext) (Iocb × FrameContext) → Prop
  | .ok (iocb, f') => ∃ p raw, Took r f p raw iocb f'
  | .error (.wantRead, f') => f'.Waiting ∧ f'.off = f.off ∧
      (f.istate = .payload → f'.head = f.head ∧ f'.ipayloadlen = f.ipayloadlen) ∧
      ∃ p, f.pending = p ++ f'.pending ∧ r.feed p = { r with phase := f'.phase }
  | .error (.proto, f') => ∃ p, f.pending = p ++ f'.pending ∧ r.feed p = r.stop .malformed

theorem recvPayload_wait (sound : f.Sound) (payload : f.istate = .payload)
    (empty : (f.awaitPayload.ibuf.isEmpty && decide (0 < f.ipayloadlen - f.ipayloadoff)) = true) :
    f.awaitPayload.Waiting ∧ f.pending = f.awaitPayload.pending ∧
      r.arrive f = { r with phase := f.awaitPayload.phase } := by
  simp only [Bool.and_eq_true, List.isEmpty_iff, decide_eq_true_eq] at empty
  obtain ⟨none, missing⟩ := empty
  have missing' : f.ipayloadoff < f.ipayloadlen := by omega
  have rested : f.Rested := ⟨sound, fun _ => missing'⟩
  unfold FrameContext.awaitPayload at none ⊢
  split at none
  next asks =>
    rw [if_pos asks]
    have drained : f.recv.inbound = [] :=
      FrameContext.inbound_recv (n := 1) (by rw [none]; exact Nat.one_pos) (by decide)
    refine ⟨⟨⟨⟨sound.ext, sound.maskkey, sound.payload⟩, rested.missing⟩, drained, ?_⟩, ?_, ?_⟩
    · exact (if_pos payload).mpr none
    · exact f.pending_recv.symm
    · exact arrive_rested rested
  next full =>
    simp only [Bool.and_eq_true, List.isEmpty_iff, decide_eq_true_eq, not_and] at full
    exact absurd missing (full none)

theorem recvPayload_take (live : r.standing = .live) (sound : f.Sound) (payload : f.istate = .payload)
    (some : ¬ (f.awaitPayload.ibuf.isEmpty && decide (0 < f.ipayloadlen - f.ipayloadoff)) = true) :
    (r.arrive f).feed (f.awaitPayload.ibuf.take (f.ipayloadlen - f.ipayloadoff)) =
      r.chunk f.head f.ipayloadlen f.key f.ipayloadoff
        (f.awaitPayload.ibuf.take (f.ipayloadlen - f.ipayloadoff)) := by
  simp only [Bool.and_eq_true, List.isEmpty_iff, decide_eq_true_eq, not_and, not_lt] at some
  obtain ⟨missing | ⟨start, zero⟩, -⟩ := sound.payload payload
  · have moved : f.awaitPayload.ibuf.take (f.ipayloadlen - f.ipayloadoff) ≠ [] := by
      rw [Ne, List.take_eq_nil_iff]
      rintro (none | none)
      · omega
      · have rest := some none
        omega
    have phase : ({ r with phase := f.phase } : Reader).phase =
        .payload f.head f.ipayloadlen f.key f.ipayloadoff := by
      rw [FrameContext.phase, payload]
    have read := feed_payload (r := { r with phase := f.phase }) live phase moved (by
      rw [List.length_take]
      omega)
    rw [arrive_rested ⟨sound, fun _ => missing⟩, read, chunk_phase]
  · rw [arrive, if_pos ⟨payload, zero⟩, zero, start, Nat.zero_sub, List.take_zero, feed_nil]

theorem mask_key (f : FrameContext) (off : Nat) (raw : Bytes) :
    (if f.imask then mask f.imaskkey off raw else raw) = mask f.key off raw := by
  unfold FrameContext.key
  cases f.imask with
  | true => rfl
  | false => exact (mask_zero off raw).symm

theorem awaitPayload_eq (f : FrameContext) :
    ∃ ibuf inbound, f.awaitPayload = { f with ibuf := ibuf, inbound := inbound } := by
  unfold FrameContext.awaitPayload
  split
  · exact ⟨_, _, rfl⟩
  · exact ⟨_, _, rfl⟩

theorem pending_awaitPayload (f : FrameContext) : f.awaitPayload.pending = f.pending := by
  unfold FrameContext.awaitPayload
  split
  · exact f.pending_recv
  · rfl

theorem payload_of_rank (late : 2 < f.rank) : f.istate = .payload := by
  unfold FrameContext.rank at late
  cases state : f.istate with
  | header1 => simp only [state, Nat.not_lt_zero] at late
  | extPayloadlen ireqread =>
      simp only [state] at late
      omega
  | maskkey =>
      simp only [state] at late
      omega
  | payload => rfl

/-- A call goes as far as the reader goes with the same bytes. -/
theorem frameRecv_spec (live : r.standing = .live) (rested : f.Rested) (at_ : r.phase = f.phase) :
    Call r f (frameRecv f) := by
  have arrived : r.arrive f = r := by rw [arrive_rested rested, ← at_]
  have stages : Stage 2 r f (f.recvHeader1 >>= fun c => c.recvExtPayloadlen >>= fun c => c.recvMaskkey) :=
    (stage_header1 live rested.sound).bind fun f₁ sound₁ late₁ =>
      (stage_extPayloadlen live sound₁ late₁).bind fun f₂ sound₂ late₂ => stage_maskkey live sound₂ late₂
  have parted : frameRecv f =
      (f.recvHeader1 >>= fun c => c.recvExtPayloadlen >>= fun c => c.recvMaskkey) >>= fun c =>
        c.recvPayload := by
    simp only [frameRecv, bind_assoc]
  rw [parted]
  generalize (f.recvHeader1 >>= fun c => c.recvExtPayloadlen >>= fun c => c.recvMaskkey) = result at stages ⊢
  rcases result with ⟨_ | _, f'⟩ | f'
  · rw [Stage, arrived] at stages
    obtain ⟨waiting, header, header', taken⟩ := stages
    refine ⟨waiting, ?_, fun payload => absurd payload header, taken⟩
    rw [FrameContext.off, if_neg header', FrameContext.off, if_neg header]
  · rw [Stage, arrived] at stages
    exact stages
  · obtain ⟨sound, late, same, start, p, front, moved, fed⟩ := stages
    rw [arrived] at fed
    have payload := payload_of_rank late
    show Call r f f'.recvPayload
    obtain ⟨ibuf, inbound, awaited⟩ := awaitPayload_eq f'
    have kept := pending_awaitPayload f'
    have waits := recvPayload_wait (r := r) sound payload
    have takes := recvPayload_take live sound payload
    unfold FrameContext.recvPayload
    rw [awaited] at kept waits takes ⊢
    dsimp only at waits takes ⊢
    have off : f'.ipayloadoff = f.off := by
      unfold FrameContext.off
      split
      next on => rw [same on]
      next header => exact start header payload
    by_cases none : (ibuf.isEmpty && decide (0 < f'.ipayloadlen - f'.ipayloadoff)) = true
    · rw [if_pos none]
      obtain ⟨waiting, -, phase⟩ := waits none
      refine ⟨waiting, ?_, ?_, p, ?_, fed.trans phase⟩
      · rw [← off]
        exact if_pos payload
      · intro on
        rw [← same on]
        exact ⟨rfl, rfl⟩
      · rw [front, kept]
    · rw [if_neg none]
      have taken := takes none
      obtain ⟨inside, whole⟩ := sound.payload payload
      have whatever : ibuf.take (f'.ipayloadlen - f'.ipayloadoff) = [] → f'.ipayloadlen = 0 := by
        intro nothing
        simp only [Bool.and_eq_true, List.isEmpty_iff, decide_eq_true_eq, not_and, not_lt] at none
        rcases List.take_eq_nil_iff.mp nothing with rest | empty
        · omega
        · have rest := none empty
          omega
      refine ⟨p ++ ibuf.take (f'.ipayloadlen - f'.ipayloadoff), ibuf.take (f'.ipayloadlen - f'.ipayloadoff),
        ?_, ?_, ?_, ?_, ?_, ?_, whatever, rfl, ?_, whole⟩
      · rw [front, ← kept]
        show p ++ (ibuf ++ inbound) = p ++ ibuf.take _ ++ (ibuf.drop _ ++ inbound)
        rw [List.append_assoc, ← List.append_assoc (ibuf.take _), List.take_append_drop]
      · rcases moved with rfl | moved
        · intro nothing
          have missing := rested.missing payload
          have empty := whatever (List.append_eq_nil_iff.mp nothing).2
          omega
        · exact List.append_ne_nil_of_left_ne_nil moved _
      · rw [feed_append, fed, taken, off]
        rfl
      · rw [mask_key, off]
        rfl
      · rw [off]
      · show f'.ipayloadoff + (ibuf.take (f'.ipayloadlen - f'.ipayloadoff)).length ≤ f'.ipayloadlen
        rw [List.length_take]
        omega
      · intro on
        rw [← same on]
        exact ⟨rfl, rfl⟩

theorem Took.rested {p raw : Bytes} {iocb : Iocb} (took : Took r f p raw iocb f') : f'.Rested := by
  have inside := took.inside
  have state := took.state
  split at state
  · refine FrameContext.Sound.rested ⟨?_, ?_, ?_⟩ (by rw [state]; exact FrameState.noConfusion)
    · intro _ ext
      exact absurd (state.symm.trans ext) FrameState.noConfusion
    · intro maskkey
      exact absurd (state.symm.trans maskkey) FrameState.noConfusion
    · intro payload
      exact absurd (state.symm.trans payload) FrameState.noConfusion
  next more =>
    have missing : f'.ipayloadoff < f'.ipayloadlen := by omega
    refine ⟨⟨?_, ?_, fun _ => ⟨.inl missing, took.whole⟩⟩, fun _ => missing⟩
    · intro _ ext
      exact absurd (state.symm.trans ext) FrameState.noConfusion
    · intro maskkey
      exact absurd (state.symm.trans maskkey) FrameState.noConfusion

/-- The bytes that are not enough are part of a header. -/
theorem feed_waiting (live : r.standing = .live) (waiting : f.Waiting) (at_ : r.phase = f.phase) :
    ∃ phase, r.feed f.pending = { r with phase := phase } := by
  have short := waiting.short
  rw [FrameContext.pending, waiting.inbound, List.append_nil]
  rw [FrameContext.phase] at at_
  cases state : f.istate with
  | header1 =>
      rw [state] at short at_
      rcases buffered : f.ibuf with _ | ⟨b0, _ | ⟨b1, rest⟩⟩
      · exact ⟨r.phase, rfl⟩
      · refine ⟨.second b0, ?_⟩
        rw [feed_cons, feed_nil, byte, if_neg (not_not.mpr live), at_]
      · rw [buffered, if_neg FrameState.noConfusion] at short
        simp only [List.length_cons, FrameState.ireqread] at short
        omega
  | extPayloadlen ireqread =>
      rw [state, if_neg FrameState.noConfusion] at short
      rw [state] at at_
      exact ⟨_, feed_ext_part _ live at_ ((Nat.zero_add _).trans_lt short)⟩
  | maskkey =>
      rw [state, if_neg FrameState.noConfusion] at short
      rw [state] at at_
      exact ⟨_, feed_key_part _ live at_ ((Nat.zero_add _).trans_lt short)⟩
  | payload =>
      rw [state, if_pos rfl] at short
      rw [short]
      exact ⟨r.phase, rfl⟩

end Reader

end Wslay

end H2ts
