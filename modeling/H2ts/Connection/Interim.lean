import H2ts.Connection.Erasure
import H2ts.Connection.Heads
import H2ts.Connection.Isolation

/-!
# Interim responses

A response may come with any number of interim ones (status 1xx) before it.  On a stream
that waits for its head, a complete interim block without END_STREAM changes the table of
the header decoder and nothing else (`arrive_passing`).  So with or without such blocks a
run comes to the same client, up to the record of what was received (`alike_thinned`).

What the caller gets can be told from the blocks and the DATA in the order in which they
came (`Tells`): the head is the first block that is not interim, and the trailers are the
last block after it.  This holds after every arrival, so in particular when the body has
ended (`interim_traceless`).
-/

namespace H2ts

open Hpack

/-- What comes on a stream: a complete header block, in fragments, or DATA. -/
inductive Arrival where
  | block (first : Bytes) (rest : List Bytes) (endStream : Bool) (priority : Option Priority)
  | data (bytes : Bytes) (endStream : Bool)
deriving DecidableEq

namespace Arrival

def frames (id : UInt32) : Arrival → List Frame
  | block first rest endStream priority => (Opening.headers id endStream priority).frames first rest
  | data bytes endStream => [.data id bytes endStream]

end Arrival

/-- What an arrival says: the headers of a block, or DATA. -/
inductive Content where
  | block (headers : List Header) (endStream : Bool)
  | data (bytes : Bytes) (endStream : Bool)
deriving DecidableEq

namespace Client

variable {c d : Client} {id : UInt32}

/-- The frames of an arrival are dispatched. -/
def arrive (id : UInt32) (c : Client) (x : Arrival) : Client :=
  Machine.run step c ((x.frames id).map .frame)

/-- An arrival and what it says.  A block that is too long says nothing, and neither does one
that cannot be decoded. -/
def Says (c : Client) : Arrival → Content → Prop
  | .block first rest endStream _, content =>
      (first :: rest).flatten.length ≤ MAX_HEADER_BLOCK_SIZE ∧
        ∃ headers, (c.decoder.decode (first :: rest).flatten).2 = .ok headers ∧
          content = .block headers endStream
  | .data bytes endStream, content => content = .data bytes endStream

/-- The client once the header decoder has seen a block. -/
def tabled (c : Client) (block : Bytes) : Client := { c with decoder := (c.decoder.decode block).1 }

/-! ## Complete blocks -/

/-- Frames that are all dispatched. -/
theorem run_dispatchAll {frames : List Frame} (accepted : (c.dispatchAll frames).2 = .ok ()) :
    Machine.run step c (frames.map .frame) = (c.dispatchAll frames).1 := by
  induction frames generalizing c with
  | nil => rfl
  | cons frame frames ih =>
      rw [dispatchAll] at accepted ⊢
      have now : c.step (.frame frame) = c.onFrame frame := rfl
      rw [List.map_cons, Machine.run_cons, now, onFrame]
      revert accepted
      obtain ⟨d, result⟩ := c.dispatch frame
      cases result with
      | error fault =>
          intro accepted
          cases accepted
      | ok done => exact ih

/-- A complete block is decoded and goes to its stream. -/
theorem arrive_block (idle : c.pendingHeaderBlock = none) {first : Bytes} {rest : List Bytes}
    {endStream : Bool} {priority : Option Priority} {headers : List Header}
    (short : (first :: rest).flatten.length ≤ MAX_HEADER_BLOCK_SIZE)
    (decoded : (c.decoder.decode (first :: rest).flatten).2 = .ok headers) :
    c.arrive id (.block first rest endStream priority) =
      (c.tabled (first :: rest).flatten).takeHeaderBlock
        ((Opening.headers id endStream priority).pending (first :: rest)) headers := by
  have completed : (c.await (.headers id endStream priority) (first :: rest)).completeHeaderBlock =
      ((c.tabled (first :: rest).flatten).takeHeaderBlock
        ((Opening.headers id endStream priority).pending (first :: rest)) headers, .ok ()) := by
    have cleared : { c with
        pendingHeaderBlock := none, decoder := (c.decoder.decode (first :: rest).flatten).1 } =
        c.tabled (first :: rest).flatten := by
      rw [← idle]
      rfl
    simp only [completeHeaderBlock, await, Opening.pending, decoded, cleared]
  have dispatched : c.dispatchAll ((Opening.headers id endStream priority).frames first rest) =
      (c.await (.headers id endStream priority) (first :: rest)).completeHeaderBlock := by
    have one : [first].flatten.length ≤ MAX_HEADER_BLOCK_SIZE := by
      simp only [List.flatten_cons, List.length_append] at short ⊢
      simp only [List.flatten_nil, List.length_nil]
      omega
    rw [Opening.frames, dispatchAll, dispatch_opening idle, growHeaderBlock_short c _ one]
    cases rest with
    | nil =>
        simp only [List.isEmpty_nil, if_true, continuations]
        rcases (c.await (.headers id endStream priority) [first]).completeHeaderBlock with
          ⟨c', fault | done⟩ <;> rfl
    | cons next rest =>
        simp only [List.isEmpty_cons, Bool.false_eq_true, if_false, Outcome.andThen]
        exact dispatchAll_continuations c _ (next :: rest) (by simp) [first] short
  have accepted := congrArg Prod.snd (dispatched.trans completed)
  rw [arrive, Arrival.frames, run_dispatchAll accepted]
  exact congrArg Prod.fst (dispatched.trans completed)

/-! ## Interim blocks -/

/-- A stream that stays as it is. -/
theorem withStream_same {f : StreamState → Cell → StreamState × Cell} {s : StreamState}
    (found : c.streams.lookup id = some s) (same : f s (c.cells s.cell) = (s, c.cells s.cell)) :
    c.withStream id f = c := by
  have streams : KeyMap.modify id (fun _ => s) c.streams = c.streams := KeyMap.modify_same found rfl
  have cells : Function.update c.cells s.cell (c.cells s.cell) = c.cells :=
    Function.update_eq_self _ _
  simp only [withStream, found, same, modifyStream, modifyCell, streams, cells]

/-- A complete interim block without END_STREAM, for a stream that waits for its head. -/
def Passing (id : UInt32) (c : Client) (first : Bytes) (rest : List Bytes) : Prop :=
  c.pendingHeaderBlock = none ∧
    (first :: rest).flatten.length ≤ MAX_HEADER_BLOCK_SIZE ∧
    (∃ s, c.streams.lookup id = some s ∧ s.gotHead = false) ∧
    ∃ headers, (c.decoder.decode (first :: rest).flatten).2 = .ok headers ∧
      isInterim headers = true

/-- It changes the header table. -/
theorem arrive_passing {first : Bytes} {rest : List Bytes} (passing : Passing id c first rest)
    (priority : Option Priority) :
    Alike (c.arrive id (.block first rest false priority)) (c.tabled (first :: rest).flatten) := by
  obtain ⟨idle, short, ⟨s, found, waiting⟩, headers, decoded, interim⟩ := passing
  rw [arrive_block idle short decoded]
  have unmoved : (c.tabled (first :: rest).flatten).receiveBlock id headers false =
      (c.tabled (first :: rest).flatten).record (.block id headers false) := by
    have same : s.receiveHeaders (c.cells s.cell) headers false = (s, c.cells s.cell) := by
      rw [StreamState.receiveHeaders, waiting, interim]
      rfl
    have still : s.closeRemote false = s := by rw [StreamState.closeRemote, Bool.or_false]
    refine withStream_same (s := s) found ?_
    show ((s.receiveHeaders (c.cells s.cell) headers false).1.closeRemote false,
      (s.receiveHeaders (c.cells s.cell) headers false).2) = _
    rw [same, still]
    rfl
  simp only [takeHeaderBlock, Opening.pending, Bool.false_eq_true, if_false]
  rw [unmoved]
  rfl

/-! ## Deleting them -/

end Client

/-- A script: sections that are kept, and interim blocks. -/
inductive Item where
  | kept (action : Action)
  | interim (first : Bytes) (rest : List Bytes) (priority : Option Priority)
deriving DecidableEq

namespace Client

variable {c d : Client} {id : UInt32}

/-- Everything comes. -/
def played (id : UInt32) (c : Client) : Item → Client
  | .kept a => c.step a
  | .interim first rest priority => c.arrive id (.block first rest false priority)

/-- The interim blocks are deleted, but for what they do to the header table. -/
def thinned (c : Client) : Item → Client
  | .kept a => c.step a
  | .interim first rest _ => c.tabled (first :: rest).flatten

/-- The block may be deleted. -/
def Deletable (id : UInt32) (c : Client) : Item → Prop
  | .kept _ => True
  | .interim first rest _ => Passing id c first rest

theorem alike_tabled (alike : Alike c d) (block : Bytes) : Alike (c.tabled block) (d.tabled block) :=
  alike.update (fun c => c.tabled block) fun _ _ => rfl

/-- Without the interim blocks, the same. -/
theorem alike_thinned (alike : Alike c d) {items : List Item}
    (along : Machine.Along (played id) (Deletable id) c items) :
    Alike (Machine.run (played id) c items) (Machine.run thinned d items) := by
  induction items generalizing c d with
  | nil => exact alike
  | cons item items ih =>
      cases item with
      | kept a => exact ih (alike.step a) along.2
      | interim first rest priority =>
          have passed := (arrive_passing along.1 priority).trans (alike_tabled alike _)
          exact ih passed along.2

end Client

/-! ## What comes of the contents -/

namespace Content

def endStream : Content → Bool
  | block _ endStream => endStream
  | data _ endStream => endStream

/-- The headers of a block. -/
def headers : Content → Option (List Header)
  | block headers _ => some headers
  | data _ _ => none

/-- The headers of a block that is not interim. -/
def final : Content → Option (List Header)
  | block headers _ => if isInterim headers then none else some headers
  | data _ _ => none

/-- The first block that is not interim. -/
def head (contents : List Content) : Option (List Header) := contents.findSome? final

/-- What comes after it. -/
def afterHead : List Content → List Content
  | [] => []
  | content :: contents => if content.final.isSome then contents else afterHead contents

/-- The last block after it. -/
def trailers (contents : List Content) : Option (List Header) :=
  ((afterHead contents).filterMap headers).getLast?

/-- What a stream and its cells become. -/
def take : Content → StreamState → Cell → StreamState × Cell
  | block headers endStream => StreamState.takeHeaders headers endStream
  | data bytes endStream => StreamState.takeData bytes endStream

variable {contents : List Content} {content : Content}

theorem head_append : head (contents ++ [content]) = (head contents).or content.final := by
  rw [head, List.findSome?_append, List.findSome?_singleton]
  rfl

theorem afterHead_append : afterHead (contents ++ [content]) =
    if (head contents).isSome then afterHead contents ++ [content] else [] := by
  induction contents with
  | nil =>
      show (if content.final.isSome then [] else []) = if (head []).isSome then [content] else []
      rw [ite_self]
      rfl
  | cons first contents ih =>
      rw [List.cons_append, afterHead, head, List.findSome?_cons, afterHead]
      cases final : first.final with
      | none => exact ih
      | some raw => rfl

theorem trailers_headless (headless : head contents = none) : trailers contents = none := by
  have nothing : afterHead contents = [] := by
    induction contents with
    | nil => rfl
    | cons first contents ih =>
        rw [head, List.findSome?_cons] at headless
        rw [afterHead]
        cases final : first.final with
        | none =>
            rw [final] at headless
            exact ih headless
        | some raw =>
            rw [final] at headless
            cases headless
  rw [trailers, nothing]
  rfl

theorem trailers_append : trailers (contents ++ [content]) =
    if (head contents).isSome then content.headers.or (trailers contents) else none := by
  rw [trailers, afterHead_append]
  split
  · rw [List.filterMap_append, List.getLast?_append]
    cases content <;> rfl
  · rfl

end Content

/-- The stream and its cells after some contents. -/
structure Tells (before : Cell) (contents : List Content) (s : StreamState) (x : Cell) : Prop where
  fits : Fits s x
  got : s.gotHead = (Content.head contents).isSome
  head : ∀ raw, Content.head contents = some raw → x.head = .sent (.ok (collectHeaders raw))
  trailers : x.trailers =
    ((Content.trailers contents).map fun raw => (collectHeaders raw).headers).or before.trailers
  ended : x.recv.ended = true →
    before.recv.ended = true ∨ ∃ content ∈ contents, content.endStream = true

namespace Tells

variable {before x : Cell} {contents : List Content} {s : StreamState}

theorem start (fits : Fits s x) (waiting : s.gotHead = false) : Tells x [] s x := by
  refine ⟨fits, waiting, fun raw found => ?_, ?_, .inl⟩
  · cases found
  · exact (Option.none_or).symm

/-- Nothing but the end of the body changes. -/
theorem later (tells : Tells before contents s x) {content : Content} {s' : StreamState} {y : Cell}
    (fits : Fits s' y) (got : s'.gotHead = s.gotHead)
    (head : y.head = x.head) (trailers : y.trailers = x.trailers)
    (ended : y.recv.ended = true → x.recv.ended = true ∨ content.endStream = true)
    (final : content.final = none)
    (plain : (Content.head contents).isSome = true → content.headers = none) :
    Tells before (contents ++ [content]) s' y := by
  have first : Content.head (contents ++ [content]) = Content.head contents := by
    rw [Content.head_append, final, Option.or_none]
  have last : Content.trailers (contents ++ [content]) = Content.trailers contents := by
    rw [Content.trailers_append]
    split
    next headed => rw [plain headed, Option.none_or]
    next headless => exact (Content.trailers_headless (Option.not_isSome_iff_eq_none.mp headless)).symm
  refine ⟨fits, ?_, ?_, ?_, fun now => ?_⟩
  · rw [got, first]
    exact tells.got
  · rw [first, head]
    exact tells.head
  · rw [trailers, last]
    exact tells.trailers
  · rcases ended now with was | now
    · rcases tells.ended was with was | ⟨content', mem, ends⟩
      · exact .inl was
      · exact .inr ⟨content', List.mem_append_left _ mem, ends⟩
    · exact .inr ⟨content, List.mem_append_right _ (.head _), now⟩

theorem endWith_trailers (endStream : Bool) (y : Cell) : (y.endWith endStream).trailers = y.trailers := by
  unfold Cell.endWith
  split <;> rfl

/-- The end of a body with a block. -/
theorem ended_endWith (tells : Tells before contents s x) {endStream : Bool} {y : Cell}
    (now : (y.endWith endStream).recv.ended = true) (same : y.recv = x.recv)
    (headers : List Header) : before.recv.ended = true ∨
      ∃ content ∈ contents ++ [.block headers endStream], content.endStream = true := by
  rw [(Cell.endWith_spec _ _).2.2.2, same, Bool.or_eq_true] at now
  rcases now with was | ends
  · rcases tells.ended was with was | ⟨content, mem, ends⟩
    · exact .inl was
    · exact .inr ⟨content, List.mem_append_left _ mem, ends⟩
  · exact .inr ⟨.block headers endStream, List.mem_append_right _ (.head _), ends⟩

/-- The head arrives. -/
theorem heading (tells : Tells before contents s x) (waiting : s.gotHead = false)
    {headers : List Header} (final : isInterim headers = false) (endStream : Bool) {s' : StreamState}
    {y : Cell} (got : s'.gotHead = true)
    (made : y = Cell.endWith endStream { x with head := .sent (.ok (collectHeaders headers)) })
    (fits : Fits s' y) : Tells before (contents ++ [.block headers endStream]) s' y := by
  have headless : Content.head contents = none := by
    rw [← Option.not_isSome_iff_eq_none, ← tells.got, waiting]
    exact Bool.false_ne_true
  have first : Content.head (contents ++ [.block headers endStream]) = some headers := by
    rw [Content.head_append, headless, Option.none_or, Content.final, final]
    rfl
  have last : Content.trailers (contents ++ [.block headers endStream]) = none := by
    rw [Content.trailers_append, headless]
    rfl
  subst made
  refine ⟨fits, ?_, fun raw found => ?_, ?_, fun now => tells.ended_endWith now rfl headers⟩
  · rw [got, first]
    rfl
  · rw [first] at found
    cases found
    exact (Cell.endWith_spec _ _).2.1
  · have before := tells.trailers
    rw [Content.trailers_headless headless] at before
    rw [last, endWith_trailers]
    exact before

/-- Trailers arrive. -/
theorem trailing (tells : Tells before contents s x) (answered : s.gotHead = true)
    (headers : List Header) (endStream : Bool) {s' : StreamState} {y : Cell} (got : s'.gotHead = true)
    (made : y = Cell.endWith endStream { x with trailers := some (collectHeaders headers).headers })
    (fits : Fits s' y) : Tells before (contents ++ [.block headers endStream]) s' y := by
  have headed : (Content.head contents).isSome = true := tells.got.symm.trans answered
  have first : Content.head (contents ++ [.block headers endStream]) = Content.head contents := by
    rw [Content.head_append, Option.or_of_isSome headed]
  have last : Content.trailers (contents ++ [.block headers endStream]) = some headers := by
    rw [Content.trailers_append, if_pos headed]
    rfl
  subst made
  refine ⟨fits, ?_, fun raw found => ?_, ?_, fun now => tells.ended_endWith now rfl headers⟩
  · rw [got, first, headed]
  · rw [first] at found
    rw [(Cell.endWith_spec _ _).2.1]
    exact tells.head raw found
  · rw [last, endWith_trailers]
    rfl

theorem append (tells : Tells before contents s x) (content : Content) :
    Tells before (contents ++ [content]) (content.take s x).1 (content.take s x).2 := by
  cases content with
  | data bytes endStream =>
      have ended (r : RecvState) : (r.receiveData bytes endStream).ended = (r.ended || endStream) := by
        unfold RecvState.receiveData
        split <;> rfl
      refine tells.later ((tends_data bytes endStream).fits s x tells.fits) rfl rfl rfl (fun now => ?_) rfl
        fun _ => rfl
      have now : (x.recv.receiveData bytes endStream).ended = true := now
      rw [ended, Bool.or_eq_true] at now
      exact now
  | block headers endStream =>
      show Tells before _ ((s.receiveHeaders x headers endStream).1.closeRemote endStream)
        (s.receiveHeaders x headers endStream).2
      have fits := (tends_block headers endStream).fits s x tells.fits
      revert fits
      unfold StreamState.receiveHeaders
      cases got : s.gotHead with
      | true => exact fun fits => tells.trailing got headers endStream got rfl fits
      | false =>
          cases interim : isInterim headers with
          | true =>
              refine fun fits => tells.later fits rfl rfl rfl .inl ?_ fun headed => ?_
              · simp only [Content.final, interim, if_true]
              · rw [← tells.got, got] at headed
                cases headed
          | false =>
              have headTx := (tells.fits.unanswered got).1
              refine fun fits => tells.heading got interim endStream rfl ?_ fits
              simp only [StreamState.sendHead, headTx]
              rfl

end Tells

namespace Client

variable {fine : Client → Action → Prop} {c d : Client} {id : UInt32} {k : Nat} {s : StreamState} {x : Cell}

/-- The stream of an id and its cells. -/
structure Stands (id : UInt32) (k : Nat) (s : StreamState) (x : Cell) (c : Client) : Prop where
  found : c.streams.lookup id = some s
  own : s.cell = k
  cell : c.cells k = x

/-- The stream is in the map, or was dropped from it. -/
def StandsOrLeft (id : UInt32) (k : Nat) (s : StreamState) (x : Cell) (c : Client) : Prop :=
  Stands id k s x c ∨ c.streams.lookup id = none ∧ c.cells k = s.drop x

theorem Stands.withStream (stands : Stands id k s x c) {f : StreamState → Cell → StreamState × Cell}
    (own : (f s x).1.cell = s.cell) : Stands id k (f s x).1 (f s x).2 (c.withStream id f) := by
  obtain ⟨found, rfl, rfl⟩ := stands
  simp only [Client.withStream, found]
  refine ⟨?_, own, Function.update_self _ _ _⟩
  show (KeyMap.modify id _ c.streams).lookup id = _
  rw [KeyMap.lookup_modify, found]
  rfl

theorem Stands.retire (stands : Stands id k s x c) : StandsOrLeft id k s x (c.retireIfFullyClosed id) := by
  obtain ⟨found, rfl, rfl⟩ := stands
  simp only [retireIfFullyClosed, found]
  split
  · exact .inr ⟨AList.lookup_erase id c.streams, Function.update_self _ _ _⟩
  · exact .inl ⟨found, rfl, rfl⟩

/-- An arrival does to its stream what it says. -/
theorem standsOrLeft_arrive (idle : c.pendingHeaderBlock = none) (stands : Stands id k s x c)
    {arrival : Arrival} {content : Content} (said : Says c arrival content) :
    StandsOrLeft id k (content.take s x).1 (content.take s x).2 (c.arrive id arrival) ∧
      (c.arrive id arrival).pendingHeaderBlock = none := by
  cases arrival with
  | block first rest endStream priority =>
      obtain ⟨short, headers, decoded, rfl⟩ := said
      have context := headerContext_of_inbound (inbound_takeHeaderBlock (c.tabled (first :: rest).flatten)
        ((Opening.headers id endStream priority).pending (first :: rest)) headers)
      rw [arrive_block idle short decoded]
      refine ⟨?_, (congrArg Prod.snd context).trans idle⟩
      have before : Stands id k s x
          ((c.tabled (first :: rest).flatten).record (.block id headers endStream)) :=
        ⟨stands.found, stands.own, stands.cell⟩
      have received := before.withStream (f := StreamState.takeHeaders headers endStream)
        ((tends_block headers endStream).cell s x)
      cases endStream with
      | true => exact received.retire
      | false => exact .inl received
  | data bytes endStream =>
      cases said
      have before : Stands id k s x (c.record (.data id bytes endStream)) :=
        ⟨stands.found, stands.own, stands.cell⟩
      have received := before.withStream (f := StreamState.takeData bytes endStream) rfl
      have present : id ∈ c.streams := AList.lookup_isSome.mp (by rw [stands.found]; rfl)
      have arrived : c.arrive id (.data bytes endStream) =
          if endStream then ((c.record (.data id bytes endStream)).withStream id
            (StreamState.takeData bytes endStream)).retireIfFullyClosed id
          else (c.record (.data id bytes endStream)).withStream id
            (StreamState.takeData bytes endStream) := by
        have taken : c.receiveDataFrame id bytes endStream = (c.record (.data id bytes endStream)).withStream
            id (StreamState.takeData bytes endStream) := if_pos present
        show c.onFrame (.data id bytes endStream) = _
        simp only [onFrame, dispatch, idle, Option.isSome_none, Bool.false_and, Bool.false_eq_true,
          if_false, dispatchFrame, taken]
      have context : (c.arrive id (.data bytes endStream)).inbound = c.inbound := by
        rw [arrived]
        split
        · rw [inbound_retireIfFullyClosed, inbound_withStream, inbound_record]
        · rw [inbound_withStream, inbound_record]
      refine ⟨?_, (congrArg Prod.snd (headerContext_of_inbound context)).trans idle⟩
      rw [arrived]
      cases endStream with
      | true => exact received.retire
      | false => exact .inl received

/-- An arrival on a stream that is still in the map. -/
def Arrives (id : UInt32) (c : Client) (x : Arrival × Content) : Prop :=
  id ∈ c.streams ∧ Says c x.1 x.2

/-- After every arrival, the stream and its cells tell what has arrived. -/
theorem tells_run (idle : c.pendingHeaderBlock = none) (stands : Stands id k s x c) (fits : Fits s x)
    (waiting : s.gotHead = false) (arrivals : List (Arrival × Content))
    (along : Machine.Along (fun c x => c.arrive id x.1) (Arrives id) c arrivals) :
    (Machine.run (fun c x => c.arrive id x.1) c arrivals).pendingHeaderBlock = none ∧
      ∃ s' y, StandsOrLeft id k s' y (Machine.run (fun c x => c.arrive id x.1) c arrivals) ∧
        Tells x (arrivals.map Prod.snd) s' y := by
  induction arrivals using List.reverseRecOn with
  | nil => exact ⟨idle, s, x, .inl stands, .start fits waiting⟩
  | append_singleton arrivals arrival ih =>
      obtain ⟨before, ⟨present, said⟩, -⟩ := Machine.along_append.mp along
      obtain ⟨idle', s', y, standing, tells⟩ := ih before
      rw [Machine.run_append, Machine.run_cons, Machine.run_nil, List.map_append]
      rcases standing with stands' | ⟨missing, -⟩
      · obtain ⟨stands'', idle''⟩ := standsOrLeft_arrive idle' stands' said
        exact ⟨idle'', _, _, stands'', tells.append _⟩
      · exact absurd present (AList.lookup_eq_none.mp missing)

/-- What is left of the stream tells the same. -/
theorem StandsOrLeft.tells {before : Cell} {contents : List Content}
    (standing : StandsOrLeft id k s x c) (tells : Tells before contents s x) :
    (∀ raw, Content.head contents = some raw ↔
      (c.cells k).head = .sent (.ok (collectHeaders raw))) ∧
      (c.cells k).trailers = x.trailers ∧ (c.cells k).recv = x.recv := by
  -- A stream without its head has not sent one, and sends none when it is dropped.
  have unsent (headless : Content.head contents = none) (head : Head) :
      x.head ≠ .sent (.ok head) ∧ (s.drop x).head ≠ .sent (.ok head) := by
    have waiting : s.gotHead = false := by rw [tells.got, headless]; rfl
    obtain ⟨-, empty⟩ := tells.fits.unanswered waiting
    rw [tells.fits.dropped, waiting, empty]
    refine ⟨fun found => ?_, fun found => ?_⟩ <;> cases found
  have sent (raw : List Header) (headed : Content.head contents = some raw) :
      (s.drop x).head = .sent (.ok (collectHeaders raw)) := by
    have answered : s.gotHead = true := by rw [tells.got, headed]; rfl
    rw [tells.fits.dropped, answered]
    exact tells.head raw headed
  have tell {y : Cell} (unsent : ∀ head, Content.head contents = none → y.head ≠ .sent (.ok head))
      (sent : ∀ raw, Content.head contents = some raw → y.head = .sent (.ok (collectHeaders raw)))
      (raw : List Header) :
      Content.head contents = some raw ↔ y.head = .sent (.ok (collectHeaders raw)) := by
    refine ⟨sent raw, fun found => ?_⟩
    cases headed : Content.head contents with
    | none => exact absurd found (unsent _ headed)
    | some raw' =>
        have same := (sent raw' headed).symm.trans found
        injection same with same
        injection same with same
        exact congrArg (fun head : Head => some head.raw) same
  rcases standing with stands | ⟨-, dropped⟩
  · rw [stands.cell]
    exact ⟨tell (fun head headless => (unsent headless head).1) tells.head, rfl, rfl⟩
  · rw [dropped]
    refine ⟨tell (fun head headless => (unsent headless head).2) sent, ?_, ?_⟩
    · rw [tells.fits.dropped]
    · rw [tells.fits.dropped]

/-! ## No trailers before the head -/

/-- A stream that waits for its head has no trailers. -/
def Bare (c : Client) : Prop :=
  ∀ id s, c.streams.lookup id = some s → s.gotHead = false → (c.cells s.cell).trailers = none

namespace Bare

theorem keep (bare : Bare c) (origin : ∀ id s', d.streams.lookup id = some s' → s'.gotHead = false →
    ∃ s, c.streams.lookup id = some s ∧ s.gotHead = false ∧
      (d.cells s'.cell).trailers = (c.cells s.cell).trailers) : Bare d := by
  intro id s' found waiting
  obtain ⟨s, before, waited, same⟩ := origin id s' found waiting
  exact same.trans (bare id s before waited)

theorem cells (bare : Bare c) (streams : d.streams = c.streams)
    (cells : ∀ k, (d.cells k).trailers = (c.cells k).trailers) : Bare d := by
  refine bare.keep fun id s found waiting => ⟨s, ?_, waiting, cells s.cell⟩
  rw [← streams]
  exact found

theorem modifyCell (bare : Bare c) (k : Nat) {f : Cell → Cell}
    (same : (f (c.cells k)).trailers = (c.cells k).trailers) : Bare (c.modifyCell k f) := by
  refine bare.cells rfl fun j => ?_
  rcases eq_or_ne j k with rfl | ne
  · simp only [Client.modifyCell, Function.update_self]
    exact same
  · simp only [Client.modifyCell, Function.update_of_ne ne]

theorem sendFrame (bare : Bare c) (frame : Frame) : Bare (c.sendFrame frame) := by
  unfold Client.sendFrame
  split
  · exact bare
  · exact bare

theorem wakePumps (bare : Bare c) (wakers : List Nat) : Bare (c.wakePumps wakers) := by
  refine bare.cells rfl fun k => ?_
  obtain ⟨parked, cell⟩ := c.cells_wakePumps wakers k
  rw [cell]

theorem replenishRecvWindow (bare : Bare c) (id : UInt32) (n : Nat) :
    Bare (c.replenishRecvWindow id n) := by
  unfold Client.replenishRecvWindow
  split
  · exact bare
  · simp only []
    split
    · exact (bare.sendFrame _).sendFrame _
    · exact bare.sendFrame _

/-- A stream leaves the map, and the cells of the others stay. -/
theorem erase (bare : Bare c) (served : Served c) {s : StreamState}
    (found : c.streams.lookup id = some s) (streams : d.streams = c.streams.erase id)
    (cells : ∀ k, k ≠ s.cell → (d.cells k).trailers = (c.cells k).trailers) : Bare d := by
  refine bare.keep fun id' s' found' waiting => ?_
  rw [streams] at found'
  have ne : id' ≠ id := by
    rintro rfl
    rw [AList.lookup_erase] at found'
    cases found'
  rw [AList.lookup_erase_ne ne] at found'
  exact ⟨s', found', waiting, cells _ (served.cell_ne found found' ne)⟩

/-- A stream and its cells change.  If it still waits for its head, the trailers do not. -/
theorem withStream (bare : Bare c) (served : Served c) (id : UInt32)
    {f : StreamState → Cell → StreamState × Cell} (tends : Tends f)
    (still : ∀ s x, (f s x).1.gotHead = false → s.gotHead = false ∧ (f s x).2.trailers = x.trailers) :
    Bare (c.withStream id f) := by
  cases found : c.streams.lookup id with
  | none =>
      simp only [Client.withStream, found]
      exact bare
  | some s =>
      simp only [Client.withStream, found]
      refine bare.keep fun id' s' found' waiting => ?_
      simp only [Client.modifyCell, modifyStream] at found' ⊢
      rcases eq_or_ne id' id with rfl | ne
      · rw [KeyMap.lookup_modify, found] at found'
        obtain rfl := Option.some.inj found'
        obtain ⟨waited, same⟩ := still s (c.cells s.cell) waiting
        refine ⟨s, found, waited, ?_⟩
        rw [tends.cell, Function.update_self]
        exact same
      · rw [KeyMap.lookup_modify_ne ne] at found'
        refine ⟨s', found', waiting, ?_⟩
        rw [Function.update_of_ne (served.cell_ne found found' ne)]

theorem receiveBlock (bare : Bare c) (served : Served c) (id : UInt32) (headers : List Header)
    (endStream : Bool) : Bare (c.receiveBlock id headers endStream) := by
  have noted : Bare (c.record (.block id headers endStream)) := bare
  refine noted.withStream (served_record served _).1 id (tends_block headers endStream) fun s x => ?_
  show (s.receiveHeaders x headers endStream).1.gotHead = false → _
  unfold StreamState.receiveHeaders
  cases got : s.gotHead with
  | true =>
      intro waiting
      exact absurd (got.symm.trans waiting) Bool.true_eq_false.mp
  | false =>
      cases isInterim headers with
      | true => exact fun _ => ⟨rfl, rfl⟩
      | false =>
          intro waiting
          cases waiting

theorem chore (bare : Bare c) (served : Served c) (chore : Chore c d) : Bare d := by
  cases chore with
  | note e plain unsent => exact bare
  | send frame plain live => exact bare
  | tune => exact bare
  | restream f alike =>
      refine bare.keep fun id s' found waiting => ?_
      rw [KeyMap.lookup_mapWithKey] at found
      obtain ⟨s, before, rfl⟩ := Option.map_eq_some_iff.mp found
      refine ⟨s, before, (alike id s).gotHead.symm.trans waiting, ?_⟩
      rw [(alike id s).cell]
  | repump f same =>
      refine bare.cells rfl fun k => ?_
      simp only []
      rw [same]
  | block id headers endStream => exact bare.receiveBlock served id headers endStream
  | remove id err =>
      cases found : c.streams.lookup id with
      | none =>
          simp only [removeAndFail, found]
          exact bare
      | some s =>
          obtain ⟨x, -, -, -, -, cells⟩ := cells_removeAndFail served found err
          refine bare.erase served found ?_ fun k ne => ?_
          · simp only [removeAndFail, found, record, Client.modifyCell, Client.wakePumps]
          · rw [cells, Function.update_of_ne ne]
            obtain ⟨parked, cell⟩ := c.cells_wakePumps s.sendWindow.close.2 k
            rw [cell]
  | retire id =>
      cases found : c.streams.lookup id with
      | none =>
          simp only [retireIfFullyClosed, found]
          exact bare
      | some s =>
          simp only [retireIfFullyClosed, found]
          split
          · refine bare.erase served found rfl fun k ne => ?_
            simp only [wakeSlotWaiters, record, Client.modifyCell, Function.update_of_ne ne]
          · exact bare

theorem chores (bare : Bare c) (served : Served c) (chores : Chores c d) : Bare d := by
  induction chores with
  | refl => exact bare
  | tail before chore ih => exact ih.chore (served_chores before served).1 chore

theorem receiveDataFrame (bare : Bare c) (served : Served c) (id : UInt32) (bytes : Bytes)
    (endStream : Bool) : Bare (c.receiveDataFrame id bytes endStream) := by
  have noted : Bare (c.record (.data id bytes endStream)) := bare
  unfold Client.receiveDataFrame
  simp only []
  split
  · exact noted.withStream (served_record served _).1 id (tends_data bytes endStream)
      fun s x waiting => ⟨waiting, rfl⟩
  · split
    · exact noted.sendFrame _
    · exact noted

theorem registerStream (bare : Bare c) (served : Served c) (i : Nat) (body : RequestBody) :
    Bare (c.registerStream i body) := by
  intro id' s' found waiting
  rw [streams_registerStream] at found
  rw [cells_registerStream]
  rcases eq_or_ne id' c.nextStreamId with rfl | ne
  · rw [AList.lookup_insert] at found
    obtain rfl := Option.some.inj found
    have own : (c.newStream body).cell = c.opened := rfl
    rw [own, Function.update_self]
    rfl
  · rw [AList.lookup_insert_ne ne] at found
    have kept := bare id' s' found waiting
    rw [Function.update_of_ne (Nat.ne_of_lt (served.mapped id' s' found).1)]
    cases evicted : c.streams.lookup c.nextStreamId with
    | none => exact kept
    | some s =>
        simp only [Function.update_of_ne (served.cell_ne evicted found ne)]
        exact kept

theorem turn (turn : Turn fine c d) (served : Served c) (bare : Bare c) : Bare d := by
  have shutDown {c : Client} (bare : Bare c) (err : H2Error) : Bare (c.shutDown err) := by
    have closed : Bare { c with
        closed := true, closeError := some err, connSendWindow := c.connSendWindow.close.1 } := bare
    exact closed.wakePumps _
  have settle {i k : Nat} (call : Call) (holder : Holder) : Bare (c.settle i k call holder) := by
    have called : Bare { c with calls := Function.update c.calls i call } := bare
    exact called.modifyCell k rfl
  cases turn with
  | chore chore => exact bare.chore served chore
  | credit id increment asked => exact bare
  | data id bytes endStream asked => exact bare.receiveDataFrame served id bytes endStream
  | pong opaqueData =>
      unfold receivePing
      simp only [if_true]
      split
      · exact bare
      · exact bare
  | shut err live => exact shutDown bare err
  | farewell lastStreamId errorCode err live => exact shutDown (bare.sendFrame _) err
  | failPings err => exact bare
  | hangUp closed => exact bare
  | count => exact bare
  | enter made before idle => exact bare
  | register body made before => exact bare.registerStream served _ body
  | respond awaiting arrived => exact settle _ _
  | refuse err awaiting arrived failed => exact settle _ _
  | dropCall awaiting asked => exact settle _ _
  | chunk reading queued asked => exact (bare.modifyCell _ rfl).replenishRecvWindow _ _
  | look recv yields queue buffered ended error => exact bare.modifyCell _ rfl
  | @dropBody k reading asked =>
      have released := served_modifyCell served k (f := fun cell => { cell with holder := .gone })
        ⟨rfl, rfl, rfl, .inl rfl⟩
      have bare' := bare.modifyCell k (f := fun cell => { cell with holder := .gone }) rfl
      have returned := served_replenishRecvWindow released.1 (c.cells k).id (c.cells k).recv.buffered
      have bare'' := bare'.replenishRecvWindow (c.cells k).id (c.cells k).recv.buffered
      simp only [Client.dropBody, reading, if_true]
      split
      · exact bare''
      · exact bare''.chores returned.1 (chores_resetStream _ (c.cells k).id .cancel)
  | ping =>
      obtain ⟨-, streams, cells⟩ := c.ping_still
      refine bare.cells streams fun k => ?_
      rw [cells]

theorem turns (turns : Turns fine c d) (served : Served c) (bare : Bare c) : Bare d := by
  induction turns with
  | refl => exact bare
  | tail before turn ih => exact Bare.turn turn (served_turns before served).1 ih

end Bare

theorem bare_connect (options : ConnectOptions) : Bare (connect options) := by
  have began : Bare (fresh (options.headerTableSize.getD 4096)) := by
    intro id s found
    cases found
  have noted : Bare ((fresh (options.headerTableSize.getD 4096)).record
    (.preface CONNECTION_PREFACE)) := began
  simp only [connect]
  split
  · exact (noted.sendFrame _).sendFrame _
  · exact noted.sendFrame _

theorem bare_after (options : ConnectOptions) (actions : List Action) :
    Bare (after options actions) := by
  induction actions using List.reverseRecOn with
  | nil => exact bare_connect options
  | append_singleton actions a ih =>
      have attended := attended_after options actions
      rw [after, Machine.run_append, Machine.run_cons, Machine.run_nil]
      exact Bare.turns (attended.turns a) attended.served ih

/-- Interim blocks before the head of a stream may be deleted from any script: the client is
the same, but for its record.  And after any blocks and DATA that arrive on an open stream,
the head is the first block that is not interim; the trailers are the last block after it,
from its arrival on; and the body has ended only if something came with END_STREAM. -/
theorem interim_traceless (options : ConnectOptions) (actions : List Action) {id : UInt32}
    {s : StreamState} (found : (after options actions).streams.lookup id = some s)
    (idle : (after options actions).pendingHeaderBlock = none) :
    let c := after options actions
    (∀ items, Machine.Along (played id) (Deletable id) c items →
      Alike (Machine.run (played id) c items) (Machine.run thinned c items)) ∧
    (s.gotHead = false → ∀ arrivals,
      Machine.Along (fun c x => c.arrive id x.1) (Arrives id) c arrivals →
      let y := (Machine.run (fun c x => c.arrive id x.1) c arrivals).cells s.cell
      let contents := arrivals.map Prod.snd
      (∀ raw, Content.head contents = some raw ↔ y.head = .sent (.ok (collectHeaders raw))) ∧
      y.trailers = ((Content.trailers contents).map fun raw => (collectHeaders raw).headers) ∧
      (y.recv.ended = true → (c.cells s.cell).recv.ended = true ∨
        ∃ content ∈ contents, content.endStream = true)) := by
  intro c
  refine ⟨fun items along => alike_thinned (.refl c) along, fun waiting arrivals along => ?_⟩
  intro y contents
  have fits := ((attended_after options actions).served.mapped id s found).2.2
  obtain ⟨-, s', x, standing, tells⟩ := tells_run idle ⟨found, rfl, rfl⟩ fits waiting arrivals along
  obtain ⟨head, trailers, recv⟩ := standing.tells tells
  refine ⟨head, ?_, fun ended => tells.ended ?_⟩
  · have bare := bare_after options actions id s found waiting
    have told := trailers.trans tells.trailers
    rw [bare, Option.or_none] at told
    exact told
  · rw [← recv]
    exact ended

/-- Two interim blocks, the second one from the table that the first one changed, and then a
head, DATA and trailers. -/
def hintedResponse : List (Arrival × Content) :=
  let hints : List Header := [⟨":status", "103", false⟩]
  [(.block [0x48, 0x03, 0x31, 0x30, 0x33] [] false none, .block hints false),
    (.block [] [[0xBE]] false none, .block hints false),
    (.block [0x88] [] false none, .block [⟨":status", "200", false⟩] false),
    (.data [0x61] false, .data [0x61] false),
    (.block [0xBE] [] true none, .block hints true)]

theorem interim_traceless_hinted :
    let c := after {} [.request (.bare .empty)]
    let y := (Machine.run (fun c x => c.arrive 1 x.1) c hintedResponse).cells 0
    y.head = .sent (.ok (collectHeaders [⟨":status", "200", false⟩])) ∧
      y.trailers = some (collectHeaders [⟨":status", "103", false⟩]).headers ∧
      Alike (Machine.run (played 1) c [.interim [0x48, 0x03, 0x31, 0x30, 0x33] [] none, .kept .ping])
        (Machine.run thinned c [.interim [0x48, 0x03, 0x31, 0x30, 0x33] [] none, .kept .ping]) := by
  have found : (after {} [.request (.bare .empty)]).streams.lookup 1 =
      some ((connect {}).newStream .empty) := by decide +kernel
  obtain ⟨same, told⟩ := interim_traceless {} [.request (.bare .empty)] found (by decide +kernel)
  have along : Machine.Along (fun c x => c.arrive 1 x.1) (Arrives 1)
      (after {} [.request (.bare .empty)]) hintedResponse := by
    refine ⟨⟨?_, ?_, _, ?_, rfl⟩, ⟨?_, ?_, _, ?_, rfl⟩, ⟨?_, ?_, _, ?_, rfl⟩, ⟨?_, rfl⟩,
      ⟨?_, ?_, _, ?_, rfl⟩, trivial⟩ <;> decide +kernel
  obtain ⟨head, trailers, -⟩ := told rfl hintedResponse along
  refine ⟨(head _).mp (by decide), trailers.trans rfl, same _ ⟨?_, trivial, trivial⟩⟩
  exact ⟨by decide +kernel, by decide, ⟨_, found, rfl⟩, [⟨":status", "103", false⟩],
    by decide +kernel, by decide⟩

end Client

end H2ts
