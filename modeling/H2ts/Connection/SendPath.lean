import H2ts.Connection.HeaderBlocks
import H2ts.Connection.Refine
import H2ts.FrameCodec
import H2ts.Hpack.RoundTrip
import Mathlib

/-!
# The send path of request headers

From the options of a request to the fields its peer decodes.  `requestFields`
says what the peer should see: the pseudo-headers, then the headers of the caller
in order and in lower case, without pseudo and forbidden ones.

The block of a request is cut into fragments of the frame size of the peer
(`headerFrames_split`), the frames survive serialization and any chunking, and
the block put together again decodes to the fields (`requestHeaders_survive`).
The one limit is that of the decoder on the length of a string.
-/

namespace H2ts

open Hpack

/-! ## The fields of a request -/

/-- The headers of the caller that are sent. -/
def permitted (name : String) : Bool :=
  decide (name.toList.head? ≠ some ':' ∧ name ∉ FORBIDDEN_HEADERS)

/-- The fields a request sends: pseudo-headers first, then the permitted headers of
the caller in lower case. -/
def requestFields (toUppercase : String → String) (init : RequestInit) : List (String × String) :=
  [(":method", toUppercase (init.method.getD "GET")), (":scheme", init.scheme.getD "http")] ++
    (init.authority.map fun authority => (":authority", authority)).toList ++
    [(":path", init.path.getD "/")] ++
    (init.headers.map fun (name, value) => (toAsciiLowercase name, value)).filter
      fun field => permitted field.1

theorem toAsciiLowercase_idem (s : String) :
    toAsciiLowercase (toAsciiLowercase s) = toAsciiLowercase s := by
  simp only [toAsciiLowercase, String.toList_ofList, List.map_map]
  congr 1
  exact List.map_congr_left fun c _ => Char.toLower_toLower_eq_toLower c

theorem received_callerHeader (name value : String) :
    (callerHeader name value).map Header.received =
      if permitted (toAsciiLowercase name) then [Header.new (toAsciiLowercase name) value] else [] := by
  have idem := toAsciiLowercase_idem name
  simp only [callerHeader]
  by_cases dropped : (toAsciiLowercase name).toList.head? = some ':' ∨
      toAsciiLowercase name ∈ FORBIDDEN_HEADERS
  · have refused : permitted (toAsciiLowercase name) = false := by
      rw [permitted, decide_eq_false_iff_not]
      tauto
    rw [if_pos dropped, refused]
    rfl
  · have kept : permitted (toAsciiLowercase name) = true := by
      rw [permitted, decide_eq_true_eq]
      tauto
    rw [if_neg dropped, kept, if_pos rfl]
    split <;> simp [Header.received, Header.new, Header.neverIndexed, idem]

/-- What comes back of the headers of a request are its fields. -/
theorem received_buildRequestHeaders (toUppercase : String → String) (init : RequestInit) :
    (buildRequestHeaders toUppercase init).map Header.received =
      (requestFields toUppercase init).map fun (name, value) => Header.new name value := by
  have names : toAsciiLowercase ":method" = ":method" ∧ toAsciiLowercase ":scheme" = ":scheme" ∧
      toAsciiLowercase ":authority" = ":authority" ∧ toAsciiLowercase ":path" = ":path" := by
    decide
  obtain ⟨method, scheme, authority, path⟩ := names
  have callers : (init.headers.flatMap fun (rawName, value) => callerHeader rawName value).map
      Header.received =
        ((init.headers.map fun (name, value) => (toAsciiLowercase name, value)).filter
          fun field => permitted field.1).map fun (name, value) => Header.new name value := by
    induction init.headers with
    | nil => rfl
    | cons header headers ih =>
        obtain ⟨name, value⟩ := header
        rw [List.flatMap_cons, List.map_append, ih, received_callerHeader, List.map_cons,
          List.filter_cons]
        split <;> rfl
  simp only [buildRequestHeaders, requestFields, List.map_append, callers]
  cases init.authority <;> simp [Header.received, Header.new, method, scheme, authority, path]

/-! ## The frames of a block -/

/-- The CONTINUATION frames carry the rest of the block in fragments of the frame
size. -/
theorem continuationFrames_split (id : UInt32) {max : Nat} (positive : 0 < max) (fuel : Nat)
    (block : Bytes) (enough : block.length ≤ fuel) :
    ∃ fragments, Client.continuationFrames id max fuel block = continuations id fragments ∧
      fragments.flatten = block ∧ (fragments = [] ↔ block = []) ∧
      ∀ fragment ∈ fragments, fragment.length ≤ max := by
  induction fuel generalizing block with
  | zero =>
      have none : block = [] := List.eq_nil_of_length_eq_zero (by omega)
      exact ⟨[], rfl, none.symm, by simp [none], by simp⟩
  | succ fuel ih =>
      cases block with
      | nil => exact ⟨[], rfl, rfl, by simp, by simp⟩
      | cons byte block =>
          have less : ((byte :: block).drop max).length ≤ fuel := by
            rw [List.length_drop]
            omega
          obtain ⟨rest, same, joined, empty, small⟩ := ih ((byte :: block).drop max) less
          refine ⟨(byte :: block).take max :: rest, ?_, ?_, by simp, ?_⟩
          · have last : decide ((byte :: block).length ≤ max) = rest.isEmpty := by
              rw [Bool.eq_iff_iff, decide_eq_true_eq, List.isEmpty_iff, empty, List.drop_eq_nil_iff]
            rw [Client.continuationFrames, continuations, same, ← last]
            rfl
          · rw [List.flatten_cons, joined, List.take_append_drop]
          · intro fragment mem
            cases mem with
            | head => exact (List.length_take_le _ _)
            | tail _ mem => exact small fragment mem

/-- A block goes out in fragments of the frame size, in one HEADERS and then
CONTINUATION frames. -/
theorem headerFrames_split (id : UInt32) {max : Nat} (positive : 0 < max) (block : Bytes)
    (endStream : Bool) :
    ∃ first rest, Client.headerFrames id max block endStream =
        (Opening.headers id endStream none).frames first rest ∧
      first ++ rest.flatten = block ∧ ∀ fragment ∈ first :: rest, fragment.length ≤ max := by
  unfold Client.headerFrames
  split
  next fits => exact ⟨block, [], rfl, by simp, by simpa using fits⟩
  next long =>
    have enough : (block.drop max).length ≤ block.length := by
      rw [List.length_drop]
      omega
    obtain ⟨rest, same, joined, empty, small⟩ :=
      continuationFrames_split id positive block.length (block.drop max) enough
    have more : rest.isEmpty = false := by
      rw [List.isEmpty_eq_false_iff, Ne, empty, List.drop_eq_nil_iff]
      exact long
    refine ⟨block.take max, rest, ?_, ?_, ?_⟩
    · rw [Opening.frames, more, same]
      rfl
    · rw [joined, List.take_append_drop]
    · intro fragment mem
      cases mem with
      | head => exact List.length_take_le _ _
      | tail _ mem => exact small fragment mem

/-- The fragment a frame carries. -/
def fragmentOf : Frame → Bytes
  | .headers _ fragment _ _ _ => fragment
  | .continuation _ fragment _ => fragment
  | .pushPromise _ _ fragment _ => fragment
  | _ => []

theorem fragments_continuations (id : UInt32) (rest : List Bytes) :
    (continuations id rest).flatMap fragmentOf = rest.flatten := by
  induction rest with
  | nil => rfl
  | cons fragment rest ih => rw [continuations, List.flatMap_cons, ih]; rfl

theorem fragments_frames (opening : Opening) (first : Bytes) (rest : List Bytes) :
    (opening.frames first rest).flatMap fragmentOf = first ++ rest.flatten := by
  rw [Opening.frames, List.flatMap_cons, fragments_continuations]
  cases opening <;> rfl

theorem wellFormed_continuations {id : UInt32} (small : id.toNat < 2 ^ 31) {max : Nat}
    {rest : List Bytes} (fits : ∀ fragment ∈ rest, fragment.length ≤ max) {frame : Frame}
    (mem : frame ∈ continuations id rest) : frame.WellFormed max := by
  induction rest with
  | nil => cases mem
  | cons fragment rest ih =>
      rw [continuations] at mem
      cases mem with
      | head => exact ⟨small, fits fragment (.head _)⟩
      | tail _ mem => exact ih (fun fragment mem => fits fragment (.tail _ mem)) mem

/-- The frames are within the limits of the codec. -/
theorem wellFormed_frames {id : UInt32} (small : id.toNat < 2 ^ 31) {max : Nat} (endStream : Bool)
    {first : Bytes} {rest : List Bytes} (fits : ∀ fragment ∈ first :: rest, fragment.length ≤ max)
    {frame : Frame} (mem : frame ∈ (Opening.headers id endStream none).frames first rest) :
    frame.WellFormed max := by
  rw [Opening.frames] at mem
  cases mem with
  | head => exact ⟨⟨small, by simp⟩, fits first (.head _)⟩
  | tail _ mem =>
      exact wellFormed_continuations small (fun fragment mem => fits fragment (.tail _ mem)) mem

/-- The block in the frames is the block that was encoded, so it decodes to the
fields if the decoder can read its strings, and not otherwise. -/
theorem decode_fragments_iff (toUppercase : String → String) (init : RequestInit) (d : HpackDecoder)
    {block : Bytes} (whole : block = encode (buildRequestHeaders toUppercase init)) :
    d.decode block = (d, .ok ((requestFields toUppercase init).map fun (name, value) =>
        Header.new name value)) ↔
      ∀ h ∈ buildRequestHeaders toUppercase init, h.Short := by
  rw [whole, ← received_buildRequestHeaders]
  exact ⟨short_of_decode_encode, decode_encode d⟩

namespace Client

/-- The headers of a request go out in one HEADERS frame and CONTINUATION frames of
the frame size of the peer, only the last of which ends the block.  A peer gets
these frames back however their bytes are cut, and the block in them decodes to the
fields of the request, exactly if its strings are not too long for the decoder. -/
theorem requestHeaders_survive (toUppercase : String → String) (init : RequestInit) (c : Client)
    (live : c.closed = false) (outTx : c.outTx = true) (low : 16384 ≤ c.remote.maxFrameSize)
    (high : c.remote.maxFrameSize ≤ 16777215) (id : UInt32) (small : id.toNat < 2 ^ 31)
    (endStream : Bool) (d : HpackDecoder) :
    let headers := buildRequestHeaders toUppercase init
    ∃ first rest, let frames := (Opening.headers id endStream none).frames first rest
      (c.sendHeaders id (encode headers) endStream).history = c.history ++ frames.map .sent ∧
      (∀ fragment ∈ first :: rest, fragment.length ≤ c.remote.maxFrameSize) ∧
      (∀ chunks : List Bytes, chunks.flatten = frames.flatMap serializeFrame →
        (FrameDecoder.new c.remote.maxFrameSize).pushAll chunks =
          (FrameDecoder.new c.remote.maxFrameSize, .ok frames)) ∧
      (d.decode (frames.flatMap fragmentOf) =
          (d, .ok ((requestFields toUppercase init).map fun (name, value) =>
            Header.new name value)) ↔
        ∀ h ∈ headers, h.Short) := by
  intro headers
  have positive : 0 < c.remote.maxFrameSize := by omega
  obtain ⟨first, rest, same, joined, fits⟩ :=
    headerFrames_split id positive (encode headers) endStream
  refine ⟨first, rest, ?_, fits, fun chunks cut => ?_, ?_⟩
  · rw [sendHeaders, same]
    exact congrArg View.history (view_foldl_sendFrame _ live outTx)
  · rw [FrameDecoder.pushAll_new, cut, drain_serializeFrame (by omega)
      fun frame mem => wellFormed_frames small endStream fits mem]
    rfl
  · exact decode_fragments_iff toUppercase init d ((fragments_frames _ _ _).trans joined)

/-- A request without options. -/
def bareInit : RequestInit := ⟨none, none, none, none, [], .empty⟩

/-- A header that is sent, and one that is not. -/
def longToken : String × String := ("X-Token", "&&&&&&&&&&&&&&&&&&&&&&&&&&&&&&&&&&&&&&&&&&&&&&&&&&&&&&&&&&&&")

def longInit : RequestInit :=
  ⟨some "POST", some "/a", some "example", none, ("Connection", "close") :: List.replicate 300 longToken,
    .empty⟩

/-- What is sent of it. -/
def longHeaders : List Header :=
  [.new ":method" "POST", .new ":scheme" "http", .new ":authority" "example", .new ":path" "/a"] ++
    List.replicate 300 (.new "x-token" longToken.2)

theorem headers_longInit : buildRequestHeaders id longInit = longHeaders := by
  have kept : callerHeader longToken.1 longToken.2 = [.new "x-token" longToken.2] := by decide +kernel
  have dropped : callerHeader "Connection" "close" = [] := by decide +kernel
  have all (n : Nat) : (List.replicate n longToken).flatMap (fun (name, value) => callerHeader name value) =
      List.replicate n (.new "x-token" longToken.2) := by
    induction n with
    | zero => rfl
    | succ n ih =>
        rw [List.replicate_succ, List.flatMap_cons, ih]
        simp only [kept]
        rfl
  have callers : longInit.headers.flatMap (fun (name, value) => callerHeader name value) =
      List.replicate 300 (.new "x-token" longToken.2) := by
    rw [longInit, List.flatMap_cons, all]
    simp only [dropped]
    rfl
  rw [buildRequestHeaders, callers]
  rfl

theorem fields_longInit :
    (requestFields id longInit).map (fun (name, value) => Header.new name value) = longHeaders := by
  have others : ([.new ":method" "POST", .new ":scheme" "http", .new ":authority" "example",
      .new ":path" "/a"] : List Header).map Header.received =
        [.new ":method" "POST", .new ":scheme" "http", .new ":authority" "example", .new ":path" "/a"] := by
    decide +kernel
  have token : (Header.new "x-token" longToken.2).received = .new "x-token" longToken.2 := by
    decide +kernel
  rw [← received_buildRequestHeaders, headers_longInit, longHeaders, List.map_append, List.map_replicate,
    others, token]

theorem length_longHeaders : 16384 < (encode longHeaders).length := by
  have one : 60 ≤ (encodeHeader (.new "x-token" longToken.2)).length := by decide +kernel
  simp only [encode, longHeaders, List.flatMap_append, List.length_append, List.length_flatMap,
    List.map_replicate, List.sum_replicate, smul_eq_mul]
  omega

/-- The block is longer than a frame. -/
theorem requestHeaders_survive_long :
    ∃ first rest, let frames := (Opening.headers 1 true none).frames first rest
      rest ≠ [] ∧
      ((connect {}).sendHeaders 1 (encode (buildRequestHeaders id longInit)) true).history =
        (connect {}).history ++ frames.map .sent ∧
      (HpackDecoder.new 4096).decode (frames.flatMap fragmentOf) =
        (HpackDecoder.new 4096, .ok longHeaders) := by
  obtain ⟨first, rest, sent, fits, -, decoded⟩ := requestHeaders_survive id longInit (connect {})
    rfl rfl (by decide) (by decide) 1 (by decide) true (HpackDecoder.new 4096)
  have short : ∀ h ∈ buildRequestHeaders id longInit, h.Short := by
    rw [headers_longInit]
    intro h mem
    rcases List.mem_append.mp mem with mem | mem
    · unfold Header.Short
      revert h
      decide +kernel
    · obtain rfl := List.eq_of_mem_replicate mem
      unfold Header.Short
      decide +kernel
  refine ⟨first, rest, fun single => ?_, sent, fields_longInit ▸ decoded.mpr short⟩
  -- one fragment would be the whole block
  obtain ⟨first', rest', same, joined, -⟩ :=
    headerFrames_split 1 (show 0 < (connect {}).remote.maxFrameSize by decide) (encode longHeaders) true
  have written : ((connect {}).sendHeaders 1 (encode (buildRequestHeaders id longInit)) true).history =
      (connect {}).history ++ ((Opening.headers 1 true none).frames first' rest').map .sent := by
    rw [sendHeaders, headers_longInit, same]
    exact congrArg View.history (view_foldl_sendFrame _ rfl rfl)
  have frames := List.map_injective_iff.mpr (fun f g (eq : Event.sent f = .sent g) => Event.sent.inj eq)
    (List.append_cancel_left (sent.symm.trans written))
  have block := congrArg (List.flatMap fragmentOf) frames
  rw [fragments_frames, fragments_frames, joined, single, List.flatten_nil, List.append_nil] at block
  have fit : first.length ≤ 16384 := fits first (.head _)
  have long := length_longHeaders
  rw [block] at fit
  omega

/-- A path too long for the decoder. -/
theorem not_requestHeaders_survive_path :
    ¬ ∀ init : RequestInit, (HpackDecoder.new 4096).decode
        ((headerFrames 1 16384 (encode (buildRequestHeaders id init)) true).flatMap fragmentOf) =
      (HpackDecoder.new 4096,
        .ok ((requestFields id init).map fun (name, value) => Header.new name value)) := by
  intro survives
  obtain ⟨n, long⟩ : ∃ n, 2 ^ 42 + 127 ≤ n := ⟨_, le_rfl⟩
  obtain ⟨path, given⟩ : ∃ path, path = String.ofList (List.replicate n '&') := ⟨_, rfl⟩
  have written : writtenLength path = n := given ▸ writtenLength_ampersands n
  have decoded := survives { bareInit with path := some path }
  obtain ⟨first, rest, same, joined, -⟩ := headerFrames_split 1 (show 0 < 16384 by decide)
    (encode (buildRequestHeaders id { bareInit with path := some path })) true
  rw [same, fragments_frames, joined] at decoded
  have mem : Header.new ":path" path ∈
      buildRequestHeaders id { bareInit with path := some path } := by
    simp [buildRequestHeaders]
  have short : writtenLength path < 2 ^ 42 + 127 := (short_of_decode_encode decoded _ mem).2
  omega

end Client

end H2ts
