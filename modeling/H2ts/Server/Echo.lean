import H2ts.Go.Handshake

/-!
# The echoed subprotocol

A selector's answer counts as offered if it is so up to case, and it is echoed as the
selector spelled it.  A client that offered another spelling fails the connection.  So the
echo was offered exactly if the selector does not respell a token (`echoes_offered_iff`).
-/

namespace H2ts

open Runes Utf8

namespace Server

/-! ## Visible text -/

/-- The bytes that `to_str` lets through. -/
def Visible (s : Bytes) : Prop := ∀ b ∈ s, ((32 ≤ b && b < 127) || b == 9) = true

theorem toStr_eq_some_iff {value s : Bytes} : toStr value = some s ↔ Visible value ∧ s = value := by
  unfold toStr Visible
  rw [← List.all_eq_true]
  split <;> simp [*, eq_comm]

theorem visible_lower (b : UInt8) :
    ((32 ≤ toAsciiLowercase b && toAsciiLowercase b < 127) || toAsciiLowercase b == 9) =
      ((32 ≤ b && b < 127) || b == 9) :=
  forall_byte (P := fun b =>
    ((32 ≤ toAsciiLowercase b && toAsciiLowercase b < 127) || toAsciiLowercase b == 9) =
      ((32 ≤ b && b < 127) || b == 9)) (by decide +kernel) b

theorem visible_byte (b : UInt8) : ((32 ≤ b && b < 127) || b == 9) = true →
    b < 128 ∧ ((32 ≤ b && b != 127) || b == 9) = true :=
  forall_byte (P := fun b => ((32 ≤ b && b < 127) || b == 9) = true →
    b < 128 ∧ ((32 ≤ b && b != 127) || b == 9) = true) (by decide +kernel) b

theorem Visible.isAscii {s : Bytes} (visible : Visible s) : IsAscii s :=
  fun b mem => (visible_byte b (visible b mem)).1

theorem Visible.fromStr {s : Bytes} (visible : Visible s) : fromStr s = some s :=
  if_pos (List.all_eq_true.mpr fun b mem => (visible_byte b (visible b mem)).2)

/-- Another spelling of visible text is visible. -/
theorem Visible.respelled {s t : Bytes} (visible : Visible s)
    (same : eqIgnoreAsciiCase s t = true) : Visible t := by
  intro b mem
  have lower : toAsciiLowercase b ∈ s.map toAsciiLowercase := by
    rw [eqIgnoreAsciiCase_iff.mp same]
    exact List.mem_map_of_mem mem
  obtain ⟨a, mem, fold⟩ := List.mem_map.mp lower
  rw [← visible_lower, ← fold, visible_lower]
  exact visible a mem

theorem mem_of_mem_splitComma {s t : Bytes} (part : t ∈ splitComma s) {b : UInt8} (mem : b ∈ t) :
    b ∈ s := by
  unfold splitComma List.splitOn at part
  induction s generalizing t with
  | nil =>
      rw [List.splitOnP_nil, List.mem_singleton] at part
      rwa [part] at mem
  | cons a s ih =>
      rw [List.splitOnP_cons_eq_if_modifyHead] at part
      split at part
      · rcases List.mem_cons.mp part with rfl | part
        · cases mem
        · exact .tail _ (ih part mem)
      · cases parts : s.splitOnP (· == 44) with
        | nil => exact absurd parts (List.splitOnP_ne_nil _ _)
        | cons first parts' =>
            rw [parts, List.modifyHead_cons] at part
            rw [parts] at ih
            rcases List.mem_cons.mp part with rfl | part
            · rcases List.mem_cons.mp mem with rfl | mem
              · exact .head _
              · exact .tail _ (ih (.head _) mem)
            · exact .tail _ (ih (.tail _ part) mem)

theorem Visible.part {s t : Bytes} (visible : Visible s) (part : t ∈ splitComma s) : Visible t :=
  fun b mem => visible b (mem_of_mem_splitComma part mem)

theorem Visible.trim {s : Bytes} (visible : Visible s) : Visible (trim s) :=
  fun b mem => visible b ((List.dropWhile_sublist _).subset ((List.rdropWhile_prefix _ _).subset mem))

/-- Every offered token is visible, and not empty. -/
theorem visible_offeredProtocols {request : Headers} {token : Bytes}
    (mem : token ∈ offeredProtocols request) : Visible token ∧ token ≠ [] := by
  unfold offeredProtocols at mem
  split at mem
  · rename_i list found
    obtain ⟨value, -, str⟩ := Option.bind_eq_some_iff.mp found
    obtain ⟨visible, rfl⟩ := toStr_eq_some_iff.mp str
    rw [List.mem_filter] at mem
    obtain ⟨part, memPart, rfl⟩ := List.mem_map.mp mem.1
    refine ⟨(visible.part memPart).trim, ?_⟩
    simpa using mem.2
  · cases mem

/-! ## What is echoed -/

/-- What the handshake echoes is one of the offered tokens. -/
def EchoesOffered (request : Headers) (select : Select) (options : AcceptOptions) : Prop :=
  ∀ protocol, acceptWithOptions request select options = .ok (some protocol) →
    protocol ∈ offeredProtocols request

/-- The selector answers with an offered token in another case. -/
def Respells (offered : List Bytes) (select : Select) : Prop :=
  ∃ s, select offered = some s ∧ (offered.any fun o => eqIgnoreAsciiCase o s) = true ∧ s ∉ offered

/-- The request gets as far as the subprotocols. -/
def Negotiates (request : Headers) (options : AcceptOptions) : Prop :=
  isUpgradeRequest request = true ∧ originAllowed request options.allowedOrigins = true

theorem mem_of_fallbackSubprotocol {offered : List Bytes} {implicit : Bool} {p : Bytes}
    (falls : fallbackSubprotocol offered implicit = .accept (some p)) : p ∈ offered := by
  unfold fallbackSubprotocol at falls
  split at falls
  · rename_i q found
    cases falls
    exact List.mem_of_find?_eq_some found
  · split at falls
    · injection falls with head
      exact List.mem_of_head? head
    · cases falls

theorem acceptWithOptions_eq {request : Headers} {options : AcceptOptions}
    (negotiates : Negotiates request options) (select : Select) :
    acceptWithOptions request select options =
      respond (decision (offeredProtocols request) select options.allowImplicitCodec) := by
  simp [acceptWithOptions, negotiates.1, negotiates.2]

theorem negotiates_of_ok {request : Headers} {select : Select} {options : AcceptOptions}
    {protocol : Option Bytes} (fine : acceptWithOptions request select options = .ok protocol) :
    Negotiates request options := by
  unfold acceptWithOptions at fine
  split at fine
  · cases fine
  · split at fine
    · cases fine
    · exact ⟨by simpa using ‹¬(!isUpgradeRequest request) = true›,
        by simpa using ‹¬(!originAllowed request options.allowedOrigins) = true›⟩

theorem decision_of_picked {offered : List Bytes} {select : Select} {implicit : Bool} {s : Bytes}
    (answer : select offered = some s) (near : (offered.any fun o => eqIgnoreAsciiCase o s) = true) :
    decision offered select implicit = .accept (some s) := by
  simp [decision, answer, near]

theorem echoesOffered_iff (request : Headers) (select : Select) (options : AcceptOptions) :
    EchoesOffered request select options ↔
      (Negotiates request options → ¬ Respells (offeredProtocols request) select) := by
  constructor
  · rintro echoes negotiates ⟨s, answer, near, foreign⟩
    obtain ⟨o, mem, same⟩ := List.any_eq_true.mp near
    have visible := (visible_offeredProtocols mem).1.respelled same
    refine foreign (echoes s ?_)
    rw [acceptWithOptions_eq negotiates, decision_of_picked answer near]
    exact congrArg Except.ok visible.fromStr
  · intro spells protocol fine
    have negotiates := negotiates_of_ok fine
    rw [acceptWithOptions_eq negotiates] at fine
    cases chosen : decision (offeredProtocols request) select options.allowImplicitCodec with
    | reject =>
        rw [chosen] at fine
        cases fine
    | accept picked =>
        rw [chosen] at fine
        obtain ⟨p, rfl, str⟩ := Option.bind_eq_some_iff.mp (Except.ok.inj fine)
        have same : protocol = p := by
          unfold fromStr at str
          split at str
          · exact (Option.some.inj str).symm
          · cases str
        rw [same]
        unfold decision at chosen
        split at chosen
        · rename_i s answer
          split at chosen
          · cases chosen
            by_contra foreign
            exact spells negotiates ⟨p, answer, ‹_›, foreign⟩
          · exact mem_of_fallbackSubprotocol chosen
        · exact mem_of_fallbackSubprotocol chosen

end Server

namespace Go

variable (F : Folding)

/-- What is chosen is one of the offered tokens. -/
def EchoesOffered (offered : List Bytes) (sel : Option (List Bytes → Bytes)) (implicit : Bool) : Prop :=
  ∀ chosen accept, negotiate F offered sel implicit = (chosen, true, accept) → chosen ∈ offered

/-- The selector answers with an offered token in another case. -/
def Respells (offered : List Bytes) (sel : Option (List Bytes → Bytes)) : Prop :=
  selection sel offered ≠ [] ∧ containsFold F offered (selection sel offered) = true ∧
    selection sel offered ∉ offered

theorem echoesOffered_iff (offered : List Bytes) (sel : Option (List Bytes → Bytes))
    (implicit : Bool) : EchoesOffered F offered sel implicit ↔ ¬ Respells F offered sel := by
  constructor
  · rintro echoes ⟨some, near, foreign⟩
    refine foreign (echoes _ true ?_)
    simp [negotiate, some, near]
  · intro spells chosen accept negotiated
    unfold negotiate at negotiated
    split at negotiated
    · rename_i picked
      obtain ⟨some, near⟩ := Bool.and_eq_true_iff.mp picked
      obtain ⟨rfl, -⟩ := Prod.mk.inj negotiated
      by_contra foreign
      exact spells ⟨by simpa using some, near, foreign⟩
    · split at negotiated
      · rename_i p found
        obtain ⟨rfl, -⟩ := Prod.mk.inj negotiated
        exact List.mem_of_find?_eq_some found
      · split at negotiated
        · split at negotiated
          · obtain ⟨rfl, -⟩ := Prod.mk.inj negotiated
            exact .head _
          · cases negotiated
        · cases negotiated

end Go

/-- In both servers the echo was offered if and only if the selector does not answer with
an offered token in another case. -/
theorem echoes_offered_iff (F : Folding) :
    (∀ request select options, Server.EchoesOffered request select options ↔
      (Server.Negotiates request options →
        ¬ Server.Respells (Server.offeredProtocols request) select)) ∧
    ∀ offered sel implicit, Go.EchoesOffered F offered sel implicit ↔ ¬ Go.Respells F offered sel :=
  ⟨Server.echoesOffered_iff, Go.echoesOffered_iff F⟩

/-- A client that offers `h2ts`. -/
def offersH2ts : Headers :=
  [(octets "Upgrade", octets "websocket"), (octets "Connection", octets "Upgrade"),
    (octets "Sec-WebSocket-Key", octets "dGhlIHNhbXBsZSBub25jZQ=="),
    (octets "Sec-WebSocket-Protocol", octets "h2ts")]

/-- The selector answers `H2TS` to that client. -/
theorem not_echoes_offered_respelled :
    ¬ Server.EchoesOffered offersH2ts (fun _ => some (octets "H2TS")) ⟨false, none⟩ ∧
      ¬ Go.EchoesOffered Folding.latin [octets "h2ts"] (some fun _ => octets "H2TS") false := by
  constructor
  · rw [Server.echoesOffered_iff]
    intro spells
    exact spells ⟨by decide +kernel, by decide +kernel⟩
      ⟨octets "H2TS", rfl, by decide +kernel, by decide +kernel⟩
  · rw [Go.echoesOffered_iff, not_not]
    exact ⟨by decide +kernel, by decide +kernel, by decide +kernel⟩

end H2ts
