import Mathlib.Tactic

/-!
# Error codes and errors

The HTTP/2 error codes (RFC 7540 §7) and the error type of the client
(`errors.rs`).  `Fault` adds the one outcome the error type does not name: a
Rust panic, which out-of-bounds fixed-width reads and `expect` raise.  The
readers of this development return it instead of assuming it away.
-/

namespace H2ts

/-- An HTTP/2 error code. -/
inductive ErrorCode where
  | noError
  | protocolError
  | internalError
  | flowControlError
  | settingsTimeout
  | streamClosed
  | frameSizeError
  | refusedStream
  | cancel
  | compressionError
  | connectError
  | enhanceYourCalm
  | inadequateSecurity
  | http11Required
deriving DecidableEq, Repr

namespace ErrorCode

/-- The wire value of a code. -/
def value : ErrorCode → UInt32
  | .noError => 0x0
  | .protocolError => 0x1
  | .internalError => 0x2
  | .flowControlError => 0x3
  | .settingsTimeout => 0x4
  | .streamClosed => 0x5
  | .frameSizeError => 0x6
  | .refusedStream => 0x7
  | .cancel => 0x8
  | .compressionError => 0x9
  | .connectError => 0xa
  | .enhanceYourCalm => 0xb
  | .inadequateSecurity => 0xc
  | .http11Required => 0xd

/-- The code of a wire value, if it is known. -/
def fromValue (v : UInt32) : Option ErrorCode :=
  match v with
  | 0x0 => some .noError
  | 0x1 => some .protocolError
  | 0x2 => some .internalError
  | 0x3 => some .flowControlError
  | 0x4 => some .settingsTimeout
  | 0x5 => some .streamClosed
  | 0x6 => some .frameSizeError
  | 0x7 => some .refusedStream
  | 0x8 => some .cancel
  | 0x9 => some .compressionError
  | 0xa => some .connectError
  | 0xb => some .enhanceYourCalm
  | 0xc => some .inadequateSecurity
  | 0xd => some .http11Required
  | _ => none

/-- Every code is read back from its wire value. -/
theorem fromValue_value (code : ErrorCode) : fromValue code.value = some code := by
  cases code <;> rfl

end ErrorCode

/-- An HTTP/2 error.  With a stream id it is scoped to that stream. -/
structure H2Error where
  code : ErrorCode
  message : Option String
  streamId : Option UInt32
deriving DecidableEq, Repr

namespace H2Error

/-- A connection-level error. -/
def new (code : ErrorCode) (message : String) : H2Error := ⟨code, some message, none⟩

/-- A stream-scoped error. -/
def stream (code : ErrorCode) (message : String) (streamId : UInt32) : H2Error :=
  ⟨code, some message, some streamId⟩

end H2Error

/-- How a computation of the client fails: with an error value, or by a panic. -/
inductive Fault where
  | h2 (error : H2Error)
  | panic
deriving DecidableEq, Repr

namespace Fault

/-- Fail with a connection-level error. -/
def new (code : ErrorCode) (message : String) : Fault := .h2 (H2Error.new code message)

/-- Fail with a stream-scoped error. -/
def stream (code : ErrorCode) (message : String) (streamId : UInt32) : Fault :=
  .h2 (H2Error.stream code message streamId)

/-- A sequence that succeeds, from its first computation on. -/
theorem ok_of_bind {α β : Type} {first : Except Fault α} {next : α → Except Fault β} {b : β}
    (done : (first >>= next) = .ok b) : ∃ a, first = .ok a ∧ next a = .ok b := by
  cases first with
  | error fault => cases done
  | ok a => exact ⟨a, rfl, done⟩

end Fault

end H2ts
