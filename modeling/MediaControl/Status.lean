import MediaControl.Number.Natural

/-!
# Status codes (SPEC_FULL §6)

The outcome of a request as a number: 2xx succeeded, 4xx failed by the client's doing, 5xx by the
server's.  Any number can be written; the registered ones have a description.
-/

set_option autoImplicit false

namespace MediaControl

/-- The outcome of a request. -/
structure Status where
  code : Nat
  deriving DecidableEq, Repr, Inhabited

namespace Status

/-- The request succeeded. -/
def success : Status := ⟨200⟩

/-- The method is not served on the channel. -/
def methodNotAllowed : Status := ⟨401⟩

/-- A header has an illegal value. -/
def illegalHeaderValue : Status := ⟨404⟩

/-- No such resource is allocated to the session. -/
def resourceNotAllocated : Status := ⟨405⟩

/-- A header that must be there is missing. -/
def mandatoryHeaderMissing : Status := ⟨406⟩

/-- The request id does not exceed an earlier one. -/
def nonMonotonicSequence : Status := ⟨410⟩

/-- The server failed. -/
def serverInternalError : Status := ⟨501⟩

/-- Three digits at least, with zeros in front. -/
def text (s : Status) : String := Natural.padded 3 s.code

/-- 2xx. -/
def isSuccess (s : Status) : Bool := 200 ≤ s.code && s.code < 300

/-- 4xx: refused for something the client did. -/
def isClientFailure (s : Status) : Bool := 400 ≤ s.code && s.code < 500

/-- 5xx: failed on the server's side. -/
def isServerFailure (s : Status) : Bool := 500 ≤ s.code && s.code < 600

/-- The description of a registered status. -/
def description? (s : Status) : Option String :=
  match s.code with
  | 200 => some "STATUS_SUCCESS"
  | 201 => some "STATUS_SUCCESS_SOME_OPTIONAL_HEADERS_IGNORED"
  | 401 => some "STATUS_METHOD_NOT_ALLOWED"
  | 402 => some "STATUS_METHOD_NOT_VALID_IN_STATE"
  | 403 => some "STATUS_UNSUPPORTED_HEADER"
  | 404 => some "STATUS_ILLEGAL_VALUE_FOR_HEADER"
  | 405 => some "STATUS_RESOURCE_NOT_ALLOCATED"
  | 406 => some "STATUS_MANDATORY_HEADER_MISSING"
  | 407 => some "STATUS_OPERATION_FAILED"
  | 408 => some "STATUS_UNRECOGNIZED_MESSAGE_ENTITY"
  | 409 => some "STATUS_UNSUPPORTED_HEADER_VALUE"
  | 410 => some "STATUS_NON_MONOTONIC_SEQUENCE_NUMBER"
  | 501 => some "STATUS_SERVER_INTERNAL_ERROR"
  | 502 => some "STATUS_PROTOCOL_VERSION_NOT_SUPPORTED"
  | 503 => some "STATUS_PROXY_TIMEOUT"
  | 504 => some "STATUS_MESSAGE_TOO_LARGE"
  | _ => none

end Status

end MediaControl
