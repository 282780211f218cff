import MediaControl.Server.Error

/-!
# Errors of the command (SPEC_FULL §7)

Why a command that was given on the command line failed.
-/

set_option autoImplicit false

namespace MediaControl

/-- Why a command failed. -/
inductive ClientError where
  | config (message : String)
  /-- what was asked for makes no sense -/
  | usage (message : String)
  /-- a device failed, in its own words -/
  | device (message : String)
  | protocol (error : Error)
  | server (error : ServerError)

namespace ClientError

/-- The failure in words. -/
def message : ClientError → String
  | config message => s!"configuration error: {message}"
  | usage message => s!"invalid arguments: {message}"
  | device message => s!"IO error: {message}"
  | protocol error => s!"{error.kind.text} error: {error.message}"
  | server error => s!"server error: {error.message}"

/-- The words of the reason behind the failure. -/
def reason? : ClientError → Option String
  | config _ | usage _ => none
  | device message => some message
  | protocol error => some error.message
  | server error => some error.message

end ClientError

end MediaControl
