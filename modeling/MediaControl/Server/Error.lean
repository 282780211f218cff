import MediaControl.Error

/-!
# Server errors

Why a server could not be started or a channel not be opened on it.
-/

set_option autoImplicit false

namespace MediaControl

/-- Why a server refused. -/
inductive ServerError where
  /-- a device failed, in its own words -/
  | device (message : String)
  | protocol (error : Error)
  /-- the text names no channel -/
  | invalidChannel (text reason : String)
  /-- the handlers are made for another resource than the channel's -/
  | resourceMismatch (channel handlers : String)
  | channelInUse (channel : String)
  | config (message : String)

/-- The refusal in words. -/
def ServerError.message : ServerError → String
  | device message => s!"IO error: {message}"
  | protocol error => s!"Protocol error: {error.message}"
  | invalidChannel text reason => s!"Invalid channel identifier {Text.quoted text}: {reason}"
  | resourceMismatch channel handlers =>
    s!"Handlers for {handlers} cannot serve channel {channel}"
  | channelInUse channel => s!"Channel already open: {channel}"
  | config message => s!"Configuration error: {message}"

end MediaControl
