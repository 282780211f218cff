import MediaControl.Error

/-!
# Messages without a channel (SPEC_FULL §4.3)

A message is routed by the channel that its first `Channel-Identifier` header names.  Here is why a
message could not be routed.
-/

set_option autoImplicit false

namespace MediaControl

/-- Why a message has no channel to go to. -/
inductive Unrouted where
  /-- no header names a channel -/
  | missing
  /-- the header that should name a channel does not -/
  | invalid (reason : Error)
  /-- nobody has registered the channel -/
  | unknown (channel : ChannelId)

namespace Unrouted

/-- The reason in words. -/
def message : Unrouted → String
  | missing => "missing Channel-Identifier"
  | invalid reason => s!"invalid Channel-Identifier: {reason.message}"
  | unknown channel => s!"unknown channel {channel.wire}"

/-- The reason as an error. -/
def error : Unrouted → Error
  | missing => .ofCause .noChannelIdentifier
  | invalid reason => reason
  | unknown channel => .ofCause (.unregisteredChannel channel)

end Unrouted

end MediaControl
