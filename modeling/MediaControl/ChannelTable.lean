import MediaControl.Routing
import MediaControl.Table

/-!
# Channel tables (SPEC_FULL §4.3)

Who takes the messages of a channel.  Channels are told apart by their key alone, and wherever a
channel is looked up by an id, blanks around the id do not matter.
-/

set_option autoImplicit false

namespace MediaControl

/-- The takers of messages, by the key of their channel. -/
abbrev ChannelTable (σ : Type) := Table String σ

namespace ChannelTable

variable {σ : Type}

/-- The taker registered under the id. -/
def lookup (t : ChannelTable σ) (id : String) : Option σ := Table.get? t (Text.trim id)

/-- Registers a taker, in the place of the one that was there. -/
def register (t : ChannelTable σ) (channel : ChannelId) (taker : σ) : ChannelTable σ :=
  Table.insert t channel.key taker

/-- Takes the registration under the id away. -/
def unregister (t : ChannelTable σ) (id : String) : ChannelTable σ := Table.erase t (Text.trim id)

/-- The taker of a message: the one registered for the channel that the message names. -/
def route (t : ChannelTable σ) (m : Message) : Except Unrouted σ :=
  match m.channelId with
  | .error reason =>
    if Headers.contains m.headers Catalogue.channelIdentifier then .error (.invalid reason)
    else .error .missing
  | .ok channel =>
    match lookup t channel.key with
    | some taker => .ok taker
    | none => .error (.unknown channel)

end ChannelTable

end MediaControl
