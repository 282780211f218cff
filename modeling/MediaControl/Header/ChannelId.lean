import MediaControl.Header.Illegal
import MediaControl.Resource
import MediaControl.Text.Blank

/-!
# Channel identifiers (SPEC_FULL §3, §4.2)

A channel is named by an id and the type of the resource behind it, written `id@type`.  The id is
kept as given; what identifies the channel is the id without the blanks at its ends -- the *key* --
together with the type.
-/

set_option autoImplicit false

namespace MediaControl

/-- The name of a channel. -/
structure ChannelId where
  /-- the id as given -/
  id : String
  resource : Resource
  /-- something is left of the id without the blanks at its ends -/
  key_ne_empty : Text.trim id ≠ ""

namespace ChannelId

/-- The id without the blanks at its ends, by which messages are routed. -/
def key (c : ChannelId) : String := Text.trim c.id

/-- The form on the wire. -/
def wire (c : ChannelId) : String := c.key ++ "@" ++ c.resource.wire

/-- Names a channel; an id of nothing but blanks is refused. -/
def new (id : String) (resource : Resource) : Except IllegalValue ChannelId :=
  if h : Text.trim id = "" then .error .emptyChannelId else .ok ⟨id, resource, h⟩

/-- Reads the form on the wire: exactly one `@`, and blanks around either part do not matter. -/
def parse (raw : String) : Except IllegalValue ChannelId :=
  match raw.toList.splitOnP (· = '@') with
  | [id, resource] =>
    match Vocabulary.ofWire (Text.trim (String.ofList resource)) with
    | .ok resource => new (Text.trim (String.ofList id)) resource
    | .error unknown => .error (.unknownToken unknown)
  | _ => .error (.notChannelId raw)

/-- Identifiers name the same channel when key and resource type agree. -/
instance : BEq ChannelId where
  beq a b := a.key == b.key && a.resource == b.resource

end ChannelId

end MediaControl
