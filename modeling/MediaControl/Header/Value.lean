import MediaControl.Header.Cause
import MediaControl.Header.ChannelId

/-!
# Header values (SPEC_FULL §4.2)

What the text of a header stands for, and the canonical text of a value.
-/

set_option autoImplicit false

namespace MediaControl

/-- What the text of a header stands for. -/
inductive HeaderValue where
  | text (s : String)
  | integer (n : Nat)
  | boolean (b : Bool)
  | float (x : Float)
  | channel (id : ChannelId)
  | cause (c : CompletionCause)

namespace HeaderValue

/-- A truth value in words. -/
def truthText (b : Bool) : String := if b then "true" else "false"

/-- The canonical text of the value. -/
def wire : HeaderValue → String
  | text s => s
  | integer n => Natural.text n
  | boolean b => truthText b
  | float x => DecimalStyle.canonical.text x
  | channel id => id.wire
  | cause c => c.wire

/-- The value as a report shows it: its kind, then its parts. -/
def describe : HeaderValue → String
  | text s => s!"Text({Text.quoted s})"
  | integer n => s!"Integer({Natural.text n})"
  | boolean b => s!"Boolean({truthText b})"
  | float x => s!"Float({DecimalStyle.canonical.text x})"
  | channel id =>
    s!"ChannelIdentifier(ChannelIdentifier \x7b channel_id: {Text.quoted id.id}, "
      ++ s!"resource_type: {id.resource.title} \x7d)"
  | cause c =>
    s!"CompletionCause(CompletionCause \x7b code: {c.code}, name: {Text.quoted c.name} \x7d)"

end HeaderValue

end MediaControl
