import MediaControl.Number.DecimalText
import MediaControl.Number.Natural
import MediaControl.Vocabulary

/-!
# Illegal header values (SPEC_FULL §4.2)

Why a header's text, or a value that was to become one, was refused.
-/

set_option autoImplicit false

namespace MediaControl

/-- Why a value was refused. -/
inductive IllegalValue where
  /-- not a row of digits -/
  | notInteger (raw : String)
  /-- a row of digits past the bound -/
  | integerFault (raw : String) (fault : Natural.Fault)
  | notBoolean (raw : String)
  | notDecimal (raw : String)
  /-- a decimal outside the unit interval -/
  | outsideUnit (value : Float)
  /-- not one channel id and one resource type -/
  | notChannelId (raw : String)
  /-- the resource type is unknown -/
  | unknownToken (unknown : UnknownToken)
  | emptyChannelId
  /-- not one code and one name -/
  | notCause (raw : String)
  | invalidCauseCode (code : String)
  | causeCodeRange (code : Nat)
  | emptyCauseName
  | causeNameBlank (name : String)
  /-- a reason given in words -/
  | stated (reason : String)
  deriving Repr, Inhabited

/-- The refusal in words. -/
def IllegalValue.message : IllegalValue → String
  | notInteger raw => s!"expected a non-negative integer, got {Text.quoted raw}"
  | integerFault raw fault => s!"{Text.quoted raw}: {fault.message}"
  | notBoolean raw => s!"expected true or false, got {Text.quoted raw}"
  | notDecimal raw => s!"expected a decimal, got {Text.quoted raw}"
  | outsideUnit value => s!"{DecimalStyle.plain.text value} is outside 0.0..=1.0"
  | notChannelId raw => s!"expected <channel-id>@<resource-type>, got {Text.quoted raw}"
  | unknownToken unknown => unknown.message
  | emptyChannelId => "channel-id must not be empty"
  | notCause raw => s!"expected <code> <name>, got {Text.quoted raw}"
  | invalidCauseCode code => s!"invalid cause code {Text.quoted code}"
  | causeCodeRange code => s!"cause code {code} is outside 0..=999"
  | emptyCauseName => "cause name must not be empty"
  | causeNameBlank name => s!"cause name {Text.quoted name} contains whitespace"
  | stated reason => reason

end MediaControl
