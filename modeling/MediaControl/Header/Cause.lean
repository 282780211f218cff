import MediaControl.Header.Illegal
import MediaControl.Text.Blank

/-!
# Completion causes (SPEC_FULL §3, §4.2)

Why a request completed: a code of at most three digits and a name of one word, written with the
code filled up with zeros.  The name is kept as given and written without the blanks at its ends.
-/

set_option autoImplicit false

namespace MediaControl

/-- Why a request completed. -/
structure CompletionCause where
  code : Nat
  /-- the name as given -/
  name : String
  code_le : code ≤ 999
  deriving DecidableEq

namespace CompletionCause

/-- Makes a cause.  The code is looked at first, then the name. -/
def new (code : Nat) (name : String) : Except IllegalValue CompletionCause :=
  if h : code ≤ 999 then
    let word := Text.trim name
    if word = "" then .error .emptyCauseName
    else if word.toList.any Text.isBlank then .error (.causeNameBlank word)
    else .ok ⟨code, name, h⟩
  else .error (.causeCodeRange code)

/-- The form on the wire. -/
def wire (c : CompletionCause) : String :=
  Natural.padded 3 c.code ++ " " ++ Text.trim c.name

/-- Reads the form on the wire: exactly one space. -/
def parse (raw : String) : Except IllegalValue CompletionCause :=
  match raw.toList.splitOnP (· = ' ') with
  | [code, name] =>
    match Natural.readChars Natural.max16 code with
    | .ok code => new code (String.ofList name)
    | .error _ => .error (.invalidCauseCode (String.ofList code))
  | _ => .error (.notCause raw)

end CompletionCause

end MediaControl
