/-!
# Text: UTF-8

Messages travel as bytes.  `encode` writes a text, `decode` reads one back and, where the bytes are
no text, says where they stop being one: a *fault* is either a sequence that no continuation can
repair, with the number of bytes that were still plausible, or a sequence cut off by the end.
`decodeLossy` reads what can be read of any bytes.
-/

set_option autoImplicit false

namespace MediaControl

/-- Bytes on the wire, in a buffer or in a body. -/
abbrev Bytes := List UInt8

namespace Utf8

/-- Where bytes stop being a text. -/
inductive Fault where
  /-- `length` bytes from `index` on form no character, whatever follows -/
  | invalid (length index : Nat)
  /-- the bytes from `index` on begin a character that the end cuts off -/
  | incomplete (index : Nat)
  deriving DecidableEq, Repr, Inhabited

/-- The fault in words. -/
def Fault.message : Fault → String
  | .invalid length index => s!"invalid utf-8 sequence of {length} bytes from index {index}"
  | .incomplete index => s!"incomplete utf-8 byte sequence from index {index}"

/-- The bytes of a text. -/
def encode (s : String) : Bytes := s.toList.flatMap String.utf8EncodeChar

/-- A byte that continues a character. -/
def isTail (b : UInt8) : Bool := 0x80 ≤ b && b ≤ 0xBF

/-- The six bits that a continuing byte carries. -/
def tailBits (b : UInt8) : Nat := b.toNat % 64

/-- What the front of some bytes is. -/
inductive Front where
  /-- a character, and the bytes behind it -/
  | char (c : Char) (rest : Bytes)
  /-- no character: so many bytes were plausible -/
  | invalid (length : Nat)
  /-- a character cut off by the end -/
  | incomplete

/-- The second byte of a three-byte character: the shortest form only, and no surrogate. -/
def isSecondOfThree (first second : UInt8) : Bool :=
  if first = 0xE0 then 0xA0 ≤ second && second ≤ 0xBF
  else if first = 0xED then 0x80 ≤ second && second ≤ 0x9F
  else isTail second

/-- The second byte of a four-byte character: the shortest form only, and no code point beyond the
last. -/
def isSecondOfFour (first second : UInt8) : Bool :=
  if first = 0xF0 then 0x90 ≤ second && second ≤ 0xBF
  else if first = 0xF4 then 0x80 ≤ second && second ≤ 0x8F
  else isTail second

/-- Reads the character at the front of the bytes `first :: rest`. -/
def front (first : UInt8) (rest : Bytes) : Front :=
  if first < 0x80 then .char (Char.ofNat first.toNat) rest
  else if first < 0xC2 then .invalid 1
  else if first < 0xE0 then
    match rest with
    | [] => .incomplete
    | b :: rest =>
      if isTail b then .char (Char.ofNat (first.toNat % 32 * 64 + tailBits b)) rest
      else .invalid 1
  else if first < 0xF0 then
    match rest with
    | [] => .incomplete
    | b :: rest =>
      if !isSecondOfThree first b then .invalid 1
      else match rest with
      | [] => .incomplete
      | d :: rest =>
        if isTail d then
          .char (Char.ofNat (first.toNat % 16 * 4096 + tailBits b * 64 + tailBits d)) rest
        else .invalid 2
  else if first < 0xF5 then
    match rest with
    | [] => .incomplete
    | b :: rest =>
      if !isSecondOfFour first b then .invalid 1
      else match rest with
      | [] => .incomplete
      | d :: rest =>
        if !isTail d then .invalid 2
        else match rest with
        | [] => .incomplete
        | e :: rest =>
          if isTail e then
            .char (Char.ofNat (first.toNat % 8 * 262144 + tailBits b * 4096 + tailBits d * 64
              + tailBits e)) rest
          else .invalid 3
  else .invalid 1

theorem length_rest_of_front {first : UInt8} {rest tail : Bytes} {c : Char}
    (h : front first rest = .char c tail) : tail.length ≤ rest.length := by
  unfold front at h
  repeat' split at h
  all_goals first
    | (injection h with _ h; subst h; simp; try omega)
    | simp at h

/-- Reads the bytes from `index` on; `read` holds the characters already read, last one first. -/
def decodeFrom (index : Nat) (read : List Char) : Bytes → Except Fault String
  | [] => .ok (String.ofList read.reverse)
  | b :: rest =>
    match _taken : front b rest with
    | .char c tail => decodeFrom (index + c.utf8Size) (c :: read) tail
    | .invalid length => .error (.invalid length index)
    | .incomplete => .error (.incomplete index)
  termination_by bytes => bytes.length
  decreasing_by
    have := length_rest_of_front _taken
    simp only [List.length_cons]
    omega

/-- The text that the bytes encode, or where they stop being a text. -/
def decode (bytes : Bytes) : Except Fault String := decodeFrom 0 [] bytes

/-- The text that the bytes encode, if they encode one. -/
def decode? (bytes : Bytes) : Option String := (decode bytes).toOption

/-- The text that the bytes encode, where a replacement character stands for each stretch that encodes
nothing. -/
def decodeLossy : Bytes → List Char
  | [] => []
  | b :: rest =>
    match h : front b rest with
    | .char c tail => c :: decodeLossy tail
    | .invalid length => '\ufffd' :: decodeLossy (rest.drop (length - 1))
    | .incomplete => ['\ufffd']
  termination_by bytes => bytes.length
  decreasing_by
    · have := length_rest_of_front h
      simp only [List.length_cons]
      omega
    · simp only [List.length_drop, List.length_cons]
      omega

end Utf8

end MediaControl
