/-! # Bytes and text -/

namespace Assay.Text

abbrev Bytes := List UInt8

def replacement : Char := '�'

def encode (text : String) : Bytes := text.toList.flatMap String.utf8EncodeChar

inductive Reading where
  | char (value : Char) (rest : Bytes)
  | broken (rest : Bytes)

def isTail (byte : UInt8) : Bool := 0x80 ≤ byte && byte ≤ 0xBF

def tailBits (byte : UInt8) : Nat := byte.toNat % 64

/-- The bounds of the second byte after a first byte of a character of three or four bytes: the
bounds exclude overlong forms, surrogates and numbers beyond the last character. -/
def secondBounds (first : UInt8) : UInt8 × UInt8 :=
  if first = 0xE0 then (0xA0, 0xBF)
  else if first = 0xED then (0x80, 0x9F)
  else if first = 0xF0 then (0x90, 0xBF)
  else if first = 0xF4 then (0x80, 0x8F)
  else (0x80, 0xBF)

def isSecond (first byte : UInt8) : Bool :=
  (secondBounds first).1 ≤ byte && byte ≤ (secondBounds first).2

def readChar (first : UInt8) (rest : Bytes) : Reading :=
  if first < 0x80 then .char (Char.ofNat first.toNat) rest
  else if 0xC2 ≤ first ∧ first ≤ 0xDF then
    match rest with
    | second :: rest' =>
      if isTail second then .char (Char.ofNat (first.toNat % 32 * 64 + tailBits second)) rest'
      else .broken rest
    | [] => .broken []
  else if 0xE0 ≤ first ∧ first ≤ 0xEF then
    match rest with
    | second :: rest' =>
      if isSecond first second then
        match rest' with
        | third :: rest'' =>
          if isTail third then
            .char
              (Char.ofNat (first.toNat % 16 * 4096 + tailBits second * 64 + tailBits third)) rest''
          else .broken rest'
        | [] => .broken []
      else .broken rest
    | [] => .broken []
  else if 0xF0 ≤ first ∧ first ≤ 0xF4 then
    match rest with
    | second :: rest' =>
      if isSecond first second then
        match rest' with
        | third :: rest'' =>
          if isTail third then
            match rest'' with
            | fourth :: rest''' =>
              if isTail fourth then
                .char (Char.ofNat (first.toNat % 8 * 262144 + tailBits second * 4096
                  + tailBits third * 64 + tailBits fourth)) rest'''
              else .broken rest''
            | [] => .broken []
          else .broken rest'
        | [] => .broken []
      else .broken rest
    | [] => .broken []
  else .broken rest

def Reading.rest : Reading → Bytes
  | .char _ rest => rest
  | .broken rest => rest

theorem readChar_rest_length (first : UInt8) (rest : Bytes) :
    (readChar first rest).rest.length ≤ rest.length := by
  unfold readChar
  repeat' split
  all_goals simp only [Reading.rest, List.length_cons, List.length_nil]
  all_goals omega

theorem length_rest_lt {first : UInt8} {rest rest' : Bytes} {reading : Reading}
    (h : readChar first rest = reading) (kept : reading.rest = rest') :
    rest'.length < (first :: rest).length := by
  have shorter := readChar_rest_length first rest
  rw [h, kept] at shorter
  exact Nat.lt_succ_of_le shorter

def decodeOnto (read : List Char) : Bytes → List Char
  | [] => read
  | first :: rest =>
    match h : readChar first rest with
    | .char c rest' =>
      have := length_rest_lt h rfl
      decodeOnto (c :: read) rest'
    | .broken rest' =>
      have := length_rest_lt h rfl
      decodeOnto (replacement :: read) rest'
termination_by bytes => bytes.length
decreasing_by all_goals assumption

def decodeLossy (bytes : Bytes) : String := String.ofList (decodeOnto [] bytes).reverse

def decodeOnto? (read : List Char) : Bytes → Option (List Char)
  | [] => some read
  | first :: rest =>
    match h : readChar first rest with
    | .char c rest' =>
      have := length_rest_lt h rfl
      decodeOnto? (c :: read) rest'
    | .broken _ => none
termination_by bytes => bytes.length
decreasing_by assumption

def decode? (bytes : Bytes) : Option String :=
  (decodeOnto? [] bytes).map fun read => String.ofList read.reverse

end Assay.Text
