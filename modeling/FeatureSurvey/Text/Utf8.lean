/-!
# `Text/Utf8.lean` — bytes as text

Tools print bytes, and what they print is read as UTF-8. Reading never fails: a maximal piece of
a sequence that cannot be completed becomes one replacement character, and reading goes on right
after that piece. `decode?` is the strict reading, for files that have to be text.
-/

set_option autoImplicit false

namespace FeatureSurvey.Text

def replacement : Char := '\uFFFD'

/-- A byte of the form `10xxxxxx`. -/
def isTail (b : UInt8) : Bool := 0x80 ≤ b && b ≤ 0xBF

/-- What one step of reading finds at the front of a run of bytes: a character, or the length of
the piece that cannot be completed. -/
inductive Utf8Step where
  | char (c : Char) (length : Nat)
  | bad (length : Nat)

/-- The bytes that may follow a given first byte as the second of its sequence: after `E0` and
`F0` no overlong forms, after `ED` no surrogates, after `F4` nothing above `10FFFF`. -/
def secondAllowed (first second : UInt8) : Bool :=
  if first == 0xE0 then 0xA0 ≤ second && second ≤ 0xBF
  else if first == 0xED then 0x80 ≤ second && second ≤ 0x9F
  else if first == 0xF0 then 0x90 ≤ second && second ≤ 0xBF
  else if first == 0xF4 then 0x80 ≤ second && second ≤ 0x8F
  else isTail second

def bits (b : UInt8) (mask : Nat) : Nat := b.toNat % mask

/-- Read one character from a first byte and the bytes after it. -/
def utf8Step (a : UInt8) (rest : List UInt8) : Utf8Step :=
  if a < 0x80 then .char (Char.ofNat a.toNat) 1
  else if a < 0xC2 || 0xF4 < a then .bad 1
  else
    match rest with
    | [] => .bad 1
    | b :: rest =>
      if !secondAllowed a b then .bad 1
      else if a < 0xE0 then .char (Char.ofNat (bits a 32 * 64 + bits b 64)) 2
      else
        match rest with
        | [] => .bad 2
        | c :: rest =>
          if !isTail c then .bad 2
          else if a < 0xF0 then
            .char (Char.ofNat (bits a 16 * 4096 + bits b 64 * 64 + bits c 64)) 3
          else
            match rest with
            | [] => .bad 3
            | d :: _ =>
              if !isTail d then .bad 3
              else
                .char (Char.ofNat
                  (bits a 8 * 262144 + bits b 64 * 4096 + bits c 64 * 64 + bits d 64)) 4

/-- Read on, `skip` bytes of a character already read being passed over. -/
def decodeFrom : Nat → List UInt8 → List Char
  | _, [] => []
  | skip + 1, _ :: rest => decodeFrom skip rest
  | 0, a :: rest =>
    match utf8Step a rest with
    | .char c n => c :: decodeFrom (n - 1) rest
    | .bad n => replacement :: decodeFrom (n - 1) rest

/-- Read bytes as text, with replacement characters where they are no UTF-8. -/
def decode (bytes : ByteArray) : String :=
  match String.fromUTF8? bytes with
  | some s => s
  | none => String.ofList (decodeFrom 0 bytes.data.toList)

/-- Read bytes as text, if all of them are UTF-8. -/
def decode? (bytes : ByteArray) : Option String := String.fromUTF8? bytes

end FeatureSurvey.Text
