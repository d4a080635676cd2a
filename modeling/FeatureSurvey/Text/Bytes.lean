import FeatureSurvey.Text.Utf8

/-!
# `Text/Bytes.lean` — bytes as characters

Where text is handled byte by byte, a string whose characters are all below 256 stands for the
bytes with these numbers. `ofText` spells a text out in this way, and `toText` reads such bytes
as the text they are.
-/

set_option autoImplicit false

namespace FeatureSurvey.Bytes

def ofByteArray (bytes : ByteArray) : String :=
  bytes.foldl (fun s b => s.push (Char.ofNat b.toNat)) ""

def toByteArray (s : String) : ByteArray :=
  s.foldl (fun bytes c => bytes.push (UInt8.ofNat c.toNat)) ByteArray.empty

def ofText (s : String) : String :=
  if s.all fun (c : Char) => decide (c.toNat < 128) then s else ofByteArray s.toUTF8

def toText (s : String) : String :=
  if s.all fun (c : Char) => decide (c.toNat < 128) then s else Text.decode (toByteArray s)

end FeatureSurvey.Bytes
