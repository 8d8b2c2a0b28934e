/-!
# Form encoding

Text as it stands in a form-encoded query string: ASCII letters, digits and four marks as they are, a
space as a plus, and the UTF-8 bytes of anything else in hexadecimal. Assumed of the encoder of query strings.
-/

namespace TableQuery.FormEncoding

/-- Characters that stand for themselves. -/
def isPlain (c : Char) : Bool := c.isAlphanum || c == '*' || c == '-' || c == '.' || c == '_'

def hexDigit (n : Nat) : Char := if n < 10 then Char.ofNat (48 + n) else Char.ofNat (55 + n)

def encodeByte (b : UInt8) : List Char := ['%', hexDigit (b.toNat / 16), hexDigit (b.toNat % 16)]

def encodeChar (c : Char) : List Char :=
  if isPlain c then [c]
  else if c = ' ' then ['+']
  else (String.utf8EncodeChar c).flatMap encodeByte

def encode (s : String) : String := String.ofList (s.toList.flatMap encodeChar)

end TableQuery.FormEncoding
