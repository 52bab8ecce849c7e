-- Text inside an address: every byte but those of letters, digits and four marks is written as a
-- percent sign and two digits.
import Stencil.Text.Hex

namespace Stencil.Text

/-- The characters that stand for themselves in every part of an address. -/
def isUnreserved (c : Char) : Bool :=
  c.isAlphanum || c == '_' || c == '.' || c == '-' || c == '~'

def percentChar (c : Char) : List Char :=
  if isUnreserved c then [c]
  else (String.utf8EncodeChar c).flatMap fun b => '%' :: hex true 2 b.toNat

def escapePercent (s : String) : String := String.ofList (s.toList.flatMap percentChar)

end Stencil.Text
