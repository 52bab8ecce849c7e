-- Texts and bytes between quotes, as messages show them. Single quotes are used unless the text
-- holds one and no double quote; what cannot be printed is written by its number.
import Stencil.Text.Hex
import Stencil.Text.Printable

namespace Stencil.Text

/-- The quote around a text: a double one only where it saves escapes. -/
def quoteFor (cs : List Char) : Char :=
  if cs.contains '\'' && !cs.contains '"' then '"' else '\''

/-- The escapes that all quoted forms share. -/
def sharedEscape? (quote c : Char) : Option (List Char) :=
  if c == quote || c == '\\' then some ['\\', c]
  else if c == '\n' then some ['\\', 'n']
  else if c == '\r' then some ['\\', 'r']
  else if c == '\t' then some ['\\', 't']
  else none

def quotedChar (quote c : Char) : List Char :=
  let n := c.toNat
  (sharedEscape? quote c).getD <|
    if isPrintable c then [c]
    else if n < 0x100 then '\\' :: 'x' :: hex false 2 n
    else if n < 0x10000 then '\\' :: 'u' :: hex false 4 n
    else '\\' :: 'U' :: hex false 8 n

/-- A text between quotes. -/
def quoted (s : String) : String :=
  let cs := s.toList
  let quote := quoteFor cs
  String.ofList (quote :: cs.flatMap (quotedChar quote) ++ [quote])

def quotedByte (quote : Char) (b : UInt8) : List Char :=
  let c := Char.ofNat b.toNat
  (sharedEscape? quote c).getD <|
    if 32 ≤ b.toNat && b.toNat < 127 then [c] else '\\' :: 'x' :: hex false 2 b.toNat

/-- Bytes between quotes, those of ASCII as characters. -/
def quotedBytes (bytes : List UInt8) : String :=
  let quote := quoteFor (bytes.map fun b => Char.ofNat b.toNat)
  String.ofList ('b' :: quote :: bytes.flatMap (quotedByte quote) ++ [quote])

end Stencil.Text
