-- Text inside string literals in ASCII. JSON needs escapes for quotes, backslashes, controls and
-- everything beyond ASCII; a literal in a page needs them for four more characters.
import Stencil.Text.Hex

namespace Stencil.Text

/-- A code unit of sixteen bits as an escape. -/
def unitEscape (n : Nat) : List Char := '\\' :: 'u' :: hex false 4 n

/-- A character inside a JSON string, written in ASCII. -/
def jsonChar (c : Char) : List Char :=
  match c with
  | '"' => ['\\', '"']
  | '\\' => ['\\', '\\']
  | '\n' => ['\\', 'n']
  | '\r' => ['\\', 'r']
  | '\t' => ['\\', 't']
  | '\x08' => ['\\', 'b']
  | '\x0c' => ['\\', 'f']
  | c =>
    let n := c.toNat
    if 32 ≤ n && n ≤ 126 then [c]
    else if n < 0x10000 then unitEscape n
    else unitEscape (0xD800 + (n - 0x10000) / 1024) ++ unitEscape (0xDC00 + (n - 0x10000) % 1024)

/-- A string as JSON writes it, with its quotes. -/
def jsonString (s : String) : String :=
  String.ofList ('"' :: s.toList.flatMap jsonChar ++ ['"'])

/-- A character inside a string literal of a script in a page. -/
def scriptChar (c : Char) : List Char :=
  match c with
  | '\'' => "\\u0027".toList
  | '<' => "\\u003C".toList
  | '>' => "\\u003E".toList
  | '&' => "\\u0026".toList
  | c => jsonChar c

def escapeScript (s : String) : String := String.ofList (s.toList.flatMap scriptChar)

end Stencil.Text
