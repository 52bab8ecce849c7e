-- What may stand in front of a value: anchors, by which it is known, and tags, which say what kind
-- of value it is. Also the directives in front of a document.
import Stencil.Data.Flaw
import Stencil.Data.Json.Reader
import Stencil.Data.Yaml.Cursor
import Stencil.Data.Yaml.Token

namespace Stencil.Data.Yaml

/-! ## Names -/

def isNameChar (c : Char) : Bool := c.isAlphanum || c == '-' || c == '_'

def isUriChar (c : Char) : Bool := c.isAlphanum || "-;/?:@&=+$,_.!~*'()[]%".toList.contains c

/-- A name, and the place behind it. -/
def name (c : Cursor) : Reading (String × Cursor) :=
  let found := c.run isNameChar
  if found.isEmpty then malformed else return (String.ofList found, Cursor.skip found.length c)

/-- Characters of a tag, in which a percent sign introduces a byte. -/
def uriBytes : List Char → Reading (List UInt8)
  | [] => return []
  | '%' :: a :: b :: rest => do
    let byte ← demand (Json.hexNumber? [a, b])
    return byte.toUInt8 :: (← uriBytes rest)
  | '%' :: _ => malformed
  | c :: rest => return (String.singleton c).toUTF8.toList ++ (← uriBytes rest)

/-- The characters of a tag, and the place behind them. -/
def uri (c : Cursor) : Reading (String × Cursor) := do
  let found := c.run isUriChar
  let bytes ← uriBytes found
  let text ← demand (String.fromUTF8? (ByteArray.mk bytes.toArray))
  if found.isEmpty then malformed else return (text, Cursor.skip found.length c)

/-- A handle of tags: one mark, or a name between two marks. -/
def tagHandle (c : Cursor) : Reading (String × Cursor) :=
  if c.head? ≠ some '!' then malformed
  else if c.at? 1 = some ' ' then return ("!", c.next)
  else
    let found := c.next.run isNameChar
    let c := Cursor.skip (found.length + 1) c
    if c.head? = some '!' then return (String.ofList ('!' :: found ++ ['!']), c.next) else malformed

/-! ## Anchors and tags -/

/-- The name of an anchor or of an alias, whose mark is ahead. -/
def anchorName (c : Cursor) : Reading (String × Cursor) := do
  let (found, c) ← name c.next
  if endsWord c.head? || c.head?.any "?:,]\x7d%@\x60".toList.contains then return (found, c)
  else malformed

/-- A tag whose mark is ahead: written in full, without a name, or behind a handle. -/
def tag (c : Cursor) : Reading (Token × Cursor) := do
  let (found, c) ←
    if c.at? 1 = some '<' then
      let (suffix, c) ← uri c.next.next
      if c.head? = some '>' then pure (Token.tag none suffix, c.next) else malformed
    else if endsWord (c.at? 1) then pure (Token.tag none "!", c.next)
    else
      let word := c.next.run fun ch => !endsProperty (some ch)
      let (handle, c) ← if word.contains '!' then tagHandle c else pure ("!", c.next)
      let (suffix, c) ← uri c
      pure (Token.tag (some handle) suffix, c)
  if endsProperty c.head? then return (found, c) else malformed

/-! ## Directives -/

/-- Digits as a number, and the place behind them. -/
def natural (c : Cursor) : Reading (Nat × Cursor) :=
  let digits := c.run Char.isDigit
  if digits.isEmpty then malformed
  else return (Text.ofDigits digits, Cursor.skip digits.length c)

/-- A directive whose mark is ahead. -/
def directive (c : Cursor) : Reading (Token × Cursor) := do
  let (found, c) ← name c.next
  if !endsProperty c.head? then malformed
  else
    let (token, c) ←
      if found = "YAML" then
        let (major, c) ← natural c.skipSpaces
        if c.head? ≠ some '.' then malformed
        else
          let (_, c) ← natural c.next
          if endsProperty c.head? then pure (Token.version major, c) else malformed
      else if found = "TAG" then
        let (handle, c) ← tagHandle c.skipSpaces
        if c.head? ≠ some ' ' then malformed
        else
          let (text, c) ← uri c.skipSpaces
          if endsProperty c.head? then pure (Token.handle handle text, c) else malformed
      else pure (Token.reserved, c.skipLine)
    return (token, ← demand c.skipVoid?)

end Stencil.Data.Yaml
