-- The tokens of a source: each tag with the text in front of it and its place. A tag that only
-- structures the template and stands alone on its line takes the line with it, so the blanks
-- in front of it and the end of the line are kept apart from the text.
import Stencil.Location
import Stencil.Template.Source
import Stencil.Text.Blank

namespace Stencil

structure Token where
  /-- The text in front of the tag. -/
  lead : List Char
  /-- The blanks that fall away in front of a tag alone on its line. -/
  indent : List Char
  tag : RawTag
  /-- The end of the line, which falls away behind a tag alone on its line. -/
  trail : List Char
  location : Location
  deriving DecidableEq, Repr

namespace RawTag

/-- What stands between the braces, without the blanks at its ends. -/
def body (t : RawTag) : List Char := Text.trim t.content

/-- Sections, closing tags and comments insert nothing by themselves. -/
def isStructural (t : RawTag) : Bool :=
  !t.triple && match t.body with
    | c :: _ => c == '#' || c == '^' || c == '/' || c == '!'
    | [] => false

end RawTag

namespace Token

/-- The source of a token. -/
def source (t : Token) : List Char := t.lead ++ t.indent ++ t.tag.source ++ t.trail

/-- The text up to the last line end, and the line that is begun. -/
def splitLastLine (cs : List Char) : List Char × List Char :=
  ((cs.reverse.dropWhile (· ≠ '\n')).reverse, (cs.reverse.takeWhile (· ≠ '\n')).reverse)

/-- The text in front of a tag alone on its line, and the blanks that begin this line; `fresh` tells
that the text begins a line. -/
def indent? (fresh : Bool) (text : List Char) : Option (List Char × List Char) :=
  let (before, line) := splitLastLine text
  if (fresh || !before.isEmpty) && line.all (fun c => c == ' ' || c == '\t') then
    some (before, line)
  else none

/-- The end of the line behind a tag alone on its line, and the text on the next one; `last` tells
that no further tag follows the text. -/
def trail? (last : Bool) (text : List Char) : Option (List Char × List Char) :=
  let line := text.takeWhile (· ≠ '\n')
  if line.all (fun c => c == ' ' || c == '\t' || c == '\r') then
    match text.dropWhile (· ≠ '\n') with
    | [] => if last then some (line, []) else none
    | c :: rest => some (line ++ [c], rest)
  else none

/-- The lead and the indent of a tag, its trail, and the text behind it. -/
def around (fresh last : Bool) (text next : List Char) (tag : RawTag) :
    Option ((List Char × List Char) × (List Char × List Char)) :=
  if tag.isStructural then
    match indent? fresh text, trail? last next with
    | some front, some back => some (front, back)
    | _, _ => none
  else none

/-- The tokens of a cut source and the text behind the last one. -/
def place (here : Location) (fresh : Bool) (text : List Char) :
    List (RawTag × List Char) → List Token × List Char
  | [] => ([], text)
  | (tag, next) :: more =>
    match around fresh more.isEmpty text next tag with
    | some ((lead, indent), (trail, next)) =>
      let location := here.after (lead ++ indent)
      let (tokens, rest) := place (location.after (tag.source ++ trail)) true next more
      (⟨lead, indent, tag, trail, location⟩ :: tokens, rest)
    | none =>
      let location := here.after text
      let (tokens, rest) := place (location.after tag.source) false next more
      (⟨text, [], tag, [], location⟩ :: tokens, rest)

/-- The tokens of a source and the text behind the last one. -/
def scan (template : Option String) (cs : List Char) : List Token × List Char :=
  let cut := Cut.of cs
  place (.start template) true cut.text cut.tags

end Token

end Stencil
