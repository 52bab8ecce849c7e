-- Reading templates. The builder takes one token after the other and keeps the sections that
-- are still open; the first token that breaks a rule decides the answer.
import Stencil.Template.Flaw
import Stencil.Template.Node
import Stencil.Template.Token

namespace Stencil.Template

/-- A section that is still open, with what stood before it in the section around it. -/
structure OpenSection where
  head : Head
  inverted : Bool
  /-- The nodes before the section, latest first. -/
  before : List Node
  /-- The source of the enclosing section up to the content of this one, last character first. -/
  innerBefore : List Char

/-- What has been read: the nodes of the innermost open section and their source, and the open
sections, innermost first. -/
structure Builder where
  /-- The nodes read, latest first. -/
  nodes : List Node
  /-- The source read, last character first. -/
  inner : List Char
  opened : List OpenSection

/-- What a tag does in the tree. -/
inductive Role where
  | variableTag (escaped : Bool) (text : List Char)
  | opening (inverted : Bool) (text : List Char)
  | closing (text : List Char)
  | comment
  | inclusion
  | delimiters
  | empty

/-- The role of a tag, which the first character of its body decides. -/
def Role.of (tag : RawTag) : Role :=
  if tag.triple then .variableTag false tag.body else
    match tag.body with
    | [] => .empty
    | '&' :: text => .variableTag false text
    | '#' :: text => .opening false text
    | '^' :: text => .opening true text
    | '/' :: text => .closing (Text.trim text)
    | '!' :: _ => .comment
    | '>' :: _ => .inclusion
    | '=' :: _ => .delimiters
    | text => .variableTag true text

namespace Builder

def start : Builder := ⟨[], [], []⟩

/-- The expression of a tag. -/
def expression (text : List Char) (location : Location) : Except Rejection Expr :=
  (Expr.parse text).mapError fun flaw => ⟨.expression text flaw, location⟩

/-- Text is kept unless it is empty. -/
def addText (b : Builder) (cs : List Char) : Builder :=
  if cs.isEmpty then b else { b with nodes := .text (String.ofList cs) :: b.nodes }

/-- The section that a closing tag closes. -/
def close (b : Builder) (t : Token) (text : List Char) : Except Rejection Builder :=
  match b.opened with
  | [] => .error ⟨.strayClosing text, t.location⟩
  | s :: outer => do
    if !text.isEmpty then
      let e ← expression text t.location
      if e ≠ s.head.expression then
        throw ⟨.otherClosing text s.head.expression s.head.location, t.location⟩
    let inner := b.inner.reverse ++ t.lead
    return {
      nodes := .sectionTag s.head s.inverted b.nodes.reverse (String.ofList inner) :: s.before
      inner := t.source.reverse ++ (b.inner ++ s.innerBefore)
      opened := outer }

/-- What a tag does to the tree, the text in front of it being read. -/
def addTag (b : Builder) (t : Token) : Except Rejection Builder :=
  match Role.of t.tag with
  | .variableTag escaped text => do
    let e ← expression text t.location
    return { b with
      nodes := .variableTag ⟨e, t.location⟩ escaped :: b.nodes
      inner := t.source.reverse ++ b.inner }
  | .opening inverted text => do
    let e ← expression text t.location
    return {
      nodes := []
      inner := []
      opened := ⟨⟨e, t.location⟩, inverted, b.nodes, t.source.reverse ++ b.inner⟩ :: b.opened }
  | .closing text => b.close t text
  | .comment => .ok { b with inner := t.source.reverse ++ b.inner }
  | .inclusion => .error ⟨.inclusion, t.location⟩
  | .delimiters => .error ⟨.delimiters, t.location⟩
  | .empty => .error ⟨.emptyTag, t.location⟩

def step (b : Builder) (t : Token) : Except Rejection Builder := (b.addText t.lead).addTag t

/-- The place of the first opening braces in a text that begins at `here`. -/
def strayBraces? (here : Location) : List Char → Option Location
  | '\x7b' :: '\x7b' :: _ => some here
  | c :: cs => strayBraces? (here.next c) cs
  | [] => none

/-- The finished tree: no section and no tag may be left open. -/
def finish (b : Builder) (here : Location) (rest : List Char) : Except Rejection Template :=
  match b.opened with
  | s :: _ => .error ⟨.unclosedSection s.head.expression, s.head.location⟩
  | [] =>
    match strayBraces? here rest with
    | some location => .error ⟨.unclosedTag, location⟩
    | none => .ok (b.addText rest).nodes.reverse

end Builder

/-- The place behind a list of tokens. -/
def placeBehind (template : Option String) (tokens : List Token) : Location :=
  tokens.foldl (fun l t => l.after t.source) (.start template)

/-- The template that a source spells. -/
def parse (template : Option String) (source : String) : Except Rejection Template := do
  let (tokens, rest) := Token.scan template source.toList
  let b ← tokens.foldlM Builder.step Builder.start
  b.finish (placeBehind template tokens) rest

end Stencil.Template
