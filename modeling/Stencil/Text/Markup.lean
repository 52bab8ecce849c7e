-- Text inside HTML: the five characters that mean something there are written as entities.

namespace Stencil.Text

def markupChar (c : Char) : List Char :=
  match c with
  | '&' => "&amp;".toList
  | '<' => "&lt;".toList
  | '>' => "&gt;".toList
  | '"' => "&#34;".toList
  | '\'' => "&#39;".toList
  | c => [c]

def escapeMarkup (s : String) : String := String.ofList (s.toList.flatMap markupChar)

end Stencil.Text
