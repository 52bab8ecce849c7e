-- The ends of lines: a return, alone or in front of a line end, ends a line too.

namespace Stencil.Text

/-- The text with every end of a line written in one way. -/
def unified : List Char → List Char
  | [] => []
  | '\r' :: '\n' :: rest => '\n' :: unified rest
  | '\r' :: rest => '\n' :: unified rest
  | c :: rest => c :: unified rest

end Stencil.Text
