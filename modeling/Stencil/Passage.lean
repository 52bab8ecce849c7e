-- Passages: texts as renderings hold them. A passage may be marked as markup; escaping leaves
-- what is marked as it stands.
import Stencil.Text.Markup

namespace Stencil

structure Passage where
  text : String
  /-- Whether the text is markup already. -/
  marked : Bool
  deriving DecidableEq, Repr

namespace Passage

/-- A text without a mark. -/
def plain (s : String) : Passage := ⟨s, false⟩

/-- The passage as it may stand in a page: what is not marked is escaped. -/
def escaped (p : Passage) : String := if p.marked then p.text else Text.escapeMarkup p.text

@[simp] theorem text_plain (s : String) : (plain s).text = s := rfl

@[simp] theorem escaped_plain (s : String) : (plain s).escaped = Text.escapeMarkup s := rfl

theorem escaped_of_marked {p : Passage} (h : p.marked = true) : p.escaped = p.text := by
  simp [escaped, h]

end Passage

end Stencil
