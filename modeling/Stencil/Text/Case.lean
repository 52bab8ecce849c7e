-- Upper and lower case of texts in all scripts. One character may become several, and a capital
-- sigma at the end of a word becomes the final form of the small one.
import Stencil.Text.Case.Table
import Stencil.Text.Range

namespace Stencil.Text

namespace Case

/-- The character that a run maps a character to, if it holds it. -/
def Run.target? (r : Run) (n : Nat) : Option Char :=
  if r.first ≤ n && n ≤ r.last && (n - r.first) % r.step == 0 then
    some (Char.ofNat (r.target + (n - r.first)))
  else none

/-- What a mapping makes of a character; others stay as they are. -/
def convert (wide : List (Nat × List Nat)) (runs : List Run) (c : Char) : List Char :=
  match wide.lookup c.toNat with
  | some codes => codes.map Char.ofNat
  | none => [(runs.findSome? (·.target? c.toNat)).getD c]

def isIgnorable (c : Char) : Bool := inRanges ignorableRanges c

def isCased (c : Char) : Bool := inRanges casedRanges c

/-- The next character that is not passed over has a case. -/
def meetsCased (cs : List Char) : Bool :=
  match cs.dropWhile isIgnorable with
  | c :: _ => isCased c
  | [] => false

/-- The lower case of a text; `before` is the text in front of it, last character first. -/
def lowerFrom (before : List Char) : List Char → List Char
  | [] => []
  | 'Σ' :: cs =>
    (if meetsCased before && !meetsCased cs then 'ς' else 'σ') :: lowerFrom ('Σ' :: before) cs
  | c :: cs => convert lowerWide lowerRuns c ++ lowerFrom (c :: before) cs

end Case

def upper (cs : List Char) : List Char := cs.flatMap (Case.convert Case.upperWide Case.upperRuns)

def lower (cs : List Char) : List Char := Case.lowerFrom [] cs

/-- Each word with its first character in upper case and the others in lower case; only spaces end
a word. -/
def capitalized (cs : List Char) : List Char :=
  let words := (cs.splitOn ' ').map fun word => upper (word.take 1) ++ lower (word.drop 1)
  [' '].intercalate words

end Stencil.Text
