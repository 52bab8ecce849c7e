-- Reviews: checks of a template against the filters of a press and against the names that its data
-- will provide. The level of a review decides which warnings it gives.
import Stencil.Press

namespace Stencil

inductive Level where
  /-- Findings only. -/
  | permissive
  /-- Warnings about tags that do not escape. -/
  | standard
  /-- Further warnings, about style. -/
  | strict
  deriving DecidableEq, Repr

namespace Level

def all : List Level := [.permissive, .standard, .strict]

def name : Level → String
  | .permissive => "permissive"
  | .standard => "standard"
  | .strict => "strict"

end Level

/-- The size of a source in characters and in lines. -/
structure Extent where
  length : Nat
  lines : Nat
  deriving DecidableEq, Repr

/-- The number of characters and of lines of a source. -/
def Extent.of (source : String) : Extent := ⟨source.length, source.toList.count '\n' + 1⟩

structure Review where
  findings : List Finding
  warnings : List Warning
  /-- The names that the template reads. -/
  names : List String
  /-- The size of the source, unless it is empty. -/
  extent : Option Extent
  /-- The filters that the template calls, if it could be read. -/
  filters : Option (List String)

namespace Review

def isValid (r : Review) : Bool := r.findings.isEmpty

/-- The first name of a dotted name. -/
def headOf (dotted : String) : String := String.ofList (dotted.toList.takeWhile (· ≠ '.'))

/-- Names that stand in the first list and not in the second. -/
def without (names others : List String) : List String := names.filter fun n => n ∉ others

/-! ## Warnings -/

/-- Tags that insert their values without escaping. -/
def unescapedTags (t : Template) : List Warning :=
  t.tags.filterMap fun
    | .variableTag head false => some (.unescaped head)
    | _ => none

/-- The longest line that passes without a warning. -/
def longestLine : Nat := 200

/-- The most sections inside each other that pass without a warning. -/
def deepestSections : Nat := 3

/-- The most calls inside each other that pass without a warning. -/
def deepestCalls : Nat := 3

/-- Lines that are too long; the first one has the given number. -/
def longLines (number : Nat) : List (List Char) → List Warning
  | [] => []
  | line :: rest =>
    (if longestLine < line.length then [.longLine number line.length] else []) ++
      longLines (number + 1) rest

def deepSections (t : Template) : List Warning :=
  if deepestSections < t.depth then [.deepSections t.depth] else []

def deepCalls (t : Template) : List Warning :=
  t.heads.filterMap fun h =>
    let depth := h.expression.callDepth
    if deepestCalls < depth then some (.deepCalls h depth) else none

/-- Warnings about style. -/
def styleWarnings (source : String) (t : Template) : List Warning :=
  longLines 1 (source.toList.splitOn '\n') ++ deepSections t ++ deepCalls t

/-! ## Reviewing -/

/-- A source that is too long. A limit of zero is no limit. -/
def lengthFindings (source : String) : Option Int → List Finding
  | none => []
  | some longest =>
    if longest ≠ 0 && longest < source.length then [.tooLong source.length longest] else []

/-- Filters that neither the press nor the data provides. -/
def filterFindings (p : Press) (t : Template) (expected : Option (List String)) : List Finding :=
  ((p.unknownFilters t).filter fun name => headOf name ∉ expected.getD []).map .unknownFilter

/-- Names that the template reads and the data does not provide. -/
def undefinedFindings (t : Template) : Option (List String) → List Finding
  | none => []
  | some expected =>
    match without t.valueNames expected with
    | [] => []
    | names => [.undefined names]

/-- Names that the data provides and the template does not mention. -/
def unusedWarnings (t : Template) : Option (List String) → List Warning
  | none => []
  | some expected =>
    match without (without (distinct expected) t.valueNames) t.filterNames with
    | [] => []
    | names => [.unused names]

/-- The warnings of a level. -/
def levelWarnings (level : Level) (source : String) (t : Template)
    (expected : Option (List String)) : List Warning :=
  match level with
  | .permissive => []
  | .standard => unescapedTags t
  | .strict => unusedWarnings t expected ++ unescapedTags t ++ styleWarnings source t

/-- The review of a source; `expected` are the names that the data provides, if they are known. -/
def of (p : Press) (level : Level) (source : String) (expected : Option (List String))
    (longest : Option Int) : Review :=
  if source = "" then ⟨[.empty], [], [], none, none⟩
  else
    let long := lengthFindings source longest
    let extent := Extent.of source
    match p.read source with
    | .error r => ⟨long ++ [.syntaxFlaw r], [], [], some extent, none⟩
    | .ok t =>
      { findings := long ++ filterFindings p t expected ++ undefinedFindings t expected
        warnings := levelWarnings level source t expected
        names := t.valueNames
        extent := some extent
        filters := some t.filterNames }

end Review

end Stencil
