-- What YAML scalars stand for. The kind of a scalar is fixed by a tag or by what its text looks
-- like; a text that does not fit its kind is an error of its own.
import Stencil.Data.Yaml.Kind
import Stencil.Data.Yaml.Timestamp
import Stencil.Decimal.Layout
import Stencil.Data.Json.Reader
import Stencil.Text.Base64
import Stencil.Text.Blank
import Stencil.Value.Basic

namespace Stencil.Data.Yaml

/-- The kind that a text without quotes and tags looks like. -/
def Kind.ofText (cs : List Char) : Kind :=
  let s := String.ofList cs
  if boolWords.contains s then .bool
  else if isFloat cs then .float
  else if isInt cs then .int
  else if s = "<<" then .merge
  else if nullWords.contains s then .null
  else if Timestamp.looksLike cs then .timestamp
  else if s = "=" then .default
  else .text

/-! ## Whole numbers -/

/-- A number to a base, with blanks around it and a sign. -/
def numeral (base : Nat) (cs : List Char) : Reading Int :=
  let trimmed := Text.trim cs
  let digits := unsigned trimmed
  let value := digits.foldlM (fun n c => do
    let d ← Json.hexValue? c
    if d < base then return base * n + d else none) 0
  match value with
  | none => refuse (.malformedNumeral base (String.ofList cs))
  | some (n : Nat) =>
    if digits.isEmpty then refuse (.malformedNumeral base (String.ofList cs))
    else if base = 10 && Text.longestNumeral < digits.length then
      refuse (.oversizedNumeral digits.length)
    else return if trimmed.head? = some '-' then -n else n

/-- Groups to base sixty. -/
def sixtieths (groups : List Int) : Int := groups.foldl (fun n group => 60 * n + group) 0

/-- A whole number; underscores do not count. -/
def int (cs : List Char) : Reading Int := do
  let cs := cs.filter (· ≠ '_')
  let size := unsigned cs
  let n ←
    match size with
    | [] => refuse .emptyText
    | '0' :: 'b' :: digits => numeral 2 digits
    | '0' :: 'x' :: digits => numeral 16 digits
    | '0' :: _ => numeral 8 size
    | size =>
      if size.contains ':' then sixtieths <$> (size.splitOn ':').mapM (numeral 10)
      else numeral 10 size
  return if cs.head? = some '-' then -n else n

/-! ## Floating point numbers -/

/-- The words for numbers that are not finite. -/
def floatWords : List (String × Float) :=
  [("inf", 1.0 / 0.0), ("infinity", 1.0 / 0.0), ("nan", 0.0 / 0.0)]

/-- A decimal or a word, with blanks around it and a sign. -/
def decimal (cs : List Char) : Reading Float :=
  let trimmed := Text.trim cs
  match Decimal.float? trimmed, floatWords.lookup (String.ofList (unsigned trimmed)) with
  | some x, _ => return x
  | none, some x => return if trimmed.head? = some '-' then -x else x
  | none, none => refuse (.noFloat (String.ofList cs))

/-- Groups to base sixty, summed up from the last one on. -/
def floatSixtieths (groups : List Float) : Float :=
  (groups.reverse.foldl (fun (sum, weight) group => (sum + group * weight, weight * 60))
    ((0.0, 1.0) : Float × Float)).1

/-- A floating point number; underscores and the case of letters do not count. -/
def float (cs : List Char) : Reading Float := do
  let cs := (cs.filter (· ≠ '_')).map Char.toLower
  let size := unsigned cs
  let x ←
    if cs.isEmpty then refuse .emptyText
    else if size = ".inf".toList then pure (1.0 / 0.0)
    else if size = ".nan".toList then pure (0.0 / 0.0)
    else if size.contains ':' then floatSixtieths <$> (size.splitOn ':').mapM decimal
    else decimal size
  return if cs.head? = some '-' then -x else x

/-! ## Scalars -/

/-- The words for truth values, in small letters. -/
def truths : List (String × Bool) := [
  ("yes", true), ("no", false), ("true", true), ("false", false), ("on", true), ("off", false)]

/-- A day or a moment. -/
def timestamp (cs : List Char) : Reading Value :=
  match Timestamp.read? cs with
  | none => refuse .noMoment
  | some t =>
    match t.resolve with
    | .ok (.inl day) => return .day day
    | .ok (.inr moment) => return .moment moment
    | .error flaw => refuse (.calendar flaw)

/-- The value of a scalar of a kind. -/
def scalarValue (kind : Kind) (cs : List Char) : Reading Value :=
  match kind with
  | .null => return .null
  | .bool => do
    let word := String.ofList (cs.map Char.toLower)
    match truths.lookup word with
    | some b => return .bool b
    | none => refuse (.noEntry word)
  | .int => .int <$> int cs
  | .float => .float <$> float cs
  | .binary => .bytes <$> demand (if cs.all fun c => c.toNat < 128 then Text.base64? cs else none)
  | .timestamp => timestamp cs
  | .text => return .text (String.ofList cs)
  | .pairs | .set | .list | .mapping | .merge | .default | .unknown => malformed

end Stencil.Data.Yaml
