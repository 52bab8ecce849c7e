-- The kinds of YAML values. A tag names the kind of a value; a scalar without a tag and without
-- quotes is of the kind that its text looks like.
import Stencil.Text.Mark

namespace Stencil.Data.Yaml

inductive Kind where
  | null
  | bool
  | int
  | float
  | binary
  | timestamp
  | pairs
  | set
  | text
  | list
  | mapping
  /-- The key of entries that are to be taken from elsewhere. -/
  | merge
  /-- The key of a default value. -/
  | default
  /-- A kind that stands for no value. -/
  | unknown
  deriving DecidableEq, Repr

/-- The tags of kinds begin with this. -/
def tagBase : String := "tag:yaml.org,2002:"

/-- What stands behind that. -/
def tagNames : List (String × Kind) := [
  ("null", .null), ("bool", .bool), ("int", .int), ("float", .float), ("binary", .binary),
  ("timestamp", .timestamp), ("omap", .pairs), ("pairs", .pairs), ("set", .set), ("str", .text),
  ("seq", .list), ("map", .mapping), ("merge", .merge), ("value", .default)]

def Kind.ofTag (tag : String) : Kind :=
  match Text.behind? tagBase.toList tag.toList with
  | some name => (tagNames.lookup (String.ofList name)).getD .unknown
  | none => .unknown

/-! ## What texts look like -/

def nullWords : List String := ["", "~", "null", "Null", "NULL"]

def boolWords : List String := [
  "yes", "Yes", "YES", "no", "No", "NO", "true", "True", "TRUE", "false", "False", "FALSE",
  "on", "On", "ON", "off", "Off", "OFF"]

/-- A text without a sign. -/
def unsigned : List Char → List Char
  | '+' :: cs => cs
  | '-' :: cs => cs
  | cs => cs

/-- A nonempty text of characters of a class. -/
def isRun (p : Char → Bool) (cs : List Char) : Bool := !cs.isEmpty && cs.all p

def isDigitOrLine (c : Char) : Bool := c.isDigit || c == '_'

/-- Digits among underscores, a digit first. -/
def isDigits (cs : List Char) : Bool := cs.head?.any Char.isDigit && cs.all isDigitOrLine

/-- A number below sixty in one digit or two. -/
def isSixtieth : List Char → Bool
  | [a] => a.isDigit
  | [a, b] => '0' ≤ a && a ≤ '5' && b.isDigit
  | _ => false

def isHexOrLine (c : Char) : Bool :=
  isDigitOrLine c || ('a' ≤ c && c ≤ 'f') || ('A' ≤ c && c ≤ 'F')

/-- A whole number: to base two, eight, ten or sixteen, or in groups to base sixty. -/
def isInt (cs : List Char) : Bool :=
  match unsigned cs with
  | ['0'] => true
  | '0' :: 'b' :: digits => isRun (fun c => c == '0' || c == '1' || c == '_') digits
  | '0' :: 'x' :: digits => isRun isHexOrLine digits
  | '0' :: digits => isRun (fun c => ('0' ≤ c && c ≤ '7') || c == '_') digits
  | cs =>
    match cs.splitOn ':' with
    | [] => false
    | first :: groups => isDigits first && groups.all isSixtieth

/-- An exponent with a sign, or nothing. -/
def isExponent : List Char → Bool
  | [] => true
  | _ :: sign :: digits => (sign == '+' || sign == '-') && isRun Char.isDigit digits
  | _ => false

/-- Digits with a point, in groups to base sixty or with an exponent; without a sign and a group,
the point may come first. -/
def isPointed (cs : List Char) : Bool :=
  let size := unsigned cs
  let front := size.takeWhile fun c => c ≠ 'e' && c ≠ 'E'
  let exponent := size.dropWhile fun c => c ≠ 'e' && c ≠ 'E'
  let whole := front.takeWhile (· ≠ '.')
  let part := (front.dropWhile (· ≠ '.')).drop 1
  front.contains '.' &&
    match whole.splitOn ':' with
    | [] => false
    | [digits] =>
      isExponent exponent &&
        if digits.isEmpty then size = cs && isDigits part
        else isDigits digits && part.all isDigitOrLine
    | first :: groups =>
      isDigits first && groups.all isSixtieth && part.all isDigitOrLine && exponent.isEmpty

/-- A number with a point, or a word for a number that is not finite. -/
def isFloat (cs : List Char) : Bool :=
  isPointed cs || [".inf", ".Inf", ".INF"].contains (String.ofList (unsigned cs)) ||
    [".nan", ".NaN", ".NAN"].contains (String.ofList cs)

end Stencil.Data.Yaml
