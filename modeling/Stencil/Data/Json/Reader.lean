-- Reading JSON. Members of an object keep the order in which their names appear first, and the
-- last value of a name counts. Beside numbers, the words for infinite ones and for none are read.
import Stencil.Data.Flaw
import Stencil.Decimal.Layout
import Stencil.Text.Mark
import Stencil.Text.Numeral
import Stencil.Value.Equality

namespace Stencil.Data.Json

def isSpace (c : Char) : Bool := c == ' ' || c == '\t' || c == '\n' || c == '\r'

def skip (cs : List Char) : List Char := cs.dropWhile isSpace

/-! ## Strings -/

def hexValue? (c : Char) : Option Nat :=
  if c.isDigit then some (c.toNat - 48)
  else if 'a' ≤ c && c ≤ 'f' then some (c.toNat - 87)
  else if 'A' ≤ c && c ≤ 'F' then some (c.toNat - 55)
  else none

/-- The number that digits to base sixteen spell. -/
def hexNumber? (cs : List Char) : Option Nat :=
  cs.foldlM (fun n c => do return 16 * n + (← hexValue? c)) 0

/-- What a letter behind a backslash stands for. -/
def shortEscape? : Char → Option Nat
  | '"' => some 34
  | '\\' => some 92
  | '/' => some 47
  | 'b' => some 8
  | 'f' => some 12
  | 'n' => some 10
  | 'r' => some 13
  | 't' => some 9
  | _ => none

/-- The code units of a string up to its closing quote, and the text behind it. -/
def units? : List Char → Option (List Nat × List Char)
  | [] => none
  | '"' :: rest => some ([], rest)
  | '\\' :: 'u' :: a :: b :: c :: d :: rest => do
    let unit ← hexNumber? [a, b, c, d]
    let (units, rest) ← units? rest
    return (unit :: units, rest)
  | '\\' :: c :: rest => do
    let unit ← shortEscape? c
    let (units, rest) ← units? rest
    return (unit :: units, rest)
  | c :: rest =>
    if c.toNat < 32 then none
    else do
      let (units, rest) ← units? rest
      return (c.toNat :: units, rest)

/-- The characters that code units spell; two surrogates in a row are one character. -/
def ofUnits : List Nat → List Char
  | [] => []
  | [a] => [Char.ofNat a]
  | a :: b :: rest =>
    if 0xD800 ≤ a && a < 0xDC00 && 0xDC00 ≤ b && b < 0xE000 then
      Char.ofNat (0x10000 + (a - 0xD800) * 1024 + (b - 0xDC00)) :: ofUnits rest
    else Char.ofNat a :: ofUnits (b :: rest)

/-- The string whose opening quote was read, and the text behind it. -/
def string? (cs : List Char) : Option (String × List Char) :=
  (units? cs).map fun (units, rest) => (String.ofList (ofUnits units), rest)

/-! ## Numbers -/

/-- Digits behind a mark, if there are any: the mark and the digits, and the text behind them. -/
def tail (isMark : Char → Bool) (signed : Bool) : List Char → List Char × List Char
  | [] => ([], [])
  | c :: rest =>
    let sign := if signed then (rest.take 1).filter fun s => s == '-' || s == '+' else []
    let digits := (rest.drop sign.length).takeWhile Char.isDigit
    if isMark c && !digits.isEmpty then
      (c :: sign ++ digits, rest.drop (sign.length + digits.length))
    else ([], c :: rest)

/-- A number without its sign, and the text behind it. -/
def size (negative : Bool) (cs : List Char) : Reading (Value × List Char) :=
  let run := cs.takeWhile Char.isDigit
  let whole := if run.head? = some '0' then ['0'] else run
  if whole.isEmpty then malformed
  else
    let (part, rest) := tail (· == '.') false (cs.drop whole.length)
    let (power, rest) := tail (fun c => c == 'e' || c == 'E') true rest
    if part.isEmpty && power.isEmpty then
      if Text.longestNumeral < whole.length then refuse (.oversizedNumeral whole.length)
      else
        let n : Int := Text.ofDigits whole
        return (.int (if negative then -n else n), rest)
    else
      let sign := if negative then ['-'] else []
      return (.float (← demand (Decimal.float? (sign ++ whole ++ part ++ power))), rest)

/-! ## Values -/

/-- The words of JSON. -/
def words : List (List Char × Value) := [
  ("null".toList, .null), ("true".toList, .bool true), ("false".toList, .bool false),
  ("NaN".toList, .float (0.0 / 0.0)), ("Infinity".toList, .float (1.0 / 0.0)),
  ("-Infinity".toList, .float (-1.0 / 0.0))]

def word? (cs : List Char) : Option (Value × List Char) :=
  words.findSome? fun (word, v) => (Text.behind? word cs).map fun rest => (v, rest)

/-- A word or a number, and the text behind it. -/
def atom (cs : List Char) : Reading (Value × List Char) :=
  match word? cs, cs with
  | some found, _ => return found
  | none, '-' :: rest => size true rest
  | none, rest => size false rest

mutual

/-- A value and the text behind it; `fuel` bounds the number of values and their nesting. -/
def value : Nat → List Char → Reading (Value × List Char)
  | 0, _ => malformed
  | fuel + 1, cs =>
    match skip cs with
    | '"' :: rest => do
      let (s, rest) ← demand (string? rest)
      return (.text s, rest)
    | '[' :: rest =>
      match skip rest with
      | ']' :: rest => return (.list [], rest)
      | rest => do
        let (found, rest) ← items fuel rest
        return (.list found, rest)
    | '\x7b' :: rest =>
      match skip rest with
      | '\x7d' :: rest => return (.mapping [], rest)
      | rest => do
        let (found, rest) ← members fuel rest []
        return (.mapping found, rest)
    | rest => atom rest

/-- The items of an array up to its end. -/
def items : Nat → List Char → Reading (List Value × List Char)
  | 0, _ => malformed
  | fuel + 1, cs => do
    let (v, rest) ← value fuel cs
    match skip rest with
    | ',' :: rest =>
      let (others, rest) ← items fuel rest
      return (v :: others, rest)
    | ']' :: rest => return ([v], rest)
    | _ => malformed

/-- The members of an object up to its end, put into those read before. -/
def members : Nat → List Char → List (Value × Value) → Reading (List (Value × Value) × List Char)
  | 0, _, _ => malformed
  | fuel + 1, cs, before =>
    match skip cs with
    | '"' :: rest => do
      let (name, rest) ← demand (string? rest)
      match skip rest with
      | ':' :: rest =>
        let (v, rest) ← value fuel rest
        let found := Value.insert (.text name) v before
        match skip rest with
        | ',' :: rest => members fuel rest found
        | '\x7d' :: rest => return (found, rest)
        | _ => malformed
      | _ => malformed
    | _ => malformed

end

/-- The value that a text spells. -/
def read (cs : List Char) : Reading Value := do
  let (v, rest) ← value (2 * cs.length + 1) cs
  if (skip rest).isEmpty then return v else malformed

end Stencil.Data.Json
