-- Settings read from data. Numbers and truth values may be spelled in several ways, choices and
-- names may not; every field is read, so that all flaws are found.
import Stencil.Settings.Basic
import Stencil.Settings.Numeral
import Stencil.Value.Equality

namespace Stencil.Settings

inductive Field where
  | contentType
  | missing
  | standardLibrary
  | cacheSize
  | templateName
  deriving DecidableEq, Repr

/-- The name of a field in data. -/
def Field.name : Field → String
  | .contentType => "content_type"
  | .missing => "missing"
  | .standardLibrary => "standard_library"
  | .cacheSize => "cache_size"
  | .templateName => "template_name"

/-- Why a value does not fit a field. -/
inductive Misfit where
  /-- Not one of the choices. -/
  | noChoice
  /-- A text or number that stands for no truth value. -/
  | noTruth
  /-- A value of a kind that stands for no truth value. -/
  | noTruthKind
  /-- A text that spells no whole number. -/
  | noNumber
  /-- A number that is too long as a text, or too large as a floating point number. -/
  | longNumber
  /-- A number with a part behind the point. -/
  | notWhole
  /-- A number that is not finite. -/
  | notFinite
  /-- A value of a kind that stands for no number. -/
  | noNumberKind
  /-- A number below zero. -/
  | negative
  /-- A value that is no text. -/
  | noText
  /-- Bytes that spell no text. -/
  | noEncoding
  deriving DecidableEq, Repr

/-- A field and what is wrong with its value. -/
structure Flaw where
  field : Field
  misfit : Misfit
  deriving DecidableEq, Repr

/-- A value as text; bytes are read as text too. -/
def text (v : Value) : Except Misfit String :=
  match v with
  | .text s | .markup s => .ok s
  | .bytes bytes =>
    match String.fromUTF8? (ByteArray.mk bytes.toArray) with
    | some s => .ok s
    | none => .error .noEncoding
  | _ => .error .noText

/-- One of several choices, by its name. -/
def choice {α : Type} (all : List α) (name : α → String) (v : Value) : Except Misfit α :=
  match text v with
  | .ok s =>
    match all.find? fun a => name a = s with
    | some a => .ok a
    | none => .error .noChoice
  | .error _ => .error .noChoice

/-- The words for truth values, in small letters. -/
def truthWords : List (String × Bool) := [
  ("0", false), ("off", false), ("f", false), ("false", false), ("n", false), ("no", false),
  ("1", true), ("on", true), ("t", true), ("true", true), ("y", true), ("yes", true)]

/-- The least magnitude of whole numbers that are too large for a machine word. -/
def wordLimit : Nat := twoTo 63

/-- Whether a whole number fits a machine word. -/
def fitsWord (i : Int) : Bool := -wordLimit ≤ i && i < wordLimit

/-- The whole number that a floating point number is, as far as machine words go. -/
def wholeFloat (x : Float) : Except Misfit Int :=
  if x.isNaN || x.isInf then .error .notFinite
  else
    match (Value.float x).whole? with
    | none => .error .notWhole
    | some i => if i.natAbs < wordLimit then .ok i else .error .longNumber

/-- Zero and one stand for truth values. -/
def truthOfNumber (i : Int) : Except Misfit Bool :=
  if i = 0 then .ok false else if i = 1 then .ok true else .error .noTruth

def truth (v : Value) : Except Misfit Bool :=
  match v with
  | .bool b => .ok b
  | .int i => if fitsWord i then truthOfNumber i else .error .noTruthKind
  | .float x =>
    match wholeFloat x with
    | .ok i => truthOfNumber i
    | .error _ => .error .noTruthKind
  | v =>
    match text v with
    | .ok s =>
      match truthWords.lookup (s.map Char.toLower) with
      | some b => .ok b
      | none => .error .noTruth
    | .error .noEncoding => .error .noTruth
    | .error _ => .error .noTruthKind

/-- A whole number that a text spells. -/
def spelledNumber (s : String) : Except Misfit Int :=
  (Numeral.read s).mapError fun
    | .malformed => .noNumber
    | .tooLong => .longNumber

def number (v : Value) : Except Misfit Int :=
  match v with
  | .bool b => .ok (if b then 1 else 0)
  | .int i => .ok i
  | .float x => wholeFloat x
  | v =>
    match text v with
    | .ok s => spelledNumber s
    | .error .noEncoding => .error .noNumber
    | .error _ => .error .noNumberKind

def count (v : Value) : Except Misfit Nat := do
  let i ← number v
  if 0 ≤ i then return i.toNat else throw .negative

def optionalText (v : Value) : Except Misfit (Option String) :=
  match v with
  | .null => .ok none
  | v => some <$> text v

/-- The value of a field, or the default, and the flaws found so far. -/
def field {α : Type} (data : List (Value × Value)) (f : Field) (default : α)
    (read : Value → Except Misfit α) : α × List Flaw :=
  match Value.find? f.name data with
  | none => (default, [])
  | some v =>
    match read v with
    | .ok a => (a, [])
    | .error misfit => (default, [⟨f, misfit⟩])

/-- Why data spell no settings. -/
inductive Refusal where
  /-- A key is no text. -/
  | noTextKey
  /-- What is wrong with the fields, in their order. -/
  | misfits (flaws : List Flaw)
  deriving Repr

/-- The words for keys that are no texts. -/
def Refusal.noTextKeyMessage : String := "keywords must be strings"

/-- The settings that data spell. Entries under other keys are ignored, but all keys have to be
texts. -/
def ofData (data : List (Value × Value)) : Except Refusal Settings :=
  let base : Settings := {}
  let (contentType, f₁) :=
    field data .contentType base.contentType (choice ContentType.all ContentType.name)
  let (missing, f₂) :=
    field data .missing base.missing (choice MissingPolicy.all MissingPolicy.name)
  let (standardLibrary, f₃) := field data .standardLibrary base.standardLibrary truth
  let (cacheSize, f₄) := field data .cacheSize base.cacheSize count
  let (templateName, f₅) := field data .templateName base.templateName optionalText
  if data.any fun (key, _) => key.text?.isNone then .error .noTextKey
  else
    match f₁ ++ f₂ ++ f₃ ++ f₄ ++ f₅ with
    | [] => .ok { contentType, missing, standardLibrary, cacheSize, templateName }
    | flaws => .error (.misfits flaws)

end Stencil.Settings
