-- The commands of the program: rendering a template file, checking one, and listing the filters of
-- the standard library. They meet files only through a disk.
import Stencil.Command.Reply
import Stencil.Data.Json.Writer
import Stencil.Review
import Stencil.Terminal.Table

namespace Stencil.Command

variable {m : Type → Type} [Monad m] (disk : Disk m)

/-! ## Rendering -/

/-- The text of a file. -/
def readText (path : String) : ExceptT Trouble m String := do
  match ← disk.look path with
  | .file text => return String.ofList (Text.unified text.toList)
  | _ => throw (.directory (Path.normal path))

/-- The data in a file: JSON if its name says so, otherwise YAML. -/
def readData (path : String) : ExceptT Trouble m Value := do
  let cs := (← readText disk path).toList
  let ending := String.ofList (Text.lower (Path.suffix path).toList)
  match if ending = ".json" then Data.Json.read cs else Data.Yaml.read cs with
  | .ok v => return v
  | .error .malformed => throw (.malformedData path)
  | .error (.error e) => throw (.failure (.host e))

/-- The settings for a template: those of a file, changed by options. Without a name for places,
the file name of the template is used. -/
def settingsFor (a : Arguments) (template : String) : ExceptT Trouble m Settings := do
  let base ← match a.value? "--config" with
    | none => pure {}
    | some path =>
      match ← ExceptT.lift (Settings.load disk path) with
      | .ok settings => pure settings
      | .error flaw => throw (.settings flaw)
  return { base with
    templateName := base.templateName.or (some (Path.fileName template))
    missing := if a.has "--strict" then .fail else base.missing
    contentType := if a.has "--text" then .text else base.contentType }

/-- The text of a template file. -/
def rendered (a : Arguments) (template : String) : ExceptT Trouble m String := do
  let press := Press.start (← settingsFor disk a template)
  let data ← match a.value? "--data" with
    | none => pure .null
    | some path => readData disk path
  let source ← readText disk template
  match ((press.renderSource Host.none source data none).1 (.start ())).1 with
  | .done text => return text
  | .failed failure => throw (.failure failure)
  | .exhausted => throw .exhausted

/-- Prints the text of a template file, or writes it to a file. -/
def render (a : Arguments) (template : String) : m Reply := do
  match ← (rendered disk a template).run, a.value? "--output" with
  | .error trouble, _ => return .ofTrouble trouble
  | .ok text, none => return .done text
  | .ok text, some path =>
    let path := Path.normal path
    if ← disk.write path text then
      match Terminal.shown? s!"[green]✓ Output saved to {path}[/green]" with
      | some line => return ⟨0, "", line, none⟩
      | none => return .crashed "" .style
    else
      match ← disk.look path with
      | .directory => return .crashed "" (.unwritable true)
      | _ => return .crashed "" (.unwritable false)

/-! ## Checking -/

/-- Names as a value. -/
def textList (names : List String) : Value := .list (names.map .text)

/-- What is known of the source of a review. -/
def reviewFacts (r : Review) : List (Value × Value) :=
  (match r.extent with
    | none => [(.text "empty", .bool true)]
    | some e => [(.text "length", .int e.length), (.text "lines", .int e.lines)]) ++
  match r.filters with
    | none => []
    | some filters =>
      [(.text "variable_count", .int r.names.length), (.text "filters", textList filters)]

/-- A review as data. -/
def reviewValue (r : Review) : Value :=
  .mapping [
    (.text "is_valid", .bool r.isValid),
    (.text "errors", textList (r.findings.map Finding.message)),
    (.text "warnings", textList (r.warnings.map Warning.message)),
    (.text "variables", textList r.names),
    (.text "metadata", .mapping (reviewFacts r))]

/-- A list with a title on the terminal, unless it is empty. -/
def bulleted (title : String) (items : List String) : List String :=
  if items.isEmpty then [] else ("\n" ++ title) :: items.map ("  • " ++ ·)

/-- A review on the terminal. -/
def reviewLines (r : Review) : List String :=
  [if r.isValid then "✅ Template is valid" else "❌ Template validation failed"] ++
    bulleted "Errors:" (r.findings.map Finding.message) ++
    bulleted "Warnings:" (r.warnings.map Warning.message) ++
    ["\nTemplate variables: " ++ commaSeparated r.names]

/-- Prints a review of a template file. -/
def validate (a : Arguments) (template : String) : m Reply := do
  match ← (readText disk template).run with
  | .error trouble => return .crashed "" (.trouble trouble)
  | .ok source =>
    let press := Press.start { templateName := some (Path.fileName template) }
    let level := (Level.all.find? fun l => a.value? "--level" = some l.name).getD .standard
    let review := Review.of press level source none none
    let code := if review.isValid then 0 else 1
    if a.value? "--format" = some "json" then
      return ⟨code, Data.Json.write 0 (reviewValue review) ++ "\n", "", none⟩
    else return .lines code (reviewLines review)

/-! ## Listing -/

/-- The filters of the standard library with their kinds. -/
def filterTable : Terminal.Table where
  title := "Built-in Filters"
  head := ["Name", "Kind"]
  rows := (Library.standard.names.toOption.getD []).map fun name =>
    [name, ((Library.standard.resolve? name).getD .null).kind]

/-- Prints the filters of the standard library. -/
def listFilters : Reply := .done filterTable.text

end Stencil.Command
