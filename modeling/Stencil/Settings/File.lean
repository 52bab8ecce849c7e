-- Settings in files: a file whose name ends as those of YAML do, with a mapping in it. A file that
-- says nothing leaves all settings as they are.
import Stencil.Data.Yaml.Reader
import Stencil.Disk
import Stencil.Settings.Reader
import Stencil.Text.Case
import Stencil.Text.Lines
import Stencil.Text.Quoted
import Stencil.Value.Truth

namespace Stencil.Settings

/-- Why a path leads to no settings. -/
inductive FileFlaw where
  /-- The name ends in another way. -/
  | otherSuffix (suffix : String)
  | absent (path : String)
  | directory (path : String)
  /-- The text of the file is not written as data are. -/
  | malformed (path : String)
  /-- Something in the file looks like a number or a day and is none. -/
  | unreadable (error : HostError)
  /-- The file holds something else than a mapping. -/
  | noMapping (path kind : String)
  /-- The mapping spells no settings. -/
  | refused (path : String) (refusal : Refusal)
  deriving Repr

/-- The words for a path that leads to a directory where a file is needed. -/
def directoryMessage (path : String) : String := "[Errno 21] Is a directory: " ++ Text.quoted path

def FileFlaw.message : FileFlaw → String
  | .otherSuffix suffix =>
    s!"Invalid file extension: {suffix}. Suggestion: Use .yaml or .yml extension for " ++
      "configuration files."
  | .absent path => s!"Configuration file not found: {path}"
  | .directory path => directoryMessage path
  | .malformed path => s!"Failed to parse YAML file {path}"
  | .unreadable error => error.text
  | .noMapping path kind => s!"Configuration in {path} must be a mapping, got {kind}"
  | .refused _ .noTextKey => Refusal.noTextKeyMessage
  | .refused path (.misfits _) => s!"Configuration validation failed for {path}:"

/-- A path to a settings file has one of these endings. -/
def suffixes : List String := [".yaml", ".yml"]

/-- The settings that the text of a file spells. -/
def ofText (path text : String) : Except FileFlaw Settings :=
  match Data.Yaml.read (Text.unified text.toList) with
  | .error .malformed => .error (.malformed path)
  | .error (.error e) => .error (.unreadable e)
  | .ok v =>
    match if v.truth matches .ok false then .mapping [] else v with
    | .mapping entries => (ofData entries).mapError (.refused path)
    | v => .error (.noMapping path v.kind)

/-- The settings in the file that a path leads to. -/
def load {m : Type → Type} [Monad m] (disk : Disk m) (path : String) :
    m (Except FileFlaw Settings) := do
  let suffix := Path.suffix path
  let path := Path.normal path
  if String.ofList (Text.lower suffix.toList) ∉ suffixes then return .error (.otherSuffix suffix)
  match ← disk.look path with
  | .absent => return .error (.absent path)
  | .directory => return .error (.directory path)
  | .file text => return ofText path text

end Stencil.Settings
