import DeviceCatalog.Layout
import DeviceCatalog.Toml

/-!
# Settings

The settings of a directory are the two texts of its layout and, optionally, where a substrate on
the network is reached. They are kept in a TOML file that may leave out any of them. What is at
the path of the file is a value here, so that loading and saving are functions on it.
-/

namespace DeviceCatalog

/-- Settings of a directory. -/
structure Settings where
  collection : String
  separator : String
  /-- Address of a substrate on the network; none for a substrate within the process. -/
  redis : Option String
deriving DecidableEq, Repr

/-- What stands at the path of the settings file. -/
inductive FileState where
  | absent
  | folder
  | file (content : Bytes)
deriving DecidableEq, Repr

/-- Why settings could not be loaded or saved. -/
inductive SettingsError where
  /-- There is no file, or it does not hold text. -/
  | read
  | write
  /-- The text is not TOML, or a setting in it is of another kind than it should be. -/
  | parse
  | invalid (reason : String)
deriving DecidableEq, Repr

namespace SettingsError

/-- Name of the failure's class. -/
def className : SettingsError → String
  | read => "Read"
  | write => "Write"
  | parse => "Parse"
  | invalid _ => "Invalid"

/-- Message of a refusal of settings; the other failures have no fixed wording. -/
def message? : SettingsError → Option String
  | invalid reason => some ("invalid config: " ++ reason)
  | read | write | parse => none

end SettingsError

namespace Settings

/-- The address that stands for one that is left out. -/
def defaultAddress : String := "redis://127.0.0.1:6379/0"

/-- The settings of existing deployments. -/
def standard : Settings := ⟨Layout.defaultCollection, Layout.defaultSeparator, none⟩

instance : Inhabited Settings := ⟨standard⟩

/-- The layout that the settings describe. -/
def layout (settings : Settings) : Layout := ⟨settings.collection, settings.separator⟩

/-- Refuses empty texts, the collection first and the address last. -/
def validate (settings : Settings) : Except SettingsError Unit :=
  if settings.collection.isEmpty then .error (.invalid "collection must not be empty")
  else if settings.separator.isEmpty then .error (.invalid "separator must not be empty")
  else if settings.redis = some "" then .error (.invalid "redis.url must not be empty")
  else .ok ()

/-! ## Reading -/

/-- A text setting, which takes a fixed value when it is left out. -/
def textSetting? (entries : Toml.Entries) (name absent : String) : Option String :=
  match entries.find? name with
  | none => some absent
  | some (.string text) => some text
  | some _ => none

/-- The address in a node: it is the setting `url` of a table or the first element of an array. A
date counts as a table without settings. -/
def address? : Toml.Node → Option String
  | .table _ entries => textSetting? entries "url" defaultAddress
  | .array [] => some defaultAddress
  | .array (.string text :: _) => some text
  | .dateTime => some defaultAddress
  | _ => none

/-- The settings in a document; what else it holds is ignored. -/
def ofEntries? (entries : Toml.Entries) : Option Settings := do
  let collection ← textSetting? entries "collection" Layout.defaultCollection
  let separator ← textSetting? entries "separator" Layout.defaultSeparator
  match entries.find? "redis" with
  | none => return ⟨collection, separator, none⟩
  | some node => return ⟨collection, separator, some (← address? node)⟩

/-- The settings in a text. -/
def parse (text : String) : Except SettingsError Settings :=
  match Toml.read? text >>= ofEntries? with
  | some settings => .ok settings
  | none => .error .parse

/-- Loads settings: the file is read, then its text, and then the settings are checked. -/
def load : FileState → Except SettingsError Settings
  | .file content =>
    match Bytes.text? content with
    | none => .error .read
    | some text => do
      let settings ← parse text
      settings.validate
      return settings
  | .absent | .folder => .error .read

/-! ## Writing -/

/-- One line with a text setting. -/
def settingLine (name text : String) : List Char :=
  name.toList ++ [' ', '=', ' '] ++ Toml.writeText text ++ ['\n']

/-- The text of a settings file. -/
def write (settings : Settings) : String :=
  String.ofList
    (settingLine "collection" settings.collection ++ settingLine "separator" settings.separator ++
      match settings.redis with
      | none => []
      | some address => "\n[redis]\n".toList ++ settingLine "url" address)

/-- The text that a new settings file starts with. -/
def template : String :=
  String.intercalate "\n"
    ["# Device directory configuration",
      "#",
      "# Device table literal. Every key is rooted at it:",
      "#   <collection>:<id>, <collection>:name, <collection>:label:<label>, ...",
      "collection = \"md|dv\"",
      "",
      "# Separator between key parts",
      "separator = \":\"",
      "",
      "# Redis-compatible substrate. Leave commented out for the in-process store.",
      "# [redis]",
      "# url = \"redis://127.0.0.1:6379/0\"",
      ""]

/-- Saves settings, without checking them first. -/
def save (settings : Settings) : FileState → Except SettingsError FileState
  | .folder => .error .write
  | .absent | .file _ => .ok (.file (Bytes.ofText settings.write))

/-- Puts the template where nothing stands, and leaves everything else alone. -/
def writeTemplate : FileState → FileState
  | .absent => .file (Bytes.ofText template)
  | present => present

end Settings

end DeviceCatalog
