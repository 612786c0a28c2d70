import TypedMemory.Error
import TypedMemory.Json.Document
import TypedMemory.Json.Record
import TypedMemory.Settings.Basic

/-!
# Settings as documents

Settings are kept as documents. A document may leave out any of them, which then
have their defaults, and may hold members that nobody knows. Only a library path
that is no text cannot be written.
-/

namespace TypedMemory

open Json

namespace AcceleratorSettings

/-- The fields of the accelerator's settings. -/
def fields : List (Json.Field AcceleratorSettings) :=
  [.of "library_path" (.nullable (.text "path string"))
      (fun text settings => { settings with libraryPath := text.map Path.ofText }),
    .of "library_env" (.text "a string")
      (fun text settings => { settings with libraryEnv := text }),
    .of "symbol_prefix" (.text "a string")
      (fun text settings => { settings with symbolPrefix := text })]

/-- The reader of the accelerator's settings. -/
def reader : Reader AcceleratorSettings := .record "AcceleratorConfig" fields {}

/-- The document of a library path, unless the path is no text. -/
def pathDocument? : Option Path → Option Document
  | none => some .null
  | some path => path.text?.map .text

/-- The document of the accelerator's settings, unless the library path is no
text. -/
def document? (settings : AcceleratorSettings) : Option Document :=
  (pathDocument? settings.libraryPath).map fun path =>
    .object
      [("library_path", path), ("library_env", .text settings.libraryEnv),
        ("symbol_prefix", .text settings.symbolPrefix)]

end AcceleratorSettings

namespace LoggingSettings

/-- The fields of the settings of event output. -/
def fields : List (Json.Field LoggingSettings) :=
  [.of "level" (.text "a string") (fun text settings => { settings with level := text }),
    .of "ansi" .flag (fun flag settings => { settings with ansi := flag })]

/-- The reader of the settings of event output. -/
def reader : Reader LoggingSettings := .record "LoggingConfig" fields {}

/-- The document of the settings of event output. -/
def document (settings : LoggingSettings) : Document :=
  .object [("level", .text settings.level), ("ansi", .boolean settings.ansi)]

end LoggingSettings

namespace Settings

/-- The fields of all settings. -/
def fields : List (Json.Field Settings) :=
  [.of "accelerator" AcceleratorSettings.reader
      (fun accelerator settings => { settings with accelerator }),
    .of "logging" LoggingSettings.reader (fun logging settings => { settings with logging })]

/-- The reader of all settings. -/
def reader : Reader Settings := .record "KernelConfig" fields {}

/-- Read settings from the text of a document. -/
def parse (text : String) : Except Fault Settings :=
  readDocument reader.run text

/-- The document of all settings, unless the library path is no text. -/
def document? (settings : Settings) : Option Document :=
  settings.accelerator.document?.map fun accelerator =>
    .object [("accelerator", accelerator), ("logging", settings.logging.document)]

/-- The error of settings that no document can hold. -/
def notText : Error := .invalidInput "path contains invalid UTF-8 characters"

/-- The text of the settings without blanks. -/
def compact (settings : Settings) : Except Error String :=
  match settings.document? with
  | some document => .ok document.compact
  | none => .error notText

/-- The text of the settings over several lines. -/
def pretty (settings : Settings) : Except Error String :=
  match settings.document? with
  | some document => .ok document.pretty
  | none => .error notText

end Settings

end TypedMemory
