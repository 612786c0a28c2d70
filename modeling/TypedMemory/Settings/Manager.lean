import TypedMemory.Error
import TypedMemory.FileSystem
import TypedMemory.Settings.Document

/-!
# Keeping settings in a file

A manager holds settings in memory and remembers the file they were last loaded
from. Loading replaces both, and only when the file could be read and
understood. Saving writes nothing unless the settings can be written as text; a
write that fails after that leaves the disk in whatever state it had come to.
Updating changes the settings in memory first and then saves them to the remembered
file, so that an update whose save fails is still in force in memory.
-/

namespace TypedMemory

/-- Settings, and the file that they are kept in. -/
structure Manager where
  settings : Settings := {}
  file : Option Path := none
deriving Repr, DecidableEq

/-- What an operation on settings leaves behind. -/
structure Manager.Outcome (σ : Type) where
  result : Except Error Unit
  manager : Manager
  disk : σ
  events : List Event

namespace Manager

variable {σ : Type}

/-- A manager with the default settings that keeps them in a file. -/
def keptIn (manager : Manager) (path : Path) : Manager :=
  { manager with file := some path }

/-- The settings in a file, if they can be read and understood. -/
def fetch (files : FileSystem σ) (path : Path) (disk : σ) : Except Error Settings :=
  match files.readText disk path with
  | .error fault =>
      .error (.io ("Failed to read config file " ++ path.quote ++ ": " ++ fault.describe))
  | .ok text =>
      match Settings.parse text with
      | .error fault =>
          .error (.invalidInput
            ("Failed to parse config file " ++ path.quote ++ ": " ++ fault.describe text))
      | .ok settings => .ok settings

/-- Load the settings from a file, and keep them there from now on. -/
def load (files : FileSystem σ) (path : Path) (manager : Manager) (disk : σ) : Outcome σ :=
  match fetch files path disk with
  | .error error => ⟨.error error, manager, disk, []⟩
  | .ok settings =>
      ⟨.ok (), { settings, file := some path }, disk,
        [{ level := .info, message := "Configuration loaded from " ++ path.quote }]⟩

/-- Why settings could not be written to a file. -/
def unwritten (path : Path) (fault : IoFault) : Error :=
  .io ("Failed to write config file " ++ path.quote ++ ": " ++ fault.describe)

/-- Write settings to a file: whether that went well, and the disk that is left.
Nothing is written unless the settings can be. -/
def store (files : FileSystem σ) (path : Path) (settings : Settings) (disk : σ) :
    Except Error Unit × σ :=
  match settings.pretty with
  | .error error => (.error error, disk)
  | .ok text =>
      match files.write disk path (Utf8.encode text) with
      | (.error fault, left) => (.error (unwritten path fault), left)
      | (.ok _, left) => (.ok (), left)

/-- Save the settings to a file. -/
def save (files : FileSystem σ) (path : Path) (manager : Manager) (disk : σ) : Outcome σ :=
  match store files path manager.settings disk with
  | (.error error, left) => ⟨.error error, manager, left, []⟩
  | (.ok _, left) =>
      ⟨.ok (), manager, left,
        [{ level := .info, message := "Configuration saved to " ++ path.quote }]⟩

/-- Change the settings, and save them if they are kept in a file. -/
def update (files : FileSystem σ) (change : Settings → Settings) (manager : Manager) (disk : σ) :
    Outcome σ :=
  let changed := { manager with settings := change manager.settings }
  match changed.file with
  | none => ⟨.ok (), changed, disk, []⟩
  | some path => changed.save files path disk

/-- Put settings in force in place of those there are. -/
def apply (files : FileSystem σ) (settings : Settings) (manager : Manager) (disk : σ) :
    Outcome σ :=
  manager.update files (fun _ => settings) disk

end Manager

end TypedMemory
