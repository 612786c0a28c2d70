import TypedMemory.Outline
import TypedMemory.Path

/-!
# Settings

Where the accelerator's kernels library is found, how its entry points are
named, and how events are shown.
-/

namespace TypedMemory

/-- The settings of the accelerator. -/
structure AcceleratorSettings where
  /-- Where the library is; this wins over the environment. -/
  libraryPath : Option Path := none
  /-- The environment variable that says where the library is otherwise. -/
  libraryEnv : String := "KERNELMEM_ACCELERATOR_LIBRARY"
  /-- What the names of the library's entry points start with. -/
  symbolPrefix : String := "awkward_cuda_ptr"
deriving Repr, DecidableEq

/-- The settings of event output. -/
structure LoggingSettings where
  level : String := "info"
  ansi : Bool := true
deriving Repr, DecidableEq

/-- All settings. -/
structure Settings where
  accelerator : AcceleratorSettings := {}
  logging : LoggingSettings := {}
deriving Repr, DecidableEq

namespace AcceleratorSettings

/-- Whether two settings are the same, paths being compared by components. -/
def sameAs (left right : AcceleratorSettings) : Bool :=
  (match left.libraryPath, right.libraryPath with
    | some path, some path' => path.sameAs path'
    | none, none => true
    | _, _ => false) &&
  left.libraryEnv == right.libraryEnv && left.symbolPrefix == right.symbolPrefix

/-- The outline of the accelerator's settings. -/
def outline (settings : AcceleratorSettings) : Outline :=
  .record "AcceleratorConfig"
    [("library_path", .optional (fun path => .atom path.quote) settings.libraryPath),
      ("library_env", .atom (Text.quote settings.libraryEnv)),
      ("symbol_prefix", .atom (Text.quote settings.symbolPrefix))]

end AcceleratorSettings

/-- The outline of the settings of event output. -/
def LoggingSettings.outline (settings : LoggingSettings) : Outline :=
  .record "LoggingConfig"
    [("level", .atom (Text.quote settings.level)), ("ansi", .atom (toString settings.ansi))]

namespace Settings

/-- Whether two settings are the same, paths being compared by components. -/
def sameAs (left right : Settings) : Bool :=
  left.accelerator.sameAs right.accelerator && left.logging == right.logging

/-- The outline of all settings. -/
def outline (settings : Settings) : Outline :=
  .record "KernelConfig"
    [("accelerator", settings.accelerator.outline), ("logging", settings.logging.outline)]

/-- Change the accelerator's settings. -/
def withAccelerator (settings : Settings)
    (change : AcceleratorSettings → AcceleratorSettings) : Settings :=
  { settings with accelerator := change settings.accelerator }

/-- Change the settings of event output. -/
def withLogging (settings : Settings) (change : LoggingSettings → LoggingSettings) : Settings :=
  { settings with logging := change settings.logging }

/-- Set where the library is. -/
def withLibraryPath (settings : Settings) (path : Path) : Settings :=
  settings.withAccelerator fun accelerator => { accelerator with libraryPath := some path }

end Settings

end TypedMemory
