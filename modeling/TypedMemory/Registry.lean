import TypedMemory.Backend
import TypedMemory.Environment
import TypedMemory.Settings.Basic

/-!
# The registry of backends

The registry says how each backend is reached. The host is reached directly. The
accelerator is reached through a library, whose location comes from the settings
or else from the environment, and is settled once, when the registry is made.
-/

namespace TypedMemory

/-- The location of the accelerator's library: the one in the settings, or else
the one in the environment. An empty location counts as none. -/
def AcceleratorSettings.location? (settings : AcceleratorSettings) (environment : Environment) :
    Option Path :=
  match settings.libraryPath.filter (!·.isEmpty) with
  | some path => some path
  | none =>
      ((environment.get? settings.libraryEnv).filter (!·.isEmpty)).map Path.mk

/-- How a backend is reached. -/
inductive Access where
  /-- Without any library. -/
  | direct
  /-- Through the library at `path`, whose entry points are named from `stem`. -/
  | library (path : Path) (stem : String)
deriving Repr, DecidableEq

/-- A backend, and how it is reached. -/
structure Descriptor where
  backend : Backend
  access : Access
deriving Repr, DecidableEq

namespace Descriptor

/-- Whether the backend is reached without a library. -/
def isDirect (descriptor : Descriptor) : Bool :=
  descriptor.access = .direct

/-- The path of the library that the backend is reached through. -/
def path? (descriptor : Descriptor) : Option Path :=
  match descriptor.access with
  | .direct => none
  | .library path _ => some path

/-- What the names of the library's entry points start with. -/
def stem? (descriptor : Descriptor) : Option String :=
  match descriptor.access with
  | .direct => none
  | .library _ stem => some stem

/-- The outline of a descriptor. -/
def outline (descriptor : Descriptor) : Outline :=
  let access : Outline :=
    match descriptor.access with
    | .direct => .atom "Direct"
    | .library path stem =>
        .record "DynamicLibrary"
          [("path", .atom path.quote), ("symbol_prefix", .atom (Text.quote stem))]
  .record "BackendDescriptor" [("backend", descriptor.backend.outline), ("mode", access)]

end Descriptor

/-- What is known about the accelerator's library. -/
structure Registry where
  library : Option Path
  libraryEnv : String
  stem : String
deriving Repr, DecidableEq

namespace Registry

/-- The registry of some settings, made in an environment. -/
def ofSettings (settings : AcceleratorSettings) (environment : Environment) : Registry where
  library := settings.location? environment
  libraryEnv := settings.libraryEnv
  stem := settings.symbolPrefix

/-- How a backend is reached. -/
def resolve (registry : Registry) : Backend → Except Error Descriptor
  | .host => .ok ⟨.host, .direct⟩
  | .accelerator =>
      match registry.library with
      | none => .error (Misconfiguration.noLibraryLocation registry.libraryEnv).error
      | some path =>
          if registry.stem.isEmpty then .error Misconfiguration.emptySymbolPrefix.error
          else .ok ⟨.accelerator, .library path registry.stem⟩

/-- How the backend that a text names is reached. -/
def resolveName (registry : Registry) (text : String) : Except Error Descriptor :=
  (Backend.parse text).bind registry.resolve

/-- The outline of a registry. -/
def outline (registry : Registry) : Outline :=
  .record "BackendRegistry"
    [("accelerator_library", .optional (fun path => .atom path.quote) registry.library),
      ("library_env", .atom (Text.quote registry.libraryEnv)),
      ("symbol_prefix", .atom (Text.quote registry.stem))]

end Registry

end TypedMemory
