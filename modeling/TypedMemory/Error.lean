import TypedMemory.Outline
import TypedMemory.Path

/-!
# Errors and events

Every request that fails says which kind of thing went wrong: the configuration,
the opening of a library, the look-up of an entry point, the allocation itself,
the input, or the file system. The kind decides the code for programs, whether
trying again can help, and the message for people. What happens on the way is
reported as events: a level, a message, and named fields. Which of them are shown
to whom is not decided here.
-/

namespace TypedMemory

/-- Why an allocation was refused. -/
inductive Refusal where
  /-- A length that no backend can serve. -/
  | invalidLength
  /-- A backend that had no memory to give. -/
  | exhausted
deriving Repr, DecidableEq

/-- What can go wrong. -/
inductive Error where
  | configuration (message : String)
  | load (path : Path) (reason : String)
  | symbolResolution (symbol reason : String)
  | allocation (message : String) (refusal : Refusal)
  | invalidInput (message : String)
  | io (message : String)
deriving Repr, DecidableEq

/-- The codes under which programs handle errors. -/
inductive ErrorCode where
  | configInvalid
  | libraryUnavailable
  | symbolMissing
  | outOfMemory
  | invalidLength
  | invalidInput
  | io
deriving Repr, DecidableEq

/-- The name of a code. -/
def ErrorCode.label : ErrorCode → String
  | .configInvalid => "ConfigInvalid"
  | .libraryUnavailable => "LibraryUnavailable"
  | .symbolMissing => "SymbolMissing"
  | .outOfMemory => "OutOfMemory"
  | .invalidLength => "InvalidLength"
  | .invalidInput => "InvalidInput"
  | .io => "Io"

/-- The name of a refusal. -/
def Refusal.label : Refusal → String
  | .invalidLength => "InvalidLength"
  | .exhausted => "Exhausted"

namespace Error

/-- The name of the kind of an error. -/
def label : Error → String
  | .configuration _ => "ConfigurationError"
  | .load _ _ => "LoadError"
  | .symbolResolution _ _ => "SymbolResolutionError"
  | .allocation _ _ => "AllocationError"
  | .invalidInput _ => "InvalidInput"
  | .io _ => "IoError"

/-- The code of an error. -/
def code : Error → ErrorCode
  | .configuration _ => .configInvalid
  | .load _ _ => .libraryUnavailable
  | .symbolResolution _ _ => .symbolMissing
  | .allocation _ .exhausted => .outOfMemory
  | .allocation _ .invalidLength => .invalidLength
  | .invalidInput _ => .invalidInput
  | .io _ => .io

/-- Whether the same request may succeed later without a change of
configuration: a library that did not open is tried again, and a backend without
memory may have some later. -/
def isRecoverable (error : Error) : Bool :=
  error.code = .libraryUnavailable || error.code = .outOfMemory

/-- The message of an error. -/
def message : Error → String
  | .configuration message => "Configuration error: " ++ message
  | .load path reason => "Load error: failed to open '" ++ path.display ++ "': " ++ reason
  | .symbolResolution symbol reason =>
      "Symbol resolution error: '" ++ symbol ++ "': " ++ reason
  | .allocation message _ => "Allocation error: " ++ message
  | .invalidInput message => "Invalid input: " ++ message
  | .io message => "IO error: " ++ message

/-- The message of an error with advice for the person who meets it. -/
def userMessage : Error → String
  | .configuration message =>
      "Configuration Error: " ++ message ++ "\n\nSet `accelerator.library_path` in the " ++
        "configuration or export the library environment variable " ++
        "(KERNELMEM_ACCELERATOR_LIBRARY by default)."
  | .load path reason =>
      "Load Error: could not open " ++ path.display ++ ": " ++ reason ++
        "\n\nCheck that the accelerator support library exists and that its own " ++
        "dependencies (driver, runtime) are installed."
  | .symbolResolution symbol reason =>
      "Symbol Error: " ++ symbol ++ " (" ++ reason ++ ")\n\nThe accelerator library was " ++
        "loaded but does not export this entry point. It was probably built for a " ++
        "different set of element types or symbol prefix."
  | error => error.message

/-- The outline of an error. -/
def outline : Error → Outline
  | .configuration message => .wrapped "ConfigurationError" (.atom (Text.quote message))
  | .load path reason =>
      .record "LoadError" [("path", .atom path.quote), ("reason", .atom (Text.quote reason))]
  | .symbolResolution symbol reason =>
      .record "SymbolResolutionError"
        [("symbol", .atom (Text.quote symbol)), ("reason", .atom (Text.quote reason))]
  | .allocation message refusal =>
      .record "AllocationError"
        [("message", .atom (Text.quote message)), ("kind", .atom refusal.label)]
  | .invalidInput message => .wrapped "InvalidInput" (.atom (Text.quote message))
  | .io message => .wrapped "IoError" (.atom (Text.quote message))

/-- Whether two errors are the same. Paths count as the same when their
components are. -/
def sameAs : Error → Error → Bool
  | .load path reason, .load path' reason' => path.sameAs path' && reason == reason'
  | left, right => left == right

/-- An allocation that was refused: how much of what was asked of whom, and
why. -/
def refused (refusal : Refusal) (length elementType backend reason : String) : Error :=
  .allocation
    ("cannot allocate " ++ length ++ " x " ++ elementType ++ " on " ++ backend ++ ": " ++ reason)
    refusal

/-- A length that no backend can serve. -/
def invalidLength (length elementType backend reason : String) : Error :=
  refused .invalidLength length elementType backend reason

/-- A backend that had no memory to give. -/
def exhausted (length elementType backend reason : String) : Error :=
  refused .exhausted length elementType backend reason

end Error

/-- What can be wrong with a configuration, or with what is asked of it. -/
inductive Misconfiguration where
  | unknownElementType (text : String)
  | unknownBackend (text : String)
  | noLibraryLocation (name : String)
  | emptySymbolPrefix
  | noSupportLibrary (backend : String)
  | notThroughLibrary (backend : String)
  | notConfigured (backend : String)
deriving Repr, DecidableEq

namespace Misconfiguration

/-- What is wrong, in words. -/
def describe : Misconfiguration → String
  | .unknownElementType text => "unknown element type '" ++ text ++ "'"
  | .unknownBackend text => "unknown backend identifier '" ++ text ++ "'"
  | .noLibraryLocation name =>
      "accelerator backend has no library location: set accelerator.library_path or " ++ name
  | .emptySymbolPrefix => "accelerator symbol prefix is empty"
  | .noSupportLibrary backend => backend ++ " backend has no support library"
  | .notThroughLibrary backend => backend ++ " backend is not reached through a kernels library"
  | .notConfigured backend => backend ++ " backend is not configured"

/-- What is wrong, as an error. -/
def error (fault : Misconfiguration) : Error := .configuration fault.describe

end Misconfiguration

/-! ## Events -/

/-- How much an event matters. -/
inductive Level where
  | error
  | warn
  | info
  | debug
  | trace
deriving Repr, DecidableEq

/-- The name of a level. -/
def Level.label : Level → String
  | .error => "ERROR"
  | .warn => "WARN"
  | .info => "INFO"
  | .debug => "DEBUG"
  | .trace => "TRACE"

/-- The value of a field of an event. -/
inductive FieldValue where
  | text (value : String)
  | count (value : Nat)
deriving Repr, DecidableEq

/-- A report that something happened. -/
structure Event where
  level : Level
  message : String
  fields : List (String × FieldValue) := []
deriving Repr, DecidableEq

end TypedMemory
