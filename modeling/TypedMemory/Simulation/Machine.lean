import TypedMemory.Simulation.Device
import TypedMemory.Simulation.Linker

/-!
# A simulated machine

A platform to run on: host memory that gives out all but enormous blocks, the
simulated device, and the simulated linker. Each cache has one of the two kinds
of loader.
-/

namespace TypedMemory

namespace Simulation

/-- The kinds of loader. -/
inductive LoaderKind where
  | device
  | linker
deriving Repr, DecidableEq

/-- A routine of either kind of library. -/
inductive MachineRoutine where
  | device (behaviour : Behaviour)
  | linked (routine : LinkedRoutine)
deriving Repr, DecidableEq

/-- The state of the machine. -/
structure Machine where
  /-- The kinds of the loaders, each at its number. -/
  loaders : List LoaderKind := []
  device : Device := {}
  /-- How many blocks of host memory were given out so far. -/
  hostBlocks : Nat := 0
deriving Repr, DecidableEq

namespace Machine

/-- The greatest block of host memory, two to the power of 47. -/
def maxHostBlock : Nat := 140737488355328

/-- Obtain host memory. -/
def hostAlloc (size _alignment : Nat) (machine : Machine) : Nat × Machine :=
  if maxHostBlock < size then (0, machine)
  else
    (0x10000 * (machine.hostBlocks + 1), { machine with hostBlocks := machine.hostBlocks + 1 })

/-- Open a library with the loader of a number. -/
def openLibrary (loader : Nat) (path : Path) (machine : Machine) :
    Except Error LoaderKind × Machine :=
  match machine.loaders.getD loader .linker with
  | .device =>
      let (result, device) := machine.device.attempt path
      (result.map fun _ => .device, { machine with device })
  | .linker => ((Linker.openAt path).map fun _ => .linker, machine)

/-- Look a name up in a library. -/
def lookUp (library : LoaderKind) (name : String) (machine : Machine) : Lookup MachineRoutine :=
  match library with
  | .device =>
      match machine.device.symbols.lookup name with
      | none => .missing ("undefined symbol: " ++ name)
      | some .null => .null
      | some behaviour => .found (.device behaviour)
  | .linker =>
      match Linker.lookUp name with
      | .missing reason => .missing reason
      | .null => .null
      | .found routine => .found (.linked routine)

/-- Run a routine on an argument: what it returns. -/
def run (routine : MachineRoutine) (argument : UInt64) (machine : Machine) : Nat × Machine :=
  match routine with
  | .device behaviour =>
      let (address, device) := machine.device.run behaviour argument
      (address, { machine with device })
  | .linked routine => (Linker.address routine argument, machine)

/-- The machine as a platform. -/
def platform : Platform where
  State := Machine
  Library := LoaderKind
  Routine := MachineRoutine
  openLibrary := openLibrary
  lookUp := lookUp
  callAlloc routine length machine := machine.run routine length.toUInt64
  callDealloc routine address machine := (machine.run routine (.ofNat address)).2
  hostAlloc := hostAlloc
  hostFree _ _ _ machine := machine

end Machine

end Simulation

end TypedMemory
