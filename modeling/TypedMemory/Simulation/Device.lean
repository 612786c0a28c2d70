import TypedMemory.ElementType
import TypedMemory.Platform

/-!
# A simulated device

A library that exists only in memory. Its table of symbols can be changed while
it is open, and its routines manage a device with a fixed capacity. Successive
blocks lie at successive multiples of a page, so that every address tells which
block it was.
-/

namespace TypedMemory

namespace Simulation

/-- What a symbol of the simulated library stands for. -/
inductive Behaviour where
  /-- A null address. -/
  | null
  /-- A routine that never has memory. -/
  | nullAlloc
  /-- The device's routine for a type and an operation. -/
  | device (type : ElementType) (operation : Operation)
deriving Repr, DecidableEq

/-- A call that the device saw. -/
structure DeviceCall where
  label : String
  argument : Int
deriving Repr, DecidableEq

/-- The simulated library and its device. -/
structure Device where
  symbols : List (String × Behaviour) := []
  /-- How many more attempts to open the library fail. -/
  failures : Nat := 0
  /-- The paths, as shown, from which the library never opens. -/
  unavailable : List String := []
  /-- The paths, as shown, from which it was tried to open the library. -/
  attempts : List String := []
  /-- How many bytes the device has, if there is a limit. -/
  capacity : Option Nat := none
  used : Nat := 0
  /-- How many blocks were given out so far. -/
  given : Nat := 0
  /-- The blocks that are out, with their sizes. -/
  live : List (Nat × Nat) := []
  calls : List DeviceCall := []
deriving Repr, DecidableEq

namespace Device

/-- The distance between the addresses of successive blocks. -/
def page : Nat := 0x1000

/-- The device with a symbol removed. -/
def forget (device : Device) (name : String) : Device :=
  { device with symbols := device.symbols.filter fun entry => entry.1 != name }

/-- The device with a symbol set. -/
def install (device : Device) (name : String) (behaviour : Behaviour) : Device :=
  { device with symbols := (name, behaviour) :: (device.forget name).symbols }

/-- The device with all symbols of a stem set to its own routines. -/
def exportAll (device : Device) (stem : String) : Device :=
  let install (operation : Operation) (device : Device) (type : ElementType) : Device :=
    device.install (symbolName stem type operation) (.device type operation)
  ElementType.all.foldl (install .dealloc) (ElementType.all.foldl (install .alloc) device)

/-- Try to open the library. -/
def attempt (device : Device) (path : Path) : Except Error Unit × Device :=
  let device := { device with attempts := device.attempts ++ [path.display] }
  if 0 < device.failures then
    (.error (.load path "simulated dlopen failure"),
      { device with failures := device.failures - 1 })
  else if path.display ∈ device.unavailable then (.error (.load path "no such library"), device)
  else (.ok (), device)

/-- Note a call. -/
def note (device : Device) (label : String) (argument : Int) : Device :=
  { device with calls := device.calls ++ [⟨label, argument⟩] }

/-- Give out a block of so many elements: its address, or zero. -/
def allocate (device : Device) (type : ElementType) (length : Int) : Nat × Device :=
  let device := device.note (symbolName "" type .alloc) length
  if length ≤ 0 then (0, device)
  else
    let bytes := length.toNat * type.size
    if device.capacity.any fun capacity => capacity < device.used + bytes then (0, device)
    else
      let address := page * (device.given + 1)
      (address,
        { device with
          used := device.used + bytes
          given := device.given + 1
          live := (address, bytes) :: device.live })

/-- Take a block back, if there is one at the address. -/
def deallocate (device : Device) (type : ElementType) (address : Nat) : Device :=
  let device := device.note (symbolName "" type .dealloc) address
  match device.live.lookup address with
  | none => device
  | some bytes =>
      { device with
        used := device.used - bytes
        live := device.live.filter fun entry => entry.1 != address }

/-- Run a routine of the simulated library on an argument: what it returns. A
routine that obtains takes the argument for a signed length, and one that releases
takes it for an address. -/
def run (device : Device) (behaviour : Behaviour) (argument : UInt64) : Nat × Device :=
  match behaviour with
  | .null => (0, device)
  | .nullAlloc => (0, device.note "null_alloc" argument.toInt64.toInt)
  | .device type .alloc => device.allocate type argument.toInt64.toInt
  | .device type .dealloc => (0, device.deallocate type argument.toNat)

end Device

end Simulation

end TypedMemory
