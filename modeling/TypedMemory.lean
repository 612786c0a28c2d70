import TypedMemory.Program
import TypedMemory.Proofs.Backing
import TypedMemory.Proofs.Bookkeeping
import TypedMemory.Proofs.Conservation
import TypedMemory.Proofs.Counters
import TypedMemory.Proofs.DropOrder
import TypedMemory.Proofs.FailedUpdate
import TypedMemory.Proofs.ForeignPath
import TypedMemory.Proofs.Isolation
import TypedMemory.Proofs.Keeping
import TypedMemory.Proofs.Loading
import TypedMemory.Proofs.Ownership
import TypedMemory.Proofs.Permanence
import TypedMemory.Proofs.Release
import TypedMemory.Proofs.RoundTrip
import TypedMemory.Proofs.Refusal
import TypedMemory.Simulation.FileTree
import TypedMemory.Simulation.Machine
import TypedMemory.Startup
import TypedMemory.World.Allocator
import TypedMemory.World.Buffer
import TypedMemory.Proofs.CallOrigin
import TypedMemory.Proofs.EmptyRequest
import TypedMemory.Proofs.Filing
import TypedMemory.Proofs.Grammar
import TypedMemory.Proofs.Overlay
import TypedMemory.Proofs.Identifiers
import TypedMemory.Proofs.Selection
import TypedMemory.Proofs.HostRelease
import TypedMemory.Proofs.Deeds
