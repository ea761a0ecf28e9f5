import DeviceLayer.Memory

/-!
# The launch protocol

A kernel may be launched over ranges of other devices. Each such range is made local first, by an
alias where the devices share memory and by a copy into scratch memory otherwise:

1. every foreign range, in node order, is aliased, or copied into new scratch memory;
2. this device synchronises with every source device;
3. the kernel runs over the local ranges;
4. every scratch copy is written back and freed, every alias that is an allocation of its own is
   freed;
5. every source device synchronises with this one.

The protocol is written against an interface, so that it can be followed over any behaviour of the
devices. The first failure ends it as it stands.
-/

namespace DeviceLayer

/-- What a launch asks of the launching device and, through `δ`, of the devices a registry knows. -/
structure LaunchInterface (m : Type → Type) (δ : Type) where
  /-- The device with an id. -/
  find : DeviceId → m δ
  /-- A pointer through which the launching device sees a foreign range. -/
  localAlias : Range → m (Option Pointer)
  allocate : AllocParams → m Allocation
  /-- Copies a range of a source device to the launching device. -/
  copyIn : Pointer → Range → δ → m Unit
  /-- Stalls the launching device until a source device is done with a local range. -/
  syncLocal : Range → δ → m Unit
  /-- Runs a kernel over local ranges. -/
  run : UInt32 → UInt32 → Mapping → m Unit
  /-- Copies a local range to a source device. -/
  copyOut : δ → Pointer → Range → m Unit
  isAlias : Pointer → m Bool
  deallocate : Allocation → m Unit
  /-- Stalls a source device until the launching device is done with its range. -/
  syncSource : δ → Range → m Unit

/-- A foreign range that was made local for one launch. -/
structure ForeignNode where
  node : Int
  source : Range
  /-- Where the launching device sees it. -/
  near : Range
  /-- The scratch memory of a copy; an alias has none. -/
  scratch : Option Allocation

namespace LaunchInterface

variable {m : Type → Type} {δ : Type} [Monad m]

/-- Makes a foreign range local. -/
def localize (d : LaunchInterface m δ) (node : Int) (range : Range) : m ForeignNode := do
  let source ← d.find range.device
  match ← d.localAlias range with
  | some pointer => pure ⟨node, range, ⟨pointer, range.length⟩, none⟩
  | none =>
    let scratch ← d.allocate (.deviceLocal range.length)
    let near := scratch.range range.length
    d.copyIn near.start range source
    pure ⟨node, range, near, some scratch⟩

/-- Makes every range local, in node order: the local mapping and the foreign nodes. -/
def localizeAll (d : LaunchInterface m δ) (here : DeviceId) (mapping : Mapping) :
    m (Mapping × List ForeignNode) :=
  mapping.toList.foldlM (fun (near, foreign) (node, range) => do
    if range.device = here then pure (near.insert node range, foreign)
    else
      let entry ← d.localize node range
      pure (near.insert node entry.near, foreign ++ [entry])) (∅, [])

/-- Gives a foreign node's results back and frees what was local. -/
def giveBack (d : LaunchInterface m δ) (entry : ForeignNode) : m Unit := do
  match entry.scratch with
  | some scratch =>
    let source ← d.find entry.source.device
    d.copyOut source entry.source.start entry.near
    d.deallocate scratch
  | none =>
    if ← d.isAlias entry.near.start then d.deallocate entry.near.start.allocation

/-- Launches a kernel from the device with the id `here`. -/
def launch (d : LaunchInterface m δ) (here : DeviceId) (stream kernel : UInt32)
    (mapping : Mapping) : m Unit := do
  let (near, foreign) ← d.localizeAll here mapping
  foreign.forM fun entry => do
    let source ← d.find entry.source.device
    d.syncLocal entry.near source
  d.run stream kernel near
  foreign.forM d.giveBack
  foreign.forM fun entry => do
    let source ← d.find entry.source.device
    d.syncSource source entry.source

end LaunchInterface

end DeviceLayer
