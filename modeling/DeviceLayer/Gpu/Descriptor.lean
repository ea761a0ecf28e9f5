import DeviceLayer.Gpu.Memory

/-!
# Descriptor sets

Native set layouts are cached by their slots, and each has a bounded pool of sets. A set is only a
pool slot: writing it builds a fresh bind group, which must be complete, so slots that hold nothing
get the placeholder.

Main definitions: `Gpu.setLayout`, `allocSet`, `recycleSets`, `placeholderFor`, `writeSet`.
-/

namespace DeviceLayer.Gpu

/-- The handle of a layout; its native layout and pool are made on first sight. -/
def setLayout (slots : SetLayout) : Action (Live Gpu) CacheHandle := do
  let layouts := (← Live.self).layouts
  let (handle, layouts) ← layouts.getOrInsert slots do
    let native ← request (Platform.createSetLayout · slots)
    pure { native }
  Live.update fun g => { g with layouts := layouts }
  pure handle

/-- The layout behind a handle. -/
def layoutEntry (handle : CacheHandle) : Action (Live Gpu) LayoutEntry := do
  Action.orRefuse ((← Live.self).layouts.get? handle) (.unknownSetLayout handle)

/-- Takes a set out of a layout's pool. -/
def allocSet (layout : CacheHandle) : Action (Live Gpu) SetHandle := do
  let entry ← layoutEntry layout
  let (set, pool) ← Action.checked (entry.pool.allocate UInt32.ofNat)
  Live.update fun g =>
    { g with layouts := g.layouts.modify layout fun e => { e with pool := pool } }
  pure ⟨layout, set⟩

/-- Puts a set back into its pool. -/
def recycleSet (set : SetHandle) (g : Gpu) : Gpu :=
  { g with
    layouts := g.layouts.modify set.layout fun e => { e with pool := e.pool.recycle set.set } }

/-- Puts sets back into their pools, in order. -/
def recycleSets (sets : List SetHandle) (g : Gpu) : Gpu :=
  sets.foldl (fun g set => recycleSet set g) g

/-- Only pools change when sets are recycled. -/
theorem recycleSets_eq (sets : List SetHandle) (g : Gpu) :
    ∃ layouts, recycleSets sets g = { g with layouts } := by
  induction sets generalizing g with
  | nil => exact ⟨g.layouts, rfl⟩
  | cons set sets ih =>
    obtain ⟨layouts, rest⟩ := ih (recycleSet set g)
    exact ⟨layouts, rest⟩

/-- Sets made by a layout's pool, and how many of them are free. -/
def poolUsage (g : Gpu) (layout : CacheHandle) : Option (Nat × Nat) :=
  (g.layouts.get? layout).map fun e => (e.pool.allocated, e.pool.free.length)

/-- A placeholder of at least `minSize` bytes, and the length to bind of it. The placeholder grows
to the largest request and is shared by all sets. -/
def placeholderFor (minSize : Nat) : Action (Live Gpu) (Buffer × Nat) := do
  let aligned ← Action.check (alignUp minSize)
  let size := max aligned placeholderSize
  let s ← get
  if s.platform.bufferSize s.device.placeholder < size then
    let buffer ← attempt (Platform.createBuffer · .placeholder size)
    Live.update fun g => { g with placeholder := buffer }
  pure ((← Live.self).placeholder, size)

/-- The window bound to a slot that holds something. -/
def bindWindow (index binding : UInt32) (kind : ResourceKind) (slot : Binding) :
    Action (Live Gpu) BindEntry := do
  let a ← resolve slot.pointer
  let offset := slot.pointer.offset.toNat
  let size := resolveSize slot.pointer.offset slot.size a.size
  Action.require (min (offset + size) maxWord ≤ a.size)
    (.bindingPastEnd index binding slot.pointer.allocId)
  let alignment := (← Live.self).limits.offsetAlignment kind
  Action.require (offset % alignment.toNat = 0)
    (.bindingMisaligned index binding offset alignment)
  let length ← Action.check (alignUp size)
  pure ⟨binding, a.buffer, offset, if length = 0 then none else some length⟩

/-- The window bound to a slot of the layout, or the placeholder where the binder holds nothing. -/
def bindSlot (binder : Binder) (index binding : UInt32) (kind : ResourceKind) :
    Action (Live Gpu) BindEntry := do
  let slot := binder.slot? index binding
  match slot.filter fun b => !b.pointer.isNull with
  | some b => bindWindow index binding kind b
  | none =>
    let (buffer, size) ← placeholderFor ((slot.map (·.size.toNat)).getD 0)
    pure ⟨binding, buffer, 0, some size⟩

/-- Writes set `index` of a binder: every slot of the layout gets a window. -/
def writeSet (set : SetHandle) (layout : SetLayout) (binder : Binder) (index : UInt32) :
    Action (Live Gpu) BindGroup := do
  let entries ← layout.toList.mapM fun (binding, kind) => bindSlot binder index binding kind
  let entry ← layoutEntry set.layout
  attempt (Platform.createBindGroup · ⟨entry.native, entries⟩)

end DeviceLayer.Gpu
