import DeviceLayer.Proofs.Clients
import DeviceLayer.Proofs.Store
import Mathlib.Logic.Function.Basic

/-!
# Plain memory with deferred effects

What a client of a graphics processor may expect of its memory: every allocation is a plain array of
bytes. A copy or fill that is recorded moves nothing yet. When its list is queued, the effects that
were recorded happen one after the other, on the bytes that are there at that moment.

Plain memory goes by what the client asked and what it heard, and by nothing that the device keeps.
Native buffers, alignment, staging and patterns are not to be seen in it.

* `KeptBlock`, `Blocks` — an allocation, which is kept when it is given back, and all of them.
* `Effect`, `RecordingCall.effects` — what recorded calls will do.
* `Blocks.after` — what a memory call does.
* `Holder`, `Request` — a client that also queues the commands that it takes from finalized lists.
* `Plain`, `Plain.next` — plain memory with the lists and commands that wait, request by request.
-/

namespace DeviceLayer

def Bytes.repeated (n : Nat) (word : UInt32) : Bytes :=
  (List.replicate n (Bytes.ofWord word)).flatten

@[simp] theorem Bytes.length_repeated (n : Nat) (word : UInt32) :
    (Bytes.repeated n word).length = n * 4 := by
  simp [repeated, ofWord]

/-- Clearing is filling with the word zero. -/
theorem Bytes.repeated_zero (n : Nat) : Bytes.repeated n 0 = .zeros (n * 4) := by
  have word : ofWord 0 = List.replicate 4 0 := rfl
  rw [repeated, word, List.flatten_replicate_replicate, zeros]

theorem Bytes.toBytes_ofWords (n : Nat) (word : UInt32) :
    (Storage.ofWords n fun _ => word).toBytes = .repeated n word := by
  rw [Storage.toBytes_ofWords, repeated, List.flatMap_def, List.map_const', List.length_range]

/-! ## Blocks -/

/-- An allocation, also after it was given back. -/
structure KeptBlock extends Block where
  live : Bool := true

/-- Every allocation that was ever made, by its id. -/
abbrev Blocks := UInt32 → Option KeptBlock

namespace KeptBlock

/-- The host has a copy of a window. -/
def mapped (b : KeptBlock) (offset length : Nat) : KeptBlock :=
  { b with copy := some ⟨offset, b.bytes.slice offset length⟩ }

/-- The host wrote into its copy. -/
def edited (b : KeptBlock) (offset : Nat) (data : Bytes) : KeptBlock :=
  { b with copy := b.copy.map fun copy => { copy with bytes := copy.bytes.splice offset data } }

/-- What the host may write replaces the window that was mapped. -/
def unmapped (b : KeptBlock) : KeptBlock :=
  match b.copy with
  | some copy =>
    { b with
      bytes := if b.params.hostWrite then b.bytes.splice copy.offset copy.bytes else b.bytes
      copy := none }
  | none => b

end KeptBlock

namespace Blocks

def alter (m : Blocks) (id : UInt32) (f : KeptBlock → KeptBlock) : Blocks :=
  Function.update m id ((m id).map f)

def bytes (m : Blocks) (id : UInt32) : Bytes := ((m id).map (·.bytes)).getD []

/-- The bytes of the allocations that are live. -/
def memory (m : Blocks) (id : UInt32) : Option Bytes := ((m id).filter (·.live)).map (·.bytes)

/-- Writes `data` over the bytes of a block from `offset` on. -/
def patch (m : Blocks) (id : UInt32) (offset : Nat) (data : Bytes) : Blocks :=
  m.alter id fun b => { b with bytes := b.bytes.splice offset data }

/-- The number of bytes that a request of `size` at a pointer means. -/
def requested (m : Blocks) (p : Pointer) (size : UInt64) : Nat :=
  resolveSize p.offset size (m.bytes p.allocId).length

def mapped (m : Blocks) (p : Pointer) (size : UInt64) : Blocks :=
  m.alter p.allocId (·.mapped p.offset.toNat (m.requested p size))

/-- What a memory call that succeeds does. -/
def after (m : Blocks) : MemoryCall → MemoryAnswer → Blocks
  | .allocate params, .allocation alloc =>
    Function.update m alloc.id (some { params, bytes := .zeros params.size.toNat })
  | .deallocate alloc, _ => m.alter alloc.id fun b => { b with live := false }
  | .map alloc, _ => m.mapped (alloc.pointer 0) wholeSize
  | .mapRange start size, _ => m.mapped start size
  | .unmap alloc, _ => m.alter alloc.id KeptBlock.unmapped
  | .write dst data, _ => m.patch dst.allocId dst.offset.toNat data.val.toBytes
  | .writeRegion region offset data, .done =>
    m.alter region.allocId (·.edited offset data.val.toBytes)
  | _, _ => m

end Blocks

/-! ## Effects -/

/-- What a call that was recorded does when its list is queued. -/
inductive Effect where
  | copy (src : UInt32) (srcOffset : Nat) (dst : UInt32) (dstOffset size : Nat)
  | fill (id : UInt32) (offset size : Nat) (word : UInt32)

def Effect.apply (m : Blocks) : Effect → Blocks
  | .copy src srcOffset dst dstOffset size =>
    m.patch dst dstOffset ((m.bytes src).slice srcOffset size)
  | .fill id offset size word => m.patch id offset (.repeated (size / 4) word)

namespace Blocks

def run (m : Blocks) (effects : List Effect) : Blocks := effects.foldl Effect.apply m

/-- Copies a range, whose size is told from the blocks as they are. -/
def copying (m : Blocks) (dst src : Pointer) (size : UInt64) : Effect :=
  .copy src.allocId src.offset.toNat dst.allocId dst.offset.toNat (m.requested src size)

def filling (m : Blocks) (p : Pointer) (size : UInt64) (word : UInt32) : Effect :=
  .fill p.allocId p.offset.toNat (m.requested p size) word

end Blocks

/-- The effects of a recording call. Sizes are told when it is made. -/
def RecordingCall.effects (m : Blocks) : RecordingCall → List Effect
  | .copy dst src size => [m.copying dst src size]
  | .fill p size word => [m.filling p size word]
  | _ => []

/-! ## Requests -/

/-- A client with the commands that it took from finalized lists and has not queued yet. -/
structure Holder where
  client : Client
  taken : List (List Command) := []

inductive Request where
  | ask (call : Call)
  /-- Queues commands that were taken from a finalized list. -/
  | queue (taken : Nat)

inductive Heard where
  | memory (answer : Except Fault MemoryAnswer)
  | copied (answer : Except Fault Bool)
  | result (result : Except Fault Unit)

def Client.handsOut? (c : Client) (i : Nat) : Option (List Command) :=
  match c.lists[i]? with
  | none => none
  | some list =>
    match (Recording.finalize.outcome ⟨c.live, list⟩).1 with
    | .ok commands => commands
    | .error _ => none

namespace Request

/-- Commands are queued only if a finalized list handed them out. -/
def isOwn : Request → Bool
  | .ask (.device (.queueNative _)) => false
  | _ => true

def hears : Request → Holder → Heard
  | .ask (.device (.memory call)), h => .memory (call.run.outcome h.client.live).1
  | .ask (.device (.copyWithin dst src)), h =>
    .copied ((Gpu.copyWithin dst src).outcome h.client.live).1
  | .ask call, h => .result (call.step h.client).1
  | .queue _, _ => .result (.ok ())

def step : Request → Holder → Holder
  | .ask (.finalize i), h =>
    ⟨((Call.finalize i).step h.client).2, h.taken ++ (h.client.handsOut? i).toList⟩
  | .ask call, h => { h with client := (call.step h.client).2 }
  | .queue i, h =>
    match h.taken[i]? with
    | none => h
    | some commands =>
      ⟨((Call.device (.queueNative commands)).step h.client).2, h.taken.eraseIdx i⟩

end Request

namespace Holder

/-- The holder after a list of requests; one that fails ends nothing. -/
def run (h : Holder) (requests : List Request) : Holder :=
  requests.foldl (fun h request => request.step h) h

def dialogue : Holder → List Request → List (Request × Heard)
  | _, [] => []
  | h, request :: requests => (request, request.hears h) :: dialogue (request.step h) requests

end Holder

/-! ## Plain memory -/

structure Plain where
  blocks : Blocks := fun _ => none
  /-- The effects recorded in each list; none once it was finalized. -/
  lists : List (Option (List Effect)) := []
  /-- The effects of the commands that were taken from finalized lists. -/
  taken : List (List Effect) := []

namespace Plain

/-- Plain memory after a request, by what was heard. -/
def next (p : Plain) : Request → Heard → Plain
  | .ask (.device (.memory call)), .memory (.ok answer) =>
    { p with blocks := p.blocks.after call answer }
  | .ask (.device (.copyWithin dst src)), .copied (.ok true) =>
    { p with blocks := (p.blocks.copying dst src.start src.length).apply p.blocks }
  | .ask .newList, .result (.ok ()) => { p with lists := p.lists ++ [some []] }
  | .ask (.record i call), .result (.ok ()) =>
    { p with lists := p.lists.modify i (·.map (· ++ call.effects p.blocks)) }
  | .ask (.finalize i), _ =>
    { p with lists := p.lists.set i none, taken := p.taken ++ p.lists[i]?.join.toList }
  | .ask (.submit i _), _ =>
    { p with blocks := p.blocks.run (p.lists[i]?.join.getD []), lists := p.lists.eraseIdx i }
  | .ask (.drop i), _ => { p with lists := p.lists.eraseIdx i }
  | .queue i, _ =>
    { p with blocks := p.blocks.run (p.taken[i]?.getD []), taken := p.taken.eraseIdx i }
  | _, _ => p

def replay (p : Plain) (dialogue : List (Request × Heard)) : Plain :=
  dialogue.foldl (fun p said => p.next said.1 said.2) p

end Plain

end DeviceLayer
