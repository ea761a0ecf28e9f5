import DeviceLayer.Native.Command

/-!
# Recorded commands and their replay

A command list keeps what was recorded and becomes native commands when it is finalized. Compute
passes are opened when a command needs one and closed by barriers, copies and render passes. The
native library forgets pipeline and bind groups between passes, so each newly opened compute pass
begins with the ones that were in force.

* `Recorded` — the commands of a list.
* `Replay.apply` — one recorded command.
* `encode` — the native commands of a whole list; every pass is closed at the end.
-/

namespace DeviceLayer

/-- A command as it was recorded. -/
inductive Recorded where
  | computePipeline (pipeline : NativePipeline)
  | renderPipeline (pipeline : NativePipeline)
  | viewport (area : RenderArea)
  | bindGroup (index : UInt32) (group : BindGroup)
  | vertexBuffer (slot : UInt32) (buffer : Buffer) (offset : Nat)
  | indexBuffer (buffer : Buffer) (offset : Nat) (format : IndexFormat)
  | dispatch (x y z : UInt32)
  | barrier
  | copy (src : Buffer) (srcOffset : Nat) (dst : Buffer) (dstOffset size : Nat)
  | clear (buffer : Buffer) (offset size : Nat)
  | beginRenderPass (area : RenderArea) (colors : List NativeAttachment)
      (depth : Option NativeAttachment)
  | endRenderPass
  | draw (first past : UInt32)
  | drawIndexed (first past baseVertex : UInt32)
  deriving DecidableEq

/-- The pass that is open while a list is replayed. -/
inductive OpenPass where
  | idle
  | compute
  | render
  deriving DecidableEq

/-- The commands emitted so far and what the next compute pass begins with. -/
structure Replay where
  trace : Array Command := #[]
  pass : OpenPass := .idle
  pipeline : Option NativePipeline := none
  groups : SortedMap UInt32 BindGroup := ∅

namespace Replay

def emit (r : Replay) (commands : List Command) : Replay :=
  { r with trace := r.trace ++ commands }

/-- Ends the open pass, if there is one. -/
def close (r : Replay) : Replay :=
  match r.pass with
  | .idle => r
  | .compute => { r.emit [.endCompute] with pass := .idle }
  | .render => { r.emit [.endRender] with pass := .idle }

/-- What a compute pass begins with. -/
def preamble (r : Replay) : List Command :=
  (r.pipeline.map Command.pipeline).toList ++ r.groups.toList.map fun e => .bindGroup e.1 e.2

/-- Makes a compute pass the open one. -/
def inCompute (r : Replay) : Replay :=
  match r.pass with
  | .compute => r
  | _ =>
    let r := r.close
    { r.emit (.beginCompute :: r.preamble) with pass := .compute }

/-- Emits commands that are for a render pass only. -/
def ifRender (r : Replay) (commands : List Command) : Replay :=
  match r.pass with
  | .render => r.emit commands
  | _ => r

/-- The viewport and scissor of a render area. -/
def areaCommands (area : RenderArea) : List Command := [.viewport area.viewport, .scissor area]

/-- Replays one recorded command. -/
def apply (r : Replay) : Recorded → Replay
  | .computePipeline p => { r.inCompute.emit [.pipeline p] with pipeline := some p }
  | .renderPipeline p => r.ifRender [.pipeline p]
  | .viewport area => r.ifRender (areaCommands area)
  | .bindGroup index group =>
    match r.pass with
    | .render => r.emit [.bindGroup index group]
    | _ => { r.inCompute.emit [.bindGroup index group] with groups := r.groups.insert index group }
  | .vertexBuffer slot buffer offset => r.ifRender [.vertexBuffer slot buffer offset]
  | .indexBuffer buffer offset format => r.ifRender [.indexBuffer buffer offset format]
  | .dispatch x y z => r.inCompute.emit [.dispatch x y z]
  | .barrier =>
    match r.pass with
    | .compute => r.close
    | _ => r
  | .copy src srcOffset dst dstOffset size => r.close.emit [.copy src srcOffset dst dstOffset size]
  | .clear buffer offset size => r.close.emit [.clear buffer offset size]
  | .beginRenderPass area colors depth =>
    { r.close.emit (.beginRender colors depth :: areaCommands area) with pass := .render }
  | .endRenderPass => r.close
  | .draw first past => r.ifRender [.draw first past]
  | .drawIndexed first past baseVertex => r.ifRender [.drawIndexed first past baseVertex]

end Replay

/-- The native commands of a recorded list. -/
def encode (commands : List Recorded) : List Command :=
  (commands.foldl Replay.apply {}).close.trace.toList

end DeviceLayer
