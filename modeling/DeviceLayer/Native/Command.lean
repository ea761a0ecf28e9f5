import DeviceLayer.Native.Object
import DeviceLayer.Storage

/-!
# Native commands

The commands of a submitted command buffer and what they do to the contents of buffers. Copies and
clears move bytes; passes, dispatches and draws change no byte that the host can read.

* `Command.run`, `runCommands` — the effect on buffer contents.
-/

namespace DeviceLayer

/-- Contents of all native buffers by buffer id. -/
abbrev Contents := List Storage

/-- A texture attached to a render pass, and whether it is cleared. -/
abbrev NativeAttachment := Texture × Bool

inductive Command where
  | beginCompute
  | endCompute
  | beginRender (colors : List NativeAttachment) (depth : Option NativeAttachment)
  | endRender
  | pipeline (pipeline : NativePipeline)
  | bindGroup (index : UInt32) (group : BindGroup)
  | dispatch (x y z : UInt32)
  | viewport (viewport : Viewport)
  | scissor (area : RenderArea)
  | vertexBuffer (slot : UInt32) (buffer : Buffer) (offset : Nat)
  | indexBuffer (buffer : Buffer) (offset : Nat) (format : IndexFormat)
  /-- Draws the vertices from `first` up to, not including, `past`. -/
  | draw (first past : UInt32)
  | drawIndexed (first past baseVertex : UInt32)
  | copy (src : Buffer) (srcOffset : Nat) (dst : Buffer) (dstOffset size : Nat)
  | clear (buffer : Buffer) (offset size : Nat)
  deriving DecidableEq

namespace Contents

/-- The contents of a buffer. -/
def of (c : Contents) (b : Buffer) : Storage := c.getD b.id (.zeros 0)

/-- Writes `data` into a buffer. -/
def write (c : Contents) (b : Buffer) (offset : Nat) (data : Storage) : Contents :=
  c.modify b.id (·.splice offset data)

theorem of_write_self {c : Contents} {b : Buffer} (h : b.id < c.length) (offset : Nat)
    (data : Storage) : (c.write b offset data).of b = (c.of b).splice offset data := by
  simp [of, write, List.getD_eq_getElem?_getD, h]

/-- A write to one buffer leaves the others alone. -/
theorem of_write_of_ne {b other : Buffer} (h : other.id ≠ b.id) (c : Contents) (offset : Nat)
    (data : Storage) : (c.write b offset data).of other = c.of other := by
  simp [of, write, List.getD_eq_getElem?_getD, h.symm]

/-- Only the number of a buffer matters. -/
theorem of_congr {b other : Buffer} (h : b.id = other.id) (c : Contents) : c.of b = c.of other := by
  rw [of, of, h]

/-- Buffers made later leave a buffer alone. -/
theorem of_append {c : Contents} {b : Buffer} (h : b.id < c.length) (more : Contents) :
    of (c ++ more) b = c.of b := by
  simp [of, List.getD_eq_getElem?_getD, List.getElem?_append_left h]

/-- The newest buffer holds what it was made with. -/
theorem of_append_new {c : Contents} {b : Buffer} (h : b.id = c.length) (held : Storage) :
    of (c ++ [held]) b = held := by
  simp [of, List.getD_eq_getElem?_getD, h]

end Contents

/-- What a command does to the contents of buffers. -/
def Command.run (c : Contents) : Command → Contents
  | .copy src srcOffset dst dstOffset size =>
    c.write dst dstOffset ((c.of src).slice srcOffset size)
  | .clear buffer offset size => c.write buffer offset (.zeros size)
  | _ => c

/-- Commands run in order. -/
def runCommands (c : Contents) (commands : List Command) : Contents := commands.foldl Command.run c

theorem runCommands_append (c : Contents) (xs ys : List Command) :
    runCommands c (xs ++ ys) = runCommands (runCommands c xs) ys := by
  simp [runCommands]

/-- Commands keep the number of buffers. -/
theorem length_run (c : Contents) (command : Command) :
    (command.run c).length = c.length := by
  cases command <;> simp [Command.run, Contents.write]

end DeviceLayer
