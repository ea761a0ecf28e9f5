import DeviceLayer.Proofs.Deferred
import DeviceLayer.Proofs.Windows
import Mathlib.Data.List.Forall2

/-!
# Blocks in native buffers

Every block of plain memory, also one that was given back, has a native buffer to itself and lies in
its first bytes. Native commands that were issued for effects do to the buffers what the effects do
to the blocks, whatever happened to either in between.

* `Placement`, `Placement.Sound` — which native buffer a block lies in; the invariant.
* `Placement.Carries` — what every later placement has in common with an earlier one.
* `Sound.put`, `patched`, `extended`, `added` — a block is changed, buffers or blocks are new.
* `Effect.Issued`, `Placement.Issues` — the commands that effects were recorded as.
* `Sound.run` — running the commands is running the effects.
-/

namespace DeviceLayer

open DeviceLayer.Action

namespace Blocks

variable {m : Blocks} {id : UInt32} {b : KeptBlock}

theorem alter_of_some (found : m id = some b) (f : KeptBlock → KeptBlock) :
    m.alter id f = Function.update m id (some (f b)) := by
  rw [alter, found, Option.map_some]

theorem bytes_of_some (found : m id = some b) : m.bytes id = b.bytes := by
  rw [bytes, found]
  rfl

theorem patch_nil (m : Blocks) (id : UInt32) (offset : Nat) : m.patch id offset [] = m := by
  simp only [patch, alter, Bytes.splice_nil, Option.map_id', Function.update_eq_self]

end Blocks

def KeptBlock.LiesIn (b : KeptBlock) (held : Storage) : Prop :=
  held.toBytes.take b.bytes.length = b.bytes

/-- Blocks, the native buffers that they lie in, and what all native buffers hold. -/
structure Placement where
  blocks : Blocks
  room : UInt32 → Buffer
  contents : Contents

namespace Placement

variable {q q' : Placement} {id : UInt32} {b b' : KeptBlock} {c : Contents}

/-- Blocks lie in the first bytes of native buffers, no two in one. -/
structure Sound (q : Placement) : Prop where
  stored : ∀ {id b}, q.blocks id = some b → (q.room id).id < q.contents.length
  held : ∀ {id b}, q.blocks id = some b → b.LiesIn (q.contents.of (q.room id))
  apart : ∀ {id id' b b'}, q.blocks id = some b → q.blocks id' = some b' →
    (q.room id).id = (q.room id').id → id = id'

/-- A native buffer that no block lies in. -/
structure Spare (q : Placement) (buffer : Buffer) : Prop where
  stored : buffer.id < q.contents.length
  apart : ∀ {id b}, q.blocks id = some b → (q.room id).id ≠ buffer.id

/-- Blocks stay where they are and as long as they are, and no spare buffer is used. -/
structure Carries (q q' : Placement) : Prop where
  room : ∀ {id b}, q.blocks id = some b → q'.room id = q.room id
  block : ∀ {id b}, q.blocks id = some b →
    ∃ b', q'.blocks id = some b' ∧ b'.bytes.length = b.bytes.length
  spare : ∀ {buffer : Buffer}, q.Spare buffer →
    q'.Spare buffer ∧ q'.contents.of buffer = q.contents.of buffer

instance : Evolution Carries where
  refl _ := ⟨fun _ => rfl, fun found => ⟨_, found, rfl⟩, fun spare => ⟨spare, rfl⟩⟩
  trans first second := by
    refine ⟨fun found => ?_, fun found => ?_, fun spare => ?_⟩
    · obtain ⟨_, found', -⟩ := first.block found
      exact (second.room found').trans (first.room found)
    · obtain ⟨_, found', length⟩ := first.block found
      obtain ⟨b, found'', length'⟩ := second.block found'
      exact ⟨b, found'', length'.trans length⟩
    · obtain ⟨spare', same⟩ := first.spare spare
      obtain ⟨spare'', same'⟩ := second.spare spare'
      exact ⟨spare'', same'.trans same⟩

/-! ## Changes -/

/-- The placement with another block behind an id, and other contents. -/
def put (q : Placement) (id : UInt32) (b : KeptBlock) (c : Contents) : Placement :=
  { q with blocks := Function.update q.blocks id (some b), contents := c }

@[simp] theorem blocks_put (q : Placement) (id : UInt32) (b : KeptBlock) (c : Contents) :
    (q.put id b c).blocks = Function.update q.blocks id (some b) := rfl

theorem blocks_put_eq_some {id' : UInt32} (found : (q.put id b c).blocks id' = some b') :
    id' = id ∧ b' = b ∨ id' ≠ id ∧ q.blocks id' = some b' := by
  rw [blocks_put, Function.update_apply] at found
  split at found
  · exact .inl ⟨‹_›, (Option.some.inj found).symm⟩
  · exact .inr ⟨‹_›, found⟩

/-- One block may change its bytes, together with its native buffer. -/
theorem Sound.put (h : q.Sound) (found : q.blocks id = some b)
    (length : b'.bytes.length = b.bytes.length) (grows : q.contents.length ≤ c.length)
    (held : b'.LiesIn (c.of (q.room id)))
    (others : ∀ other : Buffer, other.id < q.contents.length → other.id ≠ (q.room id).id →
      c.of other = q.contents.of other) :
    (q.put id b' c).Sound ∧ q.Carries (q.put id b' c) := by
  have before {id' : UInt32} {b'' : KeptBlock} (found' : (q.put id b' c).blocks id' = some b'') :
      ∃ b, q.blocks id' = some b := by
    obtain ⟨rfl, -⟩ | ⟨-, found'⟩ := blocks_put_eq_some found'
    · exact ⟨b, found⟩
    · exact ⟨b'', found'⟩
  refine ⟨⟨fun found' => ?_, fun found' => ?_, fun found' found'' same => ?_⟩,
    ⟨fun _ => rfl, fun {id' b''} found' => ?_, fun spare => ⟨⟨?_, fun found' => ?_⟩, ?_⟩⟩⟩
  · obtain ⟨_, found'⟩ := before found'
    exact Nat.lt_of_lt_of_le (h.stored found') grows
  · obtain ⟨rfl, rfl⟩ | ⟨other, found'⟩ := blocks_put_eq_some found'
    · exact held
    · have same := others _ (h.stored found') fun same => other (h.apart found' found same)
      exact same.symm ▸ h.held found'
  · obtain ⟨_, found'⟩ := before found'
    obtain ⟨_, found''⟩ := before found''
    exact h.apart found' found'' same
  · by_cases here : id' = id
    · refine ⟨b', ?_, ?_⟩
      · rw [here, blocks_put, Function.update_self]
      · rw [here, found] at found'
        rw [length, Option.some.inj found']
    · refine ⟨b'', ?_, rfl⟩
      rw [blocks_put, Function.update_of_ne here, found']
  · exact Nat.lt_of_lt_of_le spare.stored grows
  · obtain ⟨_, found'⟩ := before found'
    exact spare.apart found'
  · exact others _ spare.stored fun same => spare.apart found same.symm

/-- Bytes written into the native buffer of a block are written into the block. -/
theorem Sound.patched (h : q.Sound) (found : q.blocks id = some b) {offset : Nat} {data : Bytes}
    (fits : offset + data.length ≤ b.bytes.length) (bytes : b'.bytes = b.bytes.splice offset data)
    {p p' : Platform} (contents : q.contents = p.contents)
    (rewritten : p.Rewritten (q.room id)
      ((p.contents.of (q.room id)).toBytes.splice offset data) p') :
    (q.put id b' p'.contents).Sound ∧ q.Carries (q.put id b' p'.contents) := by
  have length : b'.bytes.length = b.bytes.length :=
    (congrArg List.length bytes).trans (Bytes.length_splice fits)
  refine h.put found length (contents ▸ rewritten.grows) ?_ (contents ▸ rewritten.others)
  rw [KeptBlock.LiesIn, rewritten.patched, length, Bytes.take_splice fits, ← contents,
    h.held found, bytes]

/-- All but the bytes of a block may be changed, and native buffers made. -/
theorem Sound.relabelled (h : q.Sound) (found : q.blocks id = some b) (bytes : b'.bytes = b.bytes)
    {p p' : Platform} (contents : q.contents = p.contents) (grown : p.Extends p') :
    (q.put id b' p'.contents).Sound ∧ q.Carries (q.put id b' p'.contents) := by
  have rewritten := grown.rewritten (contents ▸ h.stored found)
  rw [← Bytes.splice_nil (p.contents.of (q.room id)).toBytes 0] at rewritten
  exact h.patched found (by simp) (bytes.trans (Bytes.splice_nil _ 0).symm) contents rewritten

def on (q : Placement) (p : Platform) : Placement := { q with contents := p.contents }

theorem Sound.extended (h : q.Sound) {p p' : Platform} (contents : q.contents = p.contents)
    (grown : p.Extends p') : (q.on p').Sound ∧ q.Carries (q.on p') := by
  have grows : q.contents.length ≤ p'.contents.length := contents ▸ grown.grows
  have old (buffer : Buffer) (stored : buffer.id < q.contents.length) :
      p'.contents.of buffer = q.contents.of buffer := by
    rw [contents] at stored ⊢
    exact grown.old buffer stored
  refine ⟨⟨fun found => ?_, fun found => ?_, h.apart⟩,
    ⟨fun _ => rfl, fun found => ⟨_, found, rfl⟩, fun spare => ⟨⟨?_, spare.apart⟩, ?_⟩⟩⟩
  · exact Nat.lt_of_lt_of_le (h.stored found) grows
  · exact (old _ (h.stored found)).symm ▸ h.held found
  · exact Nat.lt_of_lt_of_le spare.stored grows
  · exact old _ spare.stored

/-- The placement with a new block in the newest of the native buffers. -/
def add (q : Placement) (id : UInt32) (b : KeptBlock) (buffer : Buffer) (held : Storage) :
    Placement where
  blocks := Function.update q.blocks id (some b)
  room := Function.update q.room id buffer
  contents := q.contents ++ [held]

theorem Sound.added (h : q.Sound) (new : q.blocks id = none) {buffer : Buffer} {held : Storage}
    (newest : buffer.id = q.contents.length) (holds : b.LiesIn held) :
    (q.add id b buffer held).Sound ∧ q.Carries (q.add id b buffer held) := by
  have grows : q.contents.length < (q.contents ++ [held]).length := by
    rw [List.length_append]
    exact Nat.lt_succ_self _
  have known {id' : UInt32} {b' : KeptBlock} (found : q.blocks id' = some b') : id' ≠ id := by
    rintro rfl
    cases new.symm.trans found
  -- A block is the new one, or it was there and its room is an older buffer.
  have room {id' : UInt32} {b' : KeptBlock}
      (found : (q.add id b buffer held).blocks id' = some b') :
      id' = id ∧ b' = b ∧ (q.add id b buffer held).room id' = buffer ∨
        q.blocks id' = some b' ∧ (q.add id b buffer held).room id' = q.room id' := by
    simp only [add, Function.update_apply] at found ⊢
    split at found
    · rename_i here
      exact .inl ⟨here, (Option.some.inj found).symm, if_pos here⟩
    · rename_i there
      exact .inr ⟨found, if_neg there⟩
  refine ⟨⟨fun found => ?_, fun found => ?_, fun found found' same => ?_⟩,
    ⟨fun found => ?_, fun found => ⟨_, ?_, rfl⟩, fun spare => ⟨⟨?_, fun found => ?_⟩, ?_⟩⟩⟩
  · obtain ⟨-, -, isNew⟩ | ⟨found, old⟩ := room found
    · rw [isNew, newest]
      exact grows
    · rw [old]
      exact Nat.lt_trans (h.stored found) grows
  · obtain ⟨-, rfl, isNew⟩ | ⟨found, old⟩ := room found
    · rw [isNew, add, Contents.of_append_new newest]
      exact holds
    · rw [old, add, Contents.of_append (h.stored found)]
      exact h.held found
  · obtain ⟨here, -, isNew⟩ | ⟨found, old⟩ := room found
    · obtain ⟨here', -, -⟩ | ⟨found', old'⟩ := room found'
      · exact here.trans here'.symm
      · rw [isNew, old', newest] at same
        exact absurd (h.stored found') (Nat.not_lt.2 (Nat.le_of_eq same))
    · obtain ⟨-, -, isNew'⟩ | ⟨found', old'⟩ := room found'
      · rw [old, isNew', newest] at same
        exact absurd (h.stored found) (Nat.not_lt.2 (Nat.le_of_eq same.symm))
      · rw [old, old'] at same
        exact h.apart found found' same
  · exact Function.update_of_ne (known found) _ _
  · exact (Function.update_of_ne (known found) _ _).trans found
  · exact Nat.lt_trans spare.stored grows
  · obtain ⟨-, -, isNew⟩ | ⟨found, old⟩ := room found
    · rw [isNew, newest]
      exact (Nat.ne_of_lt spare.stored).symm
    · rw [old]
      exact spare.apart found
  · exact Contents.of_append spare.stored _

end Placement

/-! ## Commands that stand for effects -/

/-- The native commands that an effect was recorded as. A fill is a clear or a copy of a native
buffer that holds the repeated word; a fill of no bytes is nothing at all. -/
inductive Effect.Issued (q : Placement) : Effect → List Command → Prop where
  | copy {src dst : UInt32} {srcOffset dstOffset size : Nat} {b b' : KeptBlock}
    (source : q.blocks src = some b) (inside : srcOffset + size ≤ b.bytes.length)
    (target : q.blocks dst = some b') (fits : dstOffset + size ≤ b'.bytes.length) :
    Issued q (.copy src srcOffset dst dstOffset size)
      [.copy (q.room src) srcOffset (q.room dst) dstOffset size]
  | clear {id : UInt32} {offset size : Nat} {b : KeptBlock} (target : q.blocks id = some b)
    (fits : offset + size ≤ b.bytes.length) (aligned : isAligned size = true) :
    Issued q (.fill id offset size 0) [.clear (q.room id) offset size]
  | pattern {id : UInt32} {offset size : Nat} {word : UInt32} {b : KeptBlock} {buffer : Buffer}
    (target : q.blocks id = some b) (fits : offset + size ≤ b.bytes.length)
    (aligned : isAligned size = true) (spare : q.Spare buffer)
    (repeats : (q.contents.of buffer).toBytes = .repeated (size / 4) word) :
    Issued q (.fill id offset size word) [.copy buffer 0 (q.room id) offset size]
  | nothing {id : UInt32} {offset : Nat} {word : UInt32} : Issued q (.fill id offset 0 word) []

def Placement.Issues (q : Placement) (effects : List Effect) (commands : List Command) : Prop :=
  ∃ parts, List.Forall₂ (Effect.Issued q) effects parts ∧ parts.flatten = commands

theorem div_mul_of_isAligned {n : Nat} (aligned : isAligned n = true) : n / 4 * 4 = n := by
  have boundary : n % 4 = 0 := of_decide_eq_true aligned
  omega

namespace Placement

variable {q q' : Placement} {e : Effect} {effects : List Effect} {commands : List Command}

theorem Carries.issued (carries : q.Carries q') (issued : e.Issued q commands) :
    e.Issued q' commands := by
  cases issued with
  | copy source inside target fits =>
    obtain ⟨_, source', length⟩ := carries.block source
    obtain ⟨_, target', length'⟩ := carries.block target
    rw [← carries.room source, ← carries.room target]
    exact .copy source' (length.symm ▸ inside) target' (length'.symm ▸ fits)
  | clear target fits aligned =>
    obtain ⟨_, target', length⟩ := carries.block target
    rw [← carries.room target]
    exact .clear target' (length.symm ▸ fits) aligned
  | pattern target fits aligned spare repeats =>
    obtain ⟨_, target', length⟩ := carries.block target
    obtain ⟨spare', same⟩ := carries.spare spare
    rw [← carries.room target]
    exact .pattern target' (length.symm ▸ fits) aligned spare' (same.symm ▸ repeats)
  | nothing => exact .nothing

theorem Carries.issues (carries : q.Carries q') (issues : q.Issues effects commands) :
    q'.Issues effects commands := by
  obtain ⟨parts, issued, flat⟩ := issues
  exact ⟨parts, issued.imp fun _ _ => carries.issued, flat⟩

theorem issues_nil (q : Placement) : q.Issues [] [] := ⟨[], .nil, rfl⟩

theorem Issues.snoc {more : List Command} (issues : q.Issues effects commands)
    (issued : e.Issued q more) : q.Issues (effects ++ [e]) (commands ++ more) := by
  obtain ⟨parts, each, rfl⟩ := issues
  refine ⟨parts ++ [more], List.rel_append each (.cons issued .nil), ?_⟩
  rw [List.flatten_append, List.flatten_singleton]

def run (q : Placement) (effects : List Effect) (commands : List Command) : Placement :=
  { q with blocks := q.blocks.run effects, contents := runCommands q.contents commands }

theorem Sound.written (h : q.Sound) {id : UInt32} {b : KeptBlock} (found : q.blocks id = some b)
    {offset : Nat} {data : Storage} {bytes : Bytes} (same : data.toBytes = bytes)
    (fits : offset + bytes.length ≤ b.bytes.length) :
    let q' : Placement := { q with
      blocks := q.blocks.patch id offset bytes
      contents := q.contents.write (q.room id) offset data }
    q'.Sound ∧ q.Carries q' := by
  let p : Platform := { contents := q.contents }
  have start := (Evolution.refl (R := Platform.Extends) p).rewritten (h.stored found)
  let b' : KeptBlock := { b with bytes := b.bytes.splice offset data.toBytes }
  have patched := h.patched found (same.symm ▸ fits) (rfl : b'.bytes = _) rfl
    (start.queueWrite (h.stored found) offset data)
  simp only [Blocks.patch, Blocks.alter_of_some found, ← same]
  exact patched

/-- The commands that an effect was recorded as do to native buffers what it does to blocks. -/
theorem Sound.apply (h : q.Sound) (issued : e.Issued q commands) :
    (q.run [e] commands).Sound ∧ q.Carries (q.run [e] commands) := by
  cases issued with
  | copy source inside target fits =>
    have bytes := Blocks.bytes_of_some source
    refine h.written target ?_ ?_
    · rw [Storage.toBytes_slice, bytes, ← h.held source, Bytes.slice_take inside]
    · rwa [bytes, Bytes.length_slice_of_le inside]
  | clear target fits aligned =>
    have size := div_mul_of_isAligned aligned
    refine h.written target ?_ ?_
    · rw [Storage.toBytes_zeros, Bytes.repeated_zero, size]
    · rwa [Bytes.length_repeated, size]
  | pattern target fits aligned spare repeats =>
    have size := div_mul_of_isAligned aligned
    refine h.written target ?_ ?_
    · rw [Storage.toBytes_slice, repeats, Bytes.slice, List.drop_zero]
      exact List.take_of_length_le (Nat.le_of_eq ((Bytes.length_repeated _ _).trans size))
    · rwa [Bytes.length_repeated, size]
  | nothing =>
    rename_i id offset word
    have same : q.run [.fill id offset 0 word] [] = q :=
      congrArg (fun blocks => { q with blocks }) (q.blocks.patch_nil id offset)
    rw [same]
    exact ⟨h, Evolution.refl q⟩

/-- So do the commands of a whole list, and any other commands that move the same. -/
theorem Sound.run (h : q.Sound) (issues : q.Issues effects commands) :
    (q.run effects commands).Sound ∧ q.Carries (q.run effects commands) := by
  obtain ⟨parts, each, rfl⟩ := issues
  -- Placements carry what is still to be run over from one effect to the next.
  induction effects generalizing q parts with
  | nil =>
    cases each
    exact ⟨h, Evolution.refl q⟩
  | cons e effects ih =>
    obtain ⟨part, parts, issued, rest, rfl⟩ := List.forall₂_cons_left_iff.1 each
    obtain ⟨sound, carries⟩ := h.apply issued
    obtain ⟨sound', carries'⟩ := ih sound parts (rest.imp fun _ _ => carries.issued)
    have whole : q.run (e :: effects) (part :: parts).flatten =
        (q.run [e] part).run effects parts.flatten := by
      simp [Placement.run, Blocks.run, runCommands_append]
    rw [whole]
    exact ⟨sound', Evolution.trans carries carries'⟩

end Placement

end DeviceLayer
