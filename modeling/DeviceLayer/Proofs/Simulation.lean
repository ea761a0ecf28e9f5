import DeviceLayer.Proofs.Store
import DeviceLayer.Proofs.Windows

/-!
# Devices that stand for plain memory

A device stands for plain memory: the padding, the staging buffers and the native buffers themselves
are not to be seen in it.

* `Gpu.store` — the plain memory that a device stands for.
* `Gpu.Backed` — the invariant: every allocation has a native buffer of its own, with room for it.
* `Backed.patched`, `inserted`, `remapped`, `erased` — changes that keep the invariant.
* `Simulates` — a device does what plain memory does; simulations compose along binds.
-/

namespace DeviceLayer

open DeviceLayer.Action

/-! ## What a device stands for -/

def HostMapping.copy (m : HostMapping) : HostCopy := ⟨m.offset, m.shadow.toBytes⟩

/-- The block that an allocation stands for: the first bytes of its buffer, without the padding. -/
def BufferAllocation.block (c : Contents) (a : BufferAllocation) : Block where
  params := a.params
  bytes := (c.of a.buffer).toBytes.take a.size
  copy := a.mapping.map HostMapping.copy

def Gpu.store (s : Live Gpu) : Store where
  device := s.device.id
  limit := s.device.limits.maxBufferSize
  next := s.device.nextAlloc
  blocks := s.device.buffers.mapValues fun a => a.block s.platform.contents

/-- The native buffer of an allocation has room for it, and what is mapped lies inside it. -/
structure BufferAllocation.Backed (p : Platform) (a : BufferAllocation) : Prop where
  roomy : p.Roomy a.buffer
  room : a.size ≤ p.bufferSize a.buffer
  mapped : ∀ m, a.mapping = some m → m.offset + m.shadow.size ≤ a.size

theorem BufferAllocation.Backed.of_same {p q : Platform} {a : BufferAllocation} (h : a.Backed p)
    (grows : p.contents.length ≤ q.contents.length)
    (same : q.bufferSize a.buffer = p.bufferSize a.buffer) : a.Backed q := by
  obtain ⟨⟨known, aligned, within, small⟩, room, mapped⟩ := h
  rw [← same] at aligned within small room
  exact ⟨⟨Nat.lt_of_lt_of_le known grows, aligned, within, small⟩, room, mapped⟩

/-- No poll fails, and every allocation has a native buffer of its own. -/
structure Gpu.Backed (s : Live Gpu) : Prop where
  answers : s.platform.Answers
  fit : s.device.limits.Fit
  backed : ∀ {id a}, s.device.buffers.get? id = some a → a.Backed s.platform
  apart : ∀ {id id' a a'}, s.device.buffers.get? id = some a →
    s.device.buffers.get? id' = some a' → a.buffer.id = a'.buffer.id → id = id'

namespace Gpu

variable {s : Live Gpu} {id : UInt32} {a : BufferAllocation}

theorem get?_store (s : Live Gpu) (id : UInt32) :
    (store s).blocks.get? id =
      (s.device.buffers.get? id).map fun a => a.block s.platform.contents :=
  SortedMap.get?_mapValues _ _ _

theorem Backed.length_block (h : Backed s) (held : s.device.buffers.get? id = some a) :
    (a.block s.platform.contents).bytes.length = a.size := by
  have room := (h.backed held).room
  rw [BufferAllocation.block, List.length_take, Storage.length_toBytes]
  exact Nat.min_eq_left room

/-- Patching the native buffer of an allocation patches its block and no other. -/
theorem Backed.patched (h : Backed s) (held : s.device.buffers.get? id = some a) {bytes : Bytes}
    {q : Platform} (patched : s.platform.Patched a.buffer bytes q)
    (length : bytes.length = s.platform.bufferSize a.buffer) :
    Backed ⟨q, s.device⟩ ∧ store ⟨q, s.device⟩ =
      (store s).insert id { a.block s.platform.contents with bytes := bytes.take a.size } := by
  have size {id' a'} (held' : s.device.buffers.get? id' = some a') :
      q.bufferSize a'.buffer = s.platform.bufferSize a'.buffer := by
    unfold Platform.bufferSize
    by_cases same : a'.buffer.id = a.buffer.id
    · rw [Contents.of_congr same, Contents.of_congr same, ← Storage.length_toBytes,
        patched.patched, length]
      rfl
    · rw [patched.others _ (h.backed held').roomy.known same]
  -- No buffer changes its size, so that every allocation keeps its room.
  constructor
  · exact ⟨patched.answers, h.fit,
      fun held' => (h.backed held').of_same patched.grows (size held'), h.apart⟩
  · have blocks : (store ⟨q, s.device⟩).blocks = (store s).blocks.insert id
        { a.block s.platform.contents with bytes := bytes.take a.size } := by
      refine SortedMap.ext_get? fun id' => ?_
      by_cases same : id' = id
      · rw [same, get?_store, SortedMap.get?_insert_self, held, Option.map_some,
          BufferAllocation.block, patched.patched]
        rfl
      · -- Another allocation has another buffer, and that was left as it is.
        rw [SortedMap.get?_insert_of_ne _ _ same, get?_store, get?_store]
        cases held' : s.device.buffers.get? id' with
        | none => rfl
        | some a' =>
          have apart : a'.buffer.id ≠ a.buffer.id := fun equal => same (h.apart held' held equal)
          have kept := patched.others _ (h.backed held').roomy.known apart
          rw [Option.map_some, Option.map_some, BufferAllocation.block, kept]
          rfl
    unfold Store.insert
    rw [← blocks]
    rfl

theorem Backed.inserted (h : Backed s) (id : UInt32) (backed : a.Backed s.platform)
    (alone : ∀ {id' a'}, s.device.buffers.get? id' = some a' → a'.buffer.id = a.buffer.id →
      id' = id) :
    Backed { s with device.buffers := s.device.buffers.insert id a } ∧
      store { s with device.buffers := s.device.buffers.insert id a } =
        (store s).insert id (a.block s.platform.contents) := by
  have old {id' a'} (held : (s.device.buffers.insert id a).get? id' = some a') :
      id' = id ∧ a' = a ∨ id' ≠ id ∧ s.device.buffers.get? id' = some a' := by
    by_cases same : id' = id
    · rw [same, SortedMap.get?_insert_self] at held
      exact .inl ⟨same, (Option.some.inj held).symm⟩
    · rw [SortedMap.get?_insert_of_ne _ _ same] at held
      exact .inr ⟨same, held⟩
  constructor
  · refine ⟨h.answers, h.fit, fun held => ?_, fun held held' equal => ?_⟩
    · rcases old held with ⟨-, rfl⟩ | ⟨-, wasHeld⟩
      · exact backed
      · exact h.backed wasHeld
    · rcases old held with ⟨isNew, rfl⟩ | ⟨other, wasHeld⟩
      · rcases old held' with ⟨isNew', -⟩ | ⟨other, wasHeld⟩
        · exact isNew.trans isNew'.symm
        · exact absurd (alone wasHeld equal.symm) other
      · rcases old held' with ⟨-, rfl⟩ | ⟨-, wasHeld'⟩
        · exact absurd (alone wasHeld equal) other
        · exact h.apart wasHeld wasHeld' equal
  · unfold store Store.insert
    rw [SortedMap.mapValues_insert]
    rfl

theorem Backed.erased (h : Backed s) (id : UInt32) :
    Backed { s with device.buffers := s.device.buffers.erase id } ∧
      store { s with device.buffers := s.device.buffers.erase id } =
        { store s with blocks := (store s).blocks.erase id } := by
  constructor
  · refine ⟨h.answers, h.fit, fun held => h.backed (SortedMap.get?_of_erase held), ?_⟩
    intro id' id'' a a' held held'
    exact h.apart (SortedMap.get?_of_erase held) (SortedMap.get?_of_erase held')
  · unfold store
    rw [SortedMap.mapValues_erase]
    rfl

theorem Backed.remapped (h : Backed s) (held : s.device.buffers.get? id = some a)
    {mapping : Option HostMapping}
    (mapped : ∀ m, mapping = some m → m.offset + m.shadow.size ≤ a.size) :
    Backed { s with device.buffers := s.device.buffers.insert id { a with mapping } } ∧
      store { s with device.buffers := s.device.buffers.insert id { a with mapping } } =
        (store s).insert id
          { a.block s.platform.contents with copy := mapping.map HostMapping.copy } := by
  obtain ⟨roomy, room, -⟩ := h.backed held
  exact h.inserted id ⟨roomy, room, mapped⟩ fun held' same => h.apart held' held same

end Gpu

/-! ## Simulation -/

/-- The device does what plain memory does: they end in the same way, their results are related, and
the device stands for what plain memory has become. -/
def Simulates {α β : Type} (R : α → β → Live Gpu → Prop) (a : Action (Live Gpu) α)
    (b : Action Store β) (s : Live Gpu) : Prop :=
  a.wp (fun x t => Gpu.Backed t ∧ ∃ y, b (Gpu.store s) = .ok y (Gpu.store t) ∧ R x y t)
    (fun e t => Gpu.Backed t ∧ b (Gpu.store s) = .error e (Gpu.store t)) s

namespace Simulates

variable {α β γ δ : Type} {R : α → β → Live Gpu → Prop} {R' : γ → δ → Live Gpu → Prop}
  {s : Live Gpu}

theorem pure (h : Gpu.Backed s) {x : α} {y : β} (related : R x y s) :
    Simulates R (Pure.pure x) (Pure.pure y) s := ⟨h, y, rfl, related⟩

theorem bind {a : Action (Live Gpu) α} {b : Action Store β} {f : α → Action (Live Gpu) γ}
    {g : β → Action Store δ} (first : Simulates R a b s)
    (rest : ∀ x y t, Gpu.Backed t → R x y t → Simulates R' (f x) (g y) t) :
    Simulates R' (a >>= f) (b >>= g) s := by
  unfold Simulates
  rw [wp_bind]
  refine first.mono ?_ ?_
  · rintro x t ⟨backed, y, ended, related⟩
    have continued : (b >>= g) (Gpu.store s) = g y (Gpu.store t) := by
      simp only [Bind.bind, EStateM.bind, ended]
    rw [continued]
    exact rest x y t backed related
  · rintro e t ⟨backed, ended⟩
    refine ⟨backed, ?_⟩
    simp only [Bind.bind, EStateM.bind, ended]

/-- A first part that both only look at changes nothing. -/
theorem bindStill {P : α → β → Prop} {a : Action (Live Gpu) α} {b : Action Store β}
    {f : α → Action (Live Gpu) γ} {g : β → Action Store δ}
    (first : Simulates (fun x y t => s = t ∧ P x y) a b s)
    (rest : ∀ x y, P x y → Simulates R' (f x) (g y) s) :
    Simulates R' (a >>= f) (b >>= g) s := by
  refine first.bind ?_
  rintro x y _ - ⟨rfl, holds⟩
  exact rest x y holds

/-- The device may do something first that plain memory knows nothing of. -/
theorem stutter {a : Action (Live Gpu) γ} {f : γ → Action (Live Gpu) α} {b : Action Store β}
    {P : γ → Live Gpu → Prop}
    (first : a.wp (fun x t => Gpu.Backed t ∧ Gpu.store t = Gpu.store s ∧ P x t)
      (fun _ _ => False) s)
    (rest : ∀ x t, Gpu.Backed t → P x t → Simulates R (f x) b t) :
    Simulates R (a >>= f) b s := by
  unfold Simulates
  rw [wp_bind]
  refine first.mono ?_ fun _ _ => False.elim
  rintro x t ⟨backed, same, holds⟩
  rw [← same]
  exact rest x t backed holds

theorem reread {f : Gpu → Action (Live Gpu) α} {b : Action Store β}
    (rest : Simulates R (f s.device) b s) : Simulates R (Live.self >>= f) b s := rest

/-- The device may do something that changes nothing for plain memory. -/
theorem silent {a : Action (Live Gpu) α} {y : β}
    (changes : a.wp (fun x t => Gpu.Backed t ∧ Gpu.store t = Gpu.store s ∧ R x y t)
      (fun _ _ => False) s) : Simulates R a (Pure.pure y) s := by
  refine changes.mono ?_ fun _ _ => False.elim
  rintro x t ⟨backed, same, related⟩
  rw [← same]
  exact ⟨backed, y, rfl, related⟩

/-- The device may do something that puts a block in its place. -/
theorem put {a : Action (Live Gpu) α} {id : UInt32} {b : Block} {R : α → Unit → Live Gpu → Prop}
    (changes : a.wp (fun x t => Gpu.Backed t ∧ Gpu.store t = (Gpu.store s).insert id b ∧ R x () t)
      (fun _ _ => False) s) : Simulates R a (Store.put id b) s := by
  refine changes.mono ?_ fun _ _ => False.elim
  rintro x t ⟨backed, stands, related⟩
  have ran : Store.put id b (Gpu.store s) = .ok () (Gpu.store t) := stands ▸ rfl
  exact ⟨backed, (), ran, related⟩

theorem map {a : Action (Live Gpu) α} {b : Action Store β} {f : α → γ} {g : β → γ}
    (h : Simulates R a b s) (same : ∀ x y t, R x y t → f x = g y) :
    Simulates (fun x y _ => x = y) (f <$> a) (g <$> b) s := by
  rw [map_eq_pure_bind, map_eq_pure_bind]
  exact h.bind fun x y t backed related => .pure backed (same x y t related)

theorem self (h : Gpu.Backed s) :
    Simulates (fun g u t => s = t ∧ s.device = g ∧ Gpu.store s = u) Live.self get s :=
  ⟨h, _, rfl, rfl, rfl, rfl⟩

theorem throw (h : Gpu.Backed s) (e : Fault) :
    Simulates R (MonadExcept.throw e) (MonadExcept.throw e) s := ⟨h, rfl⟩

theorem require (h : Gpu.Backed s) (holds : Bool) (cause : Precondition) :
    Simulates (fun _ _ t => s = t ∧ holds = true) (Action.require holds cause)
      (Action.require holds cause) s := by
  cases holds with
  | true => exact ⟨h, (), rfl, rfl, rfl⟩
  | false => exact ⟨h, rfl⟩

theorem orRefuse (h : Gpu.Backed s) {value : Option α} {value' : Option β} {view : α → β}
    (same : value' = value.map view) (cause : Precondition) :
    Simulates (fun x y t => s = t ∧ value = some x ∧ view x = y) (Action.orRefuse value cause)
      (Action.orRefuse value' cause) s := by
  subst same
  cases value with
  | none => exact ⟨h, rfl⟩
  | some x => exact ⟨h, view x, rfl, rfl, rfl, rfl⟩

theorem ite {p : Prop} [Decidable p] {a a' : Action (Live Gpu) α} {b b' : Action Store β}
    (yes : p → Simulates R a b s) (no : ¬p → Simulates R a' b' s) :
    Simulates R (if p then a else a') (if p then b else b') s := by
  split
  · exact yes ‹p›
  · exact no ‹¬p›

theorem check (h : Gpu.Backed s) (result : Except Fault α) :
    Simulates (fun x y t => s = t ∧ x = y ∧ result = .ok x) (Action.check result)
      (Action.check result) s := by
  cases result with
  | error e => exact ⟨h, rfl⟩
  | ok x => exact ⟨h, x, rfl, rfl, rfl, rfl⟩

end Simulates

end DeviceLayer
