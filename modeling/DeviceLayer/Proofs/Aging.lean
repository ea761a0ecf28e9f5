import DeviceLayer.Proofs.Tables

/-!
# Ids of buffers and images

Buffers and images of a device are numbered by one counter. It only goes up, also when what it
numbered is gone, so an id stands for one thing in the whole life of a device.

* `Device.holds`, `Device.Sound` — what is behind an id; ids in use were given, each for one thing.
* `Device.Ages` — ids were given, or given up.
* `Device.Gives`, `Device.Spent` — a handle that is new, and an id with nothing behind it any more.
* `Call.ages` — whatever a client asks, a graphics processor ages.
-/

namespace DeviceLayer

open DeviceLayer.Action

theorem SortedMap.isSome_insert {κ α : Type} [Ranked κ] (m : SortedMap κ α) (k q : κ) (v : α) :
    ((m.insert k v).get? q).isSome = true ↔ q = k ∨ (m.get? q).isSome = true := by
  rw [get?_insert]
  by_cases here : q = k
  · simp [here]
  · simp [mt Ranked.rank_inj here, here]

theorem SortedMap.isSome_erase {κ α : Type} [Ranked κ] (m : SortedMap κ α) (k q : κ) :
    ((m.erase k).get? q).isSome = true ↔ q ≠ k ∧ (m.get? q).isSome = true := by
  rw [get?_erase]
  by_cases here : q = k
  · simp [here]
  · simp [mt Ranked.rank_inj here, here]

/-- What a handle is for. -/
inductive Role where
  | buffer
  | image
  deriving DecidableEq

namespace Device

def nextAlloc : Device → UInt32
  | .host h => h.nextAlloc
  | .gpu g => g.nextAlloc
  | .remote r => r.nextAlloc

/-- Whether the device keeps track of its handles. One behind a transport does not. -/
def tracks : Device → Bool
  | .host _ | .gpu _ => true
  | .remote _ => false

/-- Whether something is behind an id. -/
def holds : Device → Role → UInt32 → Bool
  | .host h, .buffer, id => (h.blocks.get? id).isSome
  | .gpu g, .buffer, id => (g.buffers.get? id).isSome
  | .gpu g, .image, id => (g.images.get? id).isSome
  | .host _, .image, _ | .remote _, _, _ => false

/-- Only ids that were given are in use, each for one thing. -/
structure Sound (d : Device) : Prop where
  numbered : ∀ {role id}, d.holds role id = true → id < d.nextAlloc
  apart : ∀ {role role' id}, d.holds role id = true → d.holds role' id = true → role = role'

theorem Sound.of_empty {d : Device} (empty : ∀ role id, d.holds role id = false) : d.Sound :=
  ⟨fun here => Bool.noConfusion ((empty _ _).symm.trans here),
    fun here => Bool.noConfusion ((empty _ _).symm.trans here)⟩

/-- Ids were given, or given up. -/
structure Ages (d d' : Device) : Prop where
  tracks : d'.tracks = d.tracks
  nextAlloc : d.nextAlloc ≤ d'.nextAlloc
  held : ∀ {role id}, d'.holds role id = true → d.holds role id = true ∨ d.nextAlloc ≤ id
  sound : d.Sound → d'.Sound

namespace Ages

variable {d d' d'' : Device}

/-- No id is in use that was not. -/
theorem of_fewer (tracks : d'.tracks = d.tracks) (nextAlloc : d.nextAlloc ≤ d'.nextAlloc)
    (fewer : ∀ role id, d'.holds role id = true → d.holds role id = true) : d.Ages d' where
  tracks := tracks
  nextAlloc := nextAlloc
  held here := .inl (fewer _ _ here)
  sound sound :=
    { numbered := fun here => UInt32.lt_of_lt_of_le (sound.numbered (fewer _ _ here)) nextAlloc
      apart := fun here here' => sound.apart (fewer _ _ here) (fewer _ _ here') }

/-- The next id was given. -/
theorem of_next (role : Role) (tracks : d'.tracks = d.tracks) (less : d.nextAlloc < d'.nextAlloc)
    (added : ∀ role' id, d'.holds role' id = true →
      d.holds role' id = true ∨ role' = role ∧ id = d.nextAlloc) : d.Ages d' where
  tracks := tracks
  nextAlloc := UInt32.le_of_lt less
  held here := (added _ _ here).imp_right fun ⟨_, new⟩ => new ▸ UInt32.le_refl _
  sound sound := by
    refine ⟨fun here => ?_, fun {role₁ role₂ id} here here' => ?_⟩
    · rcases added _ _ here with old | ⟨-, rfl⟩
      · exact UInt32.lt_trans (sound.numbered old) less
      · exact less
    · -- Nothing was behind the next id before.
      rcases added _ _ here with old | ⟨rfl, rfl⟩
      · rcases added _ _ here' with old' | ⟨rfl, rfl⟩
        · exact sound.apart old old'
        · exact absurd (sound.numbered old) (UInt32.lt_irrefl _)
      · rcases added _ _ here' with old' | ⟨rfl, -⟩
        · exact absurd (sound.numbered old') (UInt32.lt_irrefl _)
        · rfl

theorem refl (d : Device) : d.Ages d := of_fewer rfl (UInt32.le_refl _) fun _ _ here => here

theorem trans (first : d.Ages d') (second : d'.Ages d'') : d.Ages d'' where
  tracks := second.tracks.trans first.tracks
  nextAlloc := UInt32.le_trans first.nextAlloc second.nextAlloc
  held here := by
    rcases second.held here with before | new
    · exact first.held before
    · exact .inr (UInt32.le_trans first.nextAlloc new)
  sound sound := second.sound (first.sound sound)

end Ages

theorem ages_withId (d : Device) (id : DeviceId) : d.Ages (d.withId id) := by
  cases d <;> exact .of_fewer rfl (UInt32.le_refl _) fun role _ here => by cases role <;> exact here

/-- The handle that a device gives is its own and has the next id. -/
structure Gives (d : Device) (alloc : Allocation) (d' : Device) : Prop where
  alloc_eq : alloc = ⟨d.id, d.nextAlloc⟩
  less : d.nextAlloc < d'.nextAlloc

/-- The id was given, and nothing is behind it any more. -/
structure Spent (d : Device) (id : UInt32) : Prop where
  given : id < d.nextAlloc
  gone : ∀ role, d.holds role id = false

theorem Ages.spent {d d' : Device} {id : UInt32} (h : d.Ages d') (spent : d.Spent id) :
    d'.Spent id := by
  refine ⟨UInt32.lt_of_lt_of_le spent.given h.nextAlloc, fun role => Bool.eq_false_iff.2 ?_⟩
  intro here
  rcases h.held here with before | new
  · exact Bool.eq_false_iff.1 (spent.gone role) before
  · exact absurd spent.given (UInt32.not_lt.2 new)

end Device

/-! ## Host memory -/

namespace Host

def Ages (h h' : Host) : Prop := (Device.host h).Ages (.host h')

instance : Evolution Ages := ⟨fun h => .refl (.host h), fun first second => first.trans second⟩

theorem ages_fewer {h : Host} {blocks : SortedMap UInt32 HostBlock}
    (fewer : ∀ id, (blocks.get? id).isSome = true → (h.blocks.get? id).isSome = true) :
    Ages h { h with blocks := blocks } := by
  refine .of_fewer rfl (UInt32.le_refl _) fun role id here => ?_
  cases role with
  | buffer => exact fewer id here
  | image => exact here

theorem ages_put {h : Host} {id : UInt32} {b : HostBlock} (found : h.blocks.get? id = some b)
    (b' : HostBlock) : Ages h { h with blocks := h.blocks.insert id b' } := by
  refine ages_fewer fun other here => ?_
  rcases (SortedMap.isSome_insert _ _ _ _).1 here with rfl | before
  · rw [found]
    rfl
  · exact before

instance : Frame Ages := ⟨fun found _ => ages_put found _⟩

theorem ages_allocate (params : AllocParams) (h : Host) :
    (allocate params).wp
      (fun alloc t => Ages h t ∧ (Device.host h).Gives alloc (.host t)) (fun _ t => Ages h t)
      h := by
  have same : Ages h h := Evolution.refl h
  simp only [allocate, wp_bind, wp_checked, wp_get, wp_check, wp_set, wp_pure]
  refine ⟨fun _ _ => ⟨?_, fun _ _ => same⟩, fun _ _ => same⟩
  rintro ⟨id, next⟩ taken
  obtain ⟨rfl, less⟩ := Gpu.takeNumber_eq_ok taken
  refine ⟨.of_next .buffer rfl less fun role id here => ?_, rfl, less⟩
  cases role with
  | buffer => exact ((SortedMap.isSome_insert _ _ _ _).1 here).symm.imp_right fun new => ⟨rfl, new⟩
  | image => exact .inl here

theorem ages_deallocate (alloc : Allocation) (h : Host) :
    (deallocate alloc).wp
      (fun _ t => Ages h t ∧ ((Device.host h).Sound → (Device.host t).Spent alloc.id))
      (fun _ t => Ages h t) h := by
  rw [deallocate, wp_bind, wp_discard]
  refine (wp_block alloc h).mono ?_ ?_
  · rintro b t ⟨rfl, -, found⟩
    have held : (Device.host t).holds .buffer alloc.id = true :=
      Option.isSome_iff_exists.2 ⟨b, found⟩
    rw [wp_modify]
    refine ⟨ages_fewer fun id here => ((SortedMap.isSome_erase _ _ _).1 here).2, fun sound =>
      ⟨sound.numbered held, fun role => ?_⟩⟩
    cases role with
    | buffer => exact Bool.eq_false_iff.2 fun here => ((SortedMap.isSome_erase _ _ _).1 here).1 rfl
    | image => rfl
  · rintro e t rfl
    exact Evolution.refl t

theorem ages_writeRegion (h : Host) (region : MappedRegion) (offset : Nat) (data : Storage) :
    Ages h (h.writeRegion region offset data) := by
  unfold writeRegion
  split
  · rename_i b found
    exact ages_put found _
  · exact Evolution.refl h

end Host

/-! ## Graphics processors -/

namespace Gpu

def Ages (s t : Live Gpu) : Prop := (Device.gpu s.device).Ages (.gpu t.device)

theorem KeepsTables.ages {s t : Live Gpu} (h : KeepsTables s t) : Ages s t := by
  refine .of_fewer rfl h.nextAlloc fun role id here => ?_
  cases role with
  | buffer => rwa [Device.holds, h.buffers] at here
  | image => rwa [Device.holds, h.images] at here

instance : Evolution Ages where
  refl s := .refl (.gpu s.device)
  trans first second := first.trans second

theorem ages_fewer {s t : Live Gpu} (nextAlloc : t.device.nextAlloc = s.device.nextAlloc)
    (buffers : ∀ id, (t.device.buffers.get? id).isSome = true →
      (s.device.buffers.get? id).isSome = true)
    (images : ∀ id, (t.device.images.get? id).isSome = true →
      (s.device.images.get? id).isSome = true) : Ages s t := by
  refine .of_fewer rfl (UInt32.le_of_eq nextAlloc.symm) fun role id here => ?_
  cases role with
  | buffer => exact buffers id here
  | image => exact images id here

theorem ages_put {s t : Live Gpu} {id : UInt32} {a a' : BufferAllocation}
    (found : s.device.buffers.get? id = some a)
    (put : t.device = { s.device with buffers := s.device.buffers.insert id a' }) : Ages s t := by
  refine ages_fewer (by rw [put]) (fun other here => ?_) fun other here => ?_
  · rw [put] at here
    rcases (SortedMap.isSome_insert _ _ _ _).1 here with rfl | before
    · rw [found]
      rfl
    · exact before
  · rwa [put] at here

theorem ages_allocate (params : AllocParams) (s : Live Gpu) :
    (allocate params).wp
      (fun alloc t => Ages s t ∧ (Device.gpu s.device).Gives alloc (.gpu t.device))
      (fun _ t => Ages s t) s := by
  refine (wp_allocate params s).mono ?_ fun _ _ step => step.keepsTables.ages
  intro alloc t made
  obtain ⟨buffer, -, -, buffers⟩ := made.buffers
  refine ⟨.of_next .buffer rfl made.nextAlloc fun role id here => ?_,
    made.alloc_eq, made.nextAlloc⟩
  cases role with
  | buffer =>
    rw [Device.holds, buffers] at here
    exact ((SortedMap.isSome_insert _ _ _ _).1 here).symm.imp_right fun new => ⟨rfl, new⟩
  | image =>
    rw [Device.holds, made.images] at here
    exact .inl here

/-- A new image takes the next id. -/
theorem takes_image {s t : Live Gpu} {id next : UInt32} {i : Image}
    (taken : takeNumber s.device.nextAlloc = .ok (id, next))
    (put : t.device = { s.device with
      nextAlloc := next, images := s.device.images.insert id i }) :
    Ages s t ∧ (Device.gpu s.device).Gives ⟨s.device.id, id⟩ (.gpu t.device) := by
  obtain ⟨rfl, less⟩ := takeNumber_eq_ok taken
  have less : (Device.gpu s.device).nextAlloc < (Device.gpu t.device).nextAlloc := by
    rw [put]
    exact less
  refine ⟨.of_next .image rfl less fun role id here => ?_, rfl, less⟩
  rw [put] at here
  cases role with
  | buffer => exact .inl here
  | image => exact ((SortedMap.isSome_insert _ _ _ _).1 here).symm.imp_right fun new => ⟨rfl, new⟩

theorem ages_importImage (format : TextureFormat) (width height : UInt32) (s : Live Gpu) :
    (importImage format width height).wp
      (fun alloc t => Ages s t ∧ (Device.gpu s.device).Gives alloc (.gpu t.device))
      (fun _ t => Ages s t) s := by
  have same : Ages s s := Evolution.refl s
  simp only [importImage, registeredId, takeAllocId, putImage, wp_bind, Live.wp_self, wp_require,
    wp_check, Live.wp_update, wp_pure]
  exact ⟨fun _ => ⟨fun _ taken => takes_image taken rfl, fun _ _ => same⟩, fun _ => same⟩

theorem ages_createImage (format : BufferFormat) (width height : UInt32) (s : Live Gpu) :
    (createImage format width height).wp
      (fun alloc t => Ages s t ∧ (Device.gpu s.device).Gives alloc (.gpu t.device))
      (fun _ t => Ages s t) s := by
  have same : Ages s s := Evolution.refl s
  have made (p : Platform) : Ages s ⟨p, s.device⟩ := .refl (.gpu s.device)
  simp only [createImage, registeredId, request, takeAllocId, putImage, exhausted, wp_bind,
    Live.wp_self, wp_require, wp_orRefuse, wp_pure]
  refine ⟨fun _ => ⟨fun native _ => (wp_ite _ _).2 ⟨fun _ => same, fun _ => ?_⟩, fun _ => same⟩,
    fun _ => same⟩
  simp only [wp_bind, Live.wp_self, Live.wp_request, wp_check, Live.wp_update, wp_pure]
  exact ⟨fun _ taken => takes_image taken rfl, fun _ _ => made _⟩

theorem ages_deallocate (alloc : Allocation) (s : Live Gpu) :
    (deallocate alloc).wp
      (fun _ t => Ages s t ∧ ((Device.gpu s.device).Sound → (Device.gpu t.device).Spent alloc.id))
      (fun _ t => Ages s t) s := by
  refine (wp_deallocate alloc s).mono ?_ ?_
  · rintro _ _ ⟨-, ⟨a, found⟩, rfl⟩
    have held : (Device.gpu s.device).holds .buffer alloc.id = true :=
      Option.isSome_iff_exists.2 ⟨a, found⟩
    refine ⟨ages_fewer rfl (fun id here => ((SortedMap.isSome_erase _ _ _).1 here).2)
      fun _ here => here, fun sound => ⟨sound.numbered held, fun role => Bool.eq_false_iff.2 ?_⟩⟩
    cases role with
    | buffer => exact fun here => ((SortedMap.isSome_erase _ _ _).1 here).1 rfl
    | image =>
      intro here
      have here : (Device.gpu s.device).holds .image alloc.id = true := here
      cases sound.apart held here
  · rintro _ _ rfl
    exact Evolution.refl _

theorem ages_destroyImage (alloc : Allocation) (s : Live Gpu) :
    (destroyImage alloc).wp
      (fun _ t => Ages s t ∧ ((Device.gpu s.device).Sound → (Device.gpu t.device).Spent alloc.id))
      (fun _ t => Ages s t) s := by
  have same : Ages s s := Evolution.refl s
  simp only [destroyImage, checkLocal, image, wp_bind, wp_discard, Live.wp_self, wp_require,
    wp_orRefuse, Live.wp_update]
  refine ⟨fun here => ⟨fun i found => ?_, fun _ => same⟩, fun _ => same⟩
  have held : (Device.gpu s.device).holds .image alloc.id = true :=
    Option.isSome_iff_exists.2 ⟨i, found⟩
  refine ⟨ages_fewer rfl (fun _ here => here) fun id here =>
    ((SortedMap.isSome_erase _ _ _).1 here).2, fun sound => ⟨sound.numbered held, fun role =>
      Bool.eq_false_iff.2 ?_⟩⟩
  cases role with
  | buffer =>
    intro here
    have here : (Device.gpu s.device).holds .buffer alloc.id = true := here
    cases sound.apart held here
  | image => exact fun here => ((SortedMap.isSome_erase _ _ _).1 here).1 rfl

theorem ages_mapRange (pointer : Pointer) (size : UInt64) :
    (mapRange pointer size).Evolves Ages := by
  refine fun s => (mapRange_takes pointer size s).mono ?_ fun _ t same => ?_
  · rintro _ t ⟨a, m, found, -, put⟩
    exact ages_put found put
  · exact (keepsTables_of_device same).ages

theorem ages_unmapped {s t : Live Gpu} {id : UInt32} (made : t.device = s.device.unmapped id) :
    Ages s t := by
  cases held : s.device.buffers.get? id with
  | none => exact (keepsTables_of_device (made.trans (unmapped_of_none held))).ages
  | some a => exact ages_put held (made.trans (unmapped_of_some held))

theorem ages_unmap (alloc : Allocation) : (unmap alloc).Evolves Ages := by
  refine fun s => (unmap_takes alloc s).mono (fun _ _ ended => ages_unmapped ended.2) ?_
  rintro e t (same | ended)
  · exact (keepsTables_of_device same).ages
  · exact ages_unmapped ended.2

theorem ages_writeRegion (s : Live Gpu) (region : MappedRegion) (offset : Nat) (data : Storage) :
    Ages s { s with device := s.device.writeRegion region offset data } := by
  unfold writeRegion
  split
  · rename_i a found
    exact ages_put found rfl
  · exact Evolution.refl s

theorem ages_bindView (alloc : Allocation) (view : Option Texture) (width height : UInt32) :
    (bindView alloc view width height).Evolves Ages := by
  intro s
  simp only [bindView, image, putImage, wp_bind, Live.wp_self, wp_orRefuse, Live.wp_update]
  refine ⟨fun i found => ages_fewer rfl (fun _ here => here) fun id here => ?_,
    fun _ => Evolution.refl s⟩
  rcases (SortedMap.isSome_insert _ _ _ _).1 here with rfl | before
  · exact Option.isSome_iff_exists.2 ⟨i, found⟩
  · exact before

end Gpu

theorem MemoryCall.ages (call : MemoryCall) : call.run.Evolves Gpu.Ages := by
  open Gpu in
  cases call with
  | allocate params =>
    exact .map (fun s => (ages_allocate params s).mono (fun _ _ => And.left) fun _ _ step => step) _
  | deallocate alloc =>
    refine .bind (fun s => ?_) fun _ => .pure _
    exact (ages_deallocate alloc s).mono (fun _ _ => And.left) fun _ _ step => step
  | map alloc => exact (ages_mapRange _ _).map _
  | mapRange start size => exact (ages_mapRange start size).map _
  | unmap alloc => exact (ages_unmap alloc).bind fun _ => .pure _
  | read range =>
    exact ((still_readRange range).mono fun _ _ step => step.keepsTables.ages).map _
  | write dst data =>
    exact ((keepsTables_writeRange dst data).mono fun _ _ => KeepsTables.ages).bind fun _ => .pure _
  | readRegion region => exact evolves_self.bind fun _ => .pure _
  | writeRegion region offset data =>
    refine evolves_self.bind fun g => .ite ?_ (.pure _)
    exact (Live.evolves_update fun s => ages_writeRegion s region offset data).bind fun _ => .pure _

theorem DeviceCall.ages (call : DeviceCall) : call.run.Evolves Gpu.Ages := by
  open Gpu in
  cases call with
  | memory call => exact call.ages.discard
  | createImage format width height =>
    exact .discard fun s => (ages_createImage format width height s).mono (fun _ _ => And.left)
      fun _ _ step => step
  | importImage format width height =>
    exact .discard fun s => (ages_importImage format width height s).mono (fun _ _ => And.left)
      fun _ _ step => step
  | bindView image view width height => exact ages_bindView image view width height
  | destroyImage image =>
    exact fun s => (ages_destroyImage image s).mono (fun _ _ => And.left) fun _ _ step => step
  | _ => exact (DeviceCall.keepsTables _ rfl).mono fun _ _ => KeepsTables.ages

theorem Call.ages (call : Call) (c : Client) : Gpu.Ages c.live (call.step c).2.live := by
  cases call with
  | device call => exact call.ages.outcome c.live
  | _ => exact (Call.keepsTables _ rfl c).ages

/-! ## Devices behind a transport -/

namespace Remote

def Ages (s t : Live Remote) : Prop := (Device.remote s.device).Ages (.remote t.device)

instance : Evolution Ages :=
  ⟨fun s => .refl (.remote s.device), fun first second => first.trans second⟩

theorem ages_of_le {s t : Live Remote} (le : s.device.nextAlloc ≤ t.device.nextAlloc) : Ages s t :=
  .of_fewer rfl le fun _ _ => nofun

theorem ages_of_same {s t : Live Remote} (same : t.device.nextAlloc = s.device.nextAlloc) :
    Ages s t := ages_of_le (UInt32.le_of_eq same.symm)

theorem ages_listens {α : Type} {a : Action (Live Remote) α} (h : a.Evolves Listens) :
    a.Evolves Ages :=
  h.mono fun _ _ step => ages_of_same (congrArg nextAlloc step.device)

theorem ages_receive (call : RemoteCall) : (receive call).Evolves Ages :=
  ages_listens (listens_receive call)

theorem ages_allocate (params : AllocParams) (s : Live Remote) :
    (allocate params).wp
      (fun alloc t => Ages s t ∧ (Device.remote s.device).Gives alloc (.remote t.device))
      (fun _ t => Ages s t) s := by
  refine (wp_bind _ _).2 ((listens_receive _ s).mono ?_ fun _ _ step => ?_)
  · rintro _ ⟨p, r⟩ ⟨rfl, -⟩
    have same : Ages s ⟨p, s.device⟩ := .refl (.remote s.device)
    simp only [wp_bind, wp_assert, Live.wp_self, wp_check, Live.wp_update, wp_pure]
    refine ⟨fun _ => ⟨?_, fun _ _ => same⟩, fun _ => same⟩
    rintro ⟨id, next⟩ taken
    obtain ⟨rfl, less⟩ := Gpu.takeNumber_eq_ok taken
    exact ⟨ages_of_le (UInt32.le_of_lt less), rfl, less⟩
  · exact ages_of_same (congrArg nextAlloc step.device)

theorem ages_deallocate (alloc : Allocation) : (deallocate alloc).Evolves Ages :=
  (ages_receive _).bind fun _ => Live.evolves_update fun _ => ages_of_same rfl

theorem ages_writeRange (dst : Pointer) (data : Storage) : (writeRange dst data).Evolves Ages :=
  (ages_receive _).bind fun _ => Live.evolves_self.bind fun _ => (Evolves.checked _).bind fun _ =>
    Live.evolves_update fun _ => ages_of_same rfl

theorem ages_launch (stream kernel : UInt32) (mapping : Mapping) :
    (launch stream kernel mapping).Evolves Ages := by
  refine (ages_receive _).bind fun _ => Live.evolves_update fun s => ages_of_same ?_
  obtain ⟨allocations, added⟩ := foldl_addToRange kernel.toUInt8 mapping.toList s.device
  rw [added]

end Remote

end DeviceLayer
