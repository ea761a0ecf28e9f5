import DeviceLayer.Proofs.Caches
import DeviceLayer.Proofs.ListFrames

/-!
# Objects shared by their descriptions

A device keeps set layouts, render passes and framebuffers by their descriptions. Whatever its
client asks in between, a description that was resolved once is resolved to the same object ever
after, and another description to another object.

* `Gpu.Shelves` — nothing goes from the caches of a device, whatever its client calls.
* `Gpu.setLayout_ends`, `renderPass_ends`, `framebuffer_ends` — resolving a description, and what it
  leaves in the cache.
* `Shelf`, `Shelf.Shares` — a cache of a device, and what its descriptions come to.
* `objects_shared` — caches keep descriptions apart, and so do the devices that have them.
-/

namespace DeviceLayer

open DeviceLayer.Action

namespace ObjectCache

variable {κ α β σ : Type} {kept : α → β} {c c' : ObjectCache κ α} {key key' : κ}
  {handle : CacheHandle}

/-- Nothing has gone from a cache, and of each object what is kept is as it was. -/
structure Extends (kept : α → β) (c c' : ObjectCache κ α) : Prop where
  index : c.index <+: c'.index
  objects : c.objects.map kept <+: c'.objects.map kept
  indexed : c.Indexed → c'.Indexed

instance : Evolution (Extends (κ := κ) kept) where
  refl _ := ⟨List.prefix_refl _, List.prefix_refl _, id⟩
  trans first second := ⟨first.index.trans second.index, first.objects.trans second.objects,
    second.indexed ∘ first.indexed⟩

theorem extends_push (kept : α → β) (unseen : key ∉ c.keys) (object : α) :
    c.Extends kept (c.push key object) where
  index := List.prefix_append _ _
  objects := by
    rw [push, List.map_append]
    exact List.prefix_append _ _
  indexed h := h.push unseen object

theorem extends_modify {f : α → α} (same : ∀ object, kept (f object) = kept object)
    (handle : CacheHandle) : c.Extends kept (c.modify handle f) where
  index := List.prefix_refl _
  objects := by
    have kept_modify : (c.modify handle f).objects.map kept = c.objects.map kept := by
      refine List.ext_getElem? fun i => ?_
      simp only [modify, List.getElem?_map, List.getElem?_modify]
      cases c.objects[i]? with
      | none => rfl
      | some object => by_cases here : handle.index.toNat = i <;> simp [here, same]
    exact kept_modify ▸ List.prefix_refl _
  indexed h := h.of_index rfl (size_modify c handle f)

theorem Extends.get? {γ : Type} {x : γ} (h : c.Extends kept c') (f : β → γ)
    (shown : (c.get? handle).map (fun object => f (kept object)) = some x) :
    (c'.get? handle).map (fun object => f (kept object)) = some x := by
  have lists (c : ObjectCache κ α) : (c.get? handle).map (fun object => f (kept object)) =
      (c.objects.map kept)[handle.index.toNat]?.map f := by
    rw [List.getElem?_map, Option.map_map]
    rfl
  rw [lists] at shown ⊢
  obtain ⟨y, at_, rfl⟩ := Option.map_eq_some_iff.1 shown
  obtain ⟨new, more⟩ := h.objects
  rw [← more, List.getElem?_append_left (List.getElem?_eq_some_iff.1 at_).1, shown]

variable [DecidableEq κ]

theorem wp_getOrInsert {create : Action σ α} {Q : CacheHandle × ObjectCache κ α → σ → Prop}
    {E : Fault → σ → Prop} {s : σ} :
    (c.getOrInsert key create).wp Q E s ↔
      (∀ handle, c.lookup key = some handle → Q (handle, c) s) ∧
        (c.lookup key = none →
          create.wp (fun object t => Q (handleAt c.size, c.push key object) t) E s) := by
  unfold getOrInsert
  cases c.lookup key with
  | some handle => simp
  | none => simp

/-- A description that has a handle has an object behind it. -/
theorem Indexed.exists_get? (h : c.Indexed) (few : c.size ≤ UInt32.size)
    (found : c.lookup key = some handle) : ∃ object, c.get? handle = some object := by
  have there := (List.getElem?_eq_some_iff.1 ((h.lookup_eq_some_iff few).1 found)).1
  rw [h.length_keys] at there
  exact ObjectCache.exists_get? there

theorem Indexed.lookup_inj (h : c.Indexed) (few : c.size ≤ UInt32.size)
    (found : c.lookup key = some handle) (found' : c.lookup key' = some handle) : key = key' :=
  Option.some.inj (((h.lookup_eq_some_iff few).1 found).symm.trans
    ((h.lookup_eq_some_iff few).1 found'))

end ObjectCache

namespace Gpu

/-! ## What calls do to the caches -/

/-- The native layouts of a device, in order of creation. -/
def natives (g : Gpu) : List NativeLayout := g.layouts.objects.map (·.native)

/-- The native layouts of a device were named in order, and before the next one. -/
def LayoutsNamed (s : Live Gpu) : Prop :=
  (s.device.natives.map (·.name.ordinal) ++ [s.platform.names.layouts]).Pairwise (· < ·)

/-- The caches of a device are in order. -/
structure Shelved (s : Live Gpu) : Prop where
  layouts : s.device.layouts.Indexed
  passes : s.device.passes.Indexed
  framebuffers : s.device.framebuffers.Indexed
  named : LayoutsNamed s

/-- Nothing goes from the caches of a device. -/
structure Shelves (s t : Live Gpu) : Prop where
  names : s.platform.names.layouts ≤ t.platform.names.layouts
  layouts : s.device.layouts.Extends (·.native) t.device.layouts
  passes : s.device.passes.Extends (fun info => info) t.device.passes
  framebuffers : s.device.framebuffers.Extends (fun info => info) t.device.framebuffers
  named : LayoutsNamed s → LayoutsNamed t

variable {s t : Live Gpu}

theorem Shelves.shelved (step : Shelves s t) (h : Shelved s) : Shelved t :=
  ⟨step.layouts.indexed h.layouts, step.passes.indexed h.passes,
    step.framebuffers.indexed h.framebuffers, step.named h.named⟩

instance : Evolution Shelves where
  refl _ := ⟨Nat.le_refl _, Evolution.refl _, Evolution.refl _, Evolution.refl _,
    fun named => named⟩
  trans first second := ⟨Nat.le_trans first.names second.names,
    Evolution.trans first.layouts second.layouts, Evolution.trans first.passes second.passes,
    Evolution.trans first.framebuffers second.framebuffers, second.named ∘ first.named⟩

/-- Layouts that have been named before a number have been named before a later one. -/
theorem LayoutsNamed.later (h : LayoutsNamed s) (natives : t.device.natives = s.device.natives)
    (names : s.platform.names.layouts ≤ t.platform.names.layouts) : LayoutsNamed t := by
  unfold LayoutsNamed at *
  rw [natives]
  simp only [List.pairwise_append, List.mem_singleton, forall_eq, List.pairwise_singleton,
    true_and] at *
  exact ⟨h.1, fun n member => Nat.lt_of_lt_of_le (h.2 n member) names⟩

/-- The caches are as they were, but for what does not count of layouts. -/
theorem Shelves.of_caches (names : s.platform.names.layouts ≤ t.platform.names.layouts)
    (layouts : s.device.layouts.Extends (·.native) t.device.layouts)
    (size : t.device.layouts.size = s.device.layouts.size)
    (passes : t.device.passes = s.device.passes)
    (framebuffers : t.device.framebuffers = s.device.framebuffers) : Shelves s t := by
  refine ⟨names, layouts, passes ▸ Evolution.refl _, framebuffers ▸ Evolution.refl _,
    fun named => ?_⟩
  refine named.later (layouts.objects.eq_of_length ?_).symm names
  rw [List.length_map, List.length_map]
  exact size.symm

/-! ## Resolving a description -/

/-- A native layout that is made takes the next name. -/
theorem LayoutsNamed.pushed {native : NativeLayout} {p : Platform} {slots : SetLayout}
    (h : LayoutsNamed s)
    (made : s.platform.createSetLayout s.device.connection slots = (native, p)) :
    LayoutsNamed
      ⟨p, { s.device with layouts := s.device.layouts.push slots { native } }⟩ := by
  cases made
  unfold LayoutsNamed at *
  have pushed (native : NativeLayout) :
      Gpu.natives { s.device with layouts := s.device.layouts.push slots { native } } =
        s.device.natives ++ [native] := List.map_append
  rw [pushed, List.map_append]
  refine List.pairwise_append.2 ⟨h, List.pairwise_singleton _ _, fun n member m next => ?_⟩
  -- Of the names that were given, the new one is the last.
  obtain rfl : m = s.platform.names.layouts + 1 := List.mem_singleton.1 next
  rcases List.mem_append.1 member with before | last
  · have below := (List.pairwise_append.1 h).2.2 n before _ (List.mem_singleton_self _)
    exact Nat.lt_succ_of_lt below
  · obtain rfl : n = s.platform.names.layouts := List.mem_singleton.1 last
    exact Nat.lt_succ_self _

theorem setLayout_ends (slots : SetLayout) (s : Live Gpu) :
    (setLayout slots).wp
      (fun handle t => t.device.layouts.lookup slots = some handle ∧ Shelves s t)
      (fun _ t => Shelves s t) s := by
  simp only [Gpu.setLayout, wp_bind, Live.wp_self, ObjectCache.wp_getOrInsert]
  refine ⟨fun handle found => ⟨found, Evolution.refl s⟩, fun unseen => ?_⟩
  have new := ObjectCache.lookup_eq_none_iff.1 unseen
  refine ⟨ObjectCache.lookup_push unseen _, Nat.le_succ _, ObjectCache.extends_push _ new _,
    Evolution.refl _, Evolution.refl _, fun named => ?_⟩
  exact named.pushed rfl

theorem renderPass_ends (desc : RenderPassDesc) (s : Live Gpu) :
    (renderPass desc).wp
      (fun handle t => t.device.passes.lookup desc = some handle ∧ Shelves s t)
      (fun _ t => Shelves s t) s := by
  simp only [renderPass, wp_bind, Live.wp_self, ObjectCache.wp_getOrInsert, wp_checked,
    Live.wp_update, wp_pure]
  refine ⟨fun handle found => ⟨found, Evolution.refl s⟩, fun unseen => ⟨fun info _ => ?_, ?_⟩⟩
  · have new := ObjectCache.lookup_eq_none_iff.1 unseen
    exact ⟨ObjectCache.lookup_push unseen _, Nat.le_refl _, Evolution.refl _,
      ObjectCache.extends_push _ new _, Evolution.refl _, fun named => named⟩
  · exact fun _ _ => Evolution.refl s

/-- The device has a render pass for a framebuffer, with as many attachments. -/
def Frames (g : Gpu) (desc : FramebufferDesc) : Prop :=
  ∃ pass, g.passes.get? desc.renderPass = some pass ∧
    desc.attachments.length = pass.attachmentCount

theorem framebuffer_ends (desc : FramebufferDesc) (s : Live Gpu) :
    (framebuffer desc).wp
      (fun handle t => (t.device.Frames desc ∧ t.device.framebuffers.lookup desc = some handle) ∧
        Shelves s t)
      (fun _ t => Shelves s t) s := by
  simp only [framebuffer, renderPassInfo, wp_bind, Live.wp_self, wp_orRefuse, wp_require,
    ObjectCache.wp_getOrInsert, Live.wp_update, wp_pure]
  refine ⟨fun pass known => ⟨fun fits => ⟨fun handle found => ?_, fun unseen => ?_⟩, ?_⟩, ?_⟩
  · exact ⟨⟨⟨pass, known, of_decide_eq_true fits⟩, found⟩, Evolution.refl s⟩
  · -- Looking at the images changes nothing.
    have looks : (desc.attachments.forM fun a => discard (image a.id)).Evolves Eq :=
      .forM fun a => (evolves_image a.id).discard
    refine (looks s).mono ?_ ?_
    · rintro _ _ rfl
      have new := ObjectCache.lookup_eq_none_iff.1 unseen
      exact ⟨⟨⟨pass, known, of_decide_eq_true fits⟩, ObjectCache.lookup_push unseen _⟩,
        Nat.le_refl _, Evolution.refl _, Evolution.refl _, ObjectCache.extends_push _ new _,
        fun named => named⟩
    · rintro _ _ rfl
      exact Evolution.refl s
  · exact fun _ => Evolution.refl s
  · exact fun _ => Evolution.refl s

/-! ## Resolving it again -/

theorem setLayout_of_lookup {slots : SetLayout} {handle : CacheHandle}
    (found : s.device.layouts.lookup slots = some handle) :
    (setLayout slots).outcome s = (.ok handle, s) := by
  refine wp.outcome (P := fun ended => ended = (.ok handle, s)) ?_
  simp [setLayout, ObjectCache.wp_getOrInsert, found]

theorem renderPass_of_lookup {desc : RenderPassDesc} {handle : CacheHandle}
    (found : s.device.passes.lookup desc = some handle) :
    (renderPass desc).outcome s = (.ok handle, s) := by
  refine wp.outcome (P := fun ended => ended = (.ok handle, s)) ?_
  simp [renderPass, ObjectCache.wp_getOrInsert, found]

theorem framebuffer_of_lookup {desc : FramebufferDesc} {handle : CacheHandle}
    (framed : s.device.Frames desc) (found : s.device.framebuffers.lookup desc = some handle) :
    (framebuffer desc).outcome s = (.ok handle, s) := by
  obtain ⟨pass, known, fits⟩ := framed
  refine wp.outcome (P := fun ended => ended = (.ok handle, s)) ?_
  simp [framebuffer, renderPassInfo, ObjectCache.wp_getOrInsert, known, fits, found]

theorem Frames.lasts {desc : FramebufferDesc} (framed : s.device.Frames desc)
    (step : Shelves s t) : t.device.Frames desc := by
  obtain ⟨pass, known, fits⟩ := framed
  have stays := step.passes.get? (fun info => info) (congrArg (Option.map fun info => info) known)
  exact ⟨pass, by simpa using stays, fits⟩

/-- A native layout is behind one handle. -/
theorem LayoutsNamed.inj {native : NativeLayout} {handle handle' : CacheHandle}
    (h : LayoutsNamed s)
    (shown : (s.device.layouts.get? handle).map (·.native) = some native)
    (shown' : (s.device.layouts.get? handle').map (·.native) = some native) :
    handle = handle' := by
  have distinct : s.device.natives.Nodup := by
    refine List.Nodup.of_map (·.name.ordinal) ?_
    exact (List.pairwise_append.1 h).1.imp Nat.ne_of_lt
  have position (handle : CacheHandle) : (s.device.layouts.get? handle).map (·.native) =
      s.device.natives[handle.index.toNat]? := List.getElem?_map.symm
  rw [position] at shown shown'
  have there := (List.getElem?_eq_some_iff.1 shown).1
  have same := (List.getElem?_inj there distinct).1 (shown.trans shown'.symm)
  exact congrArg CacheHandle.mk (UInt32.toNat_inj.1 same)

/-! ## Every call -/

instance : Growing Shelves where
  grows h := .of_caches h.layouts (Evolution.refl _) rfl rfl rfl

instance : ImageFrame Shelves where
  rests h := .of_caches (Nat.le_refl _) (h.layouts ▸ Evolution.refl _) (h.layouts ▸ rfl) h.passes
    h.framebuffers
  makes h := Growing.grows h.toGrows
  placeholderFor := evolves_placeholderFor
    (fun _ _ => .of_caches (Nat.le_refl _) (Evolution.refl _) rfl rfl rfl)
    fun _ _ => .of_caches (Nat.le_refl _) (Evolution.refl _) rfl rfl rfl
  setLayout slots s := (setLayout_ends slots s).mono (fun _ _ => And.right) fun _ _ step => step
  renderPass desc s := (renderPass_ends desc s).mono (fun _ _ => And.right) fun _ _ step => step
  framebuffer desc s := (framebuffer_ends desc s).mono (fun _ _ => And.right) fun _ _ step => step
  images _ := .of_caches (Nat.le_refl _) (Evolution.refl _) rfl rfl rfl

instance : MemoryFrame Shelves where
  buffers _ := .of_caches (Nat.le_refl _) (Evolution.refl _) rfl rfl rfl
  works h := .of_caches h.layouts (Evolution.refl _) rfl rfl rfl

instance : ListFrame Shelves where
  custody _ _ := .of_caches (Nat.le_refl _) (Evolution.refl _) rfl rfl rfl
  pool layout pool := by
    have kept (e : LayoutEntry) : { e with pool := pool e.pool }.native = e.native := rfl
    exact .of_caches (Nat.le_refl _) (ObjectCache.extends_modify kept layout)
      (ObjectCache.size_modify ..) rfl rfl
  polled _ := .of_caches (Nat.le_refl _) (Evolution.refl _) rfl rfl rfl

end Gpu

theorem Client.shelves_run (c : Client) (calls : List Call) :
    Gpu.Shelves c.live (c.run calls).live := by
  induction calls generalizing c with
  | nil => exact Evolution.refl c.live
  | cons call calls ih => exact Evolution.trans (call.framedImage c) (ih (call.step c).2)

theorem Client.Reachable.shelved {c : Client} (reachable : c.Reachable) : Gpu.Shelved c.live := by
  obtain ⟨start, fresh, calls, rfl⟩ := reachable
  refine (start.shelves_run calls).shelved ?_
  obtain ⟨_, created, _⟩ := fresh
  obtain ⟨_, _, _, rfl, -⟩ := Gpu.create_eq_ok created
  exact ⟨ObjectCache.indexed_empty, ObjectCache.indexed_empty, ObjectCache.indexed_empty,
    List.pairwise_singleton _ _⟩

/-! ## What descriptions come to -/

/-- A cache of a device: how a description is resolved, and what stands behind a handle. -/
structure Shelf (κ α β : Type) where
  cache : Gpu → ObjectCache κ α
  resolve : κ → Action (Live Gpu) CacheHandle
  see : CacheHandle → α → β

namespace Shelf

/-- The object behind a handle. -/
def object {κ α β : Type} (shelf : Shelf κ α β) (g : Gpu) (handle : CacheHandle) : Option β :=
  ((shelf.cache g).get? handle).map (shelf.see handle)

/-- Set layouts; the objects are the native ones. -/
def layouts : Shelf SetLayout LayoutEntry NativeLayout where
  cache g := g.layouts
  resolve := Gpu.setLayout
  see _ entry := entry.native

/-- Render passes. The device keeps them itself, so that one is told from another by its place. -/
def passes : Shelf RenderPassDesc RenderPassInfo (CacheHandle × RenderPassInfo) where
  cache g := g.passes
  resolve := Gpu.renderPass
  see handle info := (handle, info)

/-- Framebuffers, which are like render passes in this. -/
def framebuffers : Shelf FramebufferDesc FramebufferInfo (CacheHandle × FramebufferInfo) where
  cache g := g.framebuffers
  resolve := Gpu.framebuffer
  see handle info := (handle, info)

variable {κ α β : Type} {shelf : Shelf κ α β}

/-- What a description comes to that the client resolves, whatever it calls afterwards. -/
structure Shares (shelf : Shelf κ α β) (c : Client) : Prop where
  /-- It comes to the same handle again, and nothing is made for it. -/
  again : ∀ {key : κ} {handle : CacheHandle} {c' : Client},
    c.onDevice (shelf.resolve key) = (.ok handle, c') →
      ∀ calls, (c'.run calls).onDevice (shelf.resolve key) = (.ok handle, c'.run calls)
  /-- Behind its handle there is the same object. -/
  kept : ∀ {key : κ} {handle : CacheHandle} {c' : Client},
    c.onDevice (shelf.resolve key) = (.ok handle, c') →
      ∀ calls, (shelf.cache (c'.run calls).live.device).size ≤ UInt32.size →
        ∃ object, shelf.object c'.live.device handle = some object ∧
          shelf.object (c'.run calls).live.device handle = some object
  /-- Another description comes to another handle and another object. -/
  apart : ∀ {key key' : κ} {handle handle' : CacheHandle} {c' t : Client},
    c.onDevice (shelf.resolve key) = (.ok handle, c') →
      ∀ calls, (c'.run calls).onDevice (shelf.resolve key') = (.ok handle', t) → key' ≠ key →
        (shelf.cache t.live.device).size ≤ UInt32.size →
          handle' ≠ handle ∧
            shelf.object t.live.device handle' ≠ shelf.object t.live.device handle

/-- An object that is told by its place has one. -/
theorem eq_of_shown {c : ObjectCache κ α} {handle handle' : CacheHandle}
    {object : CacheHandle × α} (shown : (c.get? handle).map (handle, ·) = some object)
    (shown' : (c.get? handle').map (handle', ·) = some object) : handle = handle' := by
  obtain ⟨_, -, rfl⟩ := Option.map_eq_some_iff.1 shown
  obtain ⟨_, -, same⟩ := Option.map_eq_some_iff.1 shown'
  exact (congrArg Prod.fst same).symm

variable [DecidableEq κ]

/-- What makes a shelf of a device share its objects. To resolve a description may need something of
the device. -/
structure Lawful (shelf : Shelf κ α β) (needs : κ → Gpu → Prop) : Prop where
  ends : ∀ key s, (shelf.resolve key).wp
    (fun handle t => (needs key t.device ∧ (shelf.cache t.device).lookup key = some handle) ∧
      Gpu.Shelves s t)
    (fun _ t => Gpu.Shelves s t) s
  hit : ∀ {key : κ} {handle : CacheHandle} {s : Live Gpu}, needs key s.device →
    (shelf.cache s.device).lookup key = some handle →
      (shelf.resolve key).outcome s = (.ok handle, s)
  lasts : ∀ {key : κ} {s t : Live Gpu}, Gpu.Shelves s t → needs key s.device → needs key t.device
  index : ∀ {s t : Live Gpu}, Gpu.Shelves s t →
    (shelf.cache s.device).index <+: (shelf.cache t.device).index
  indexed : ∀ {s : Live Gpu}, Gpu.Shelved s → (shelf.cache s.device).Indexed
  object : ∀ {s t : Live Gpu} {handle : CacheHandle} {object : β}, Gpu.Shelves s t →
    shelf.object s.device handle = some object → shelf.object t.device handle = some object
  inj : ∀ {s : Live Gpu} {handle handle' : CacheHandle} {object : β}, Gpu.Shelved s →
    shelf.object s.device handle = some object → shelf.object s.device handle' = some object →
      handle = handle'

/-- A description that was resolved has its handle, and nothing went from the device. -/
theorem Lawful.resolved {needs : κ → Gpu → Prop} (lawful : shelf.Lawful needs) {key : κ}
    {handle : CacheHandle} {c c' : Client}
    (resolved : c.onDevice (shelf.resolve key) = (.ok handle, c')) :
    (needs key c'.live.device ∧ (shelf.cache c'.live.device).lookup key = some handle) ∧
      Gpu.Shelves c.live c'.live := by
  obtain ⟨result, rfl⟩ := Prod.mk.inj resolved
  exact (lawful.ends key c.live).ended (Prod.ext result rfl)

theorem Lawful.shares {needs : κ → Gpu → Prop} (lawful : shelf.Lawful needs) {c : Client}
    (shelved : Gpu.Shelved c.live) : shelf.Shares c where
  again := by
    intro key handle c' resolved calls
    obtain ⟨⟨needed, found⟩, -⟩ := lawful.resolved resolved
    have later := c'.shelves_run calls
    have hit := lawful.hit (lawful.lasts later needed)
      (ObjectCache.lookup_of_prefix (lawful.index later) found)
    simp only [Client.onDevice, hit]
  kept := by
    intro key handle c' resolved calls few
    obtain ⟨⟨-, found⟩, step⟩ := lawful.resolved resolved
    have later := c'.shelves_run calls
    have shelved' := step.shelved shelved
    have fewer : (shelf.cache c'.live.device).size ≤ UInt32.size := by
      refine Nat.le_trans ?_ few
      rw [← (lawful.indexed shelved').length_keys,
        ← (lawful.indexed (later.shelved shelved')).length_keys]
      simpa [ObjectCache.keys] using (lawful.index later).length_le
    obtain ⟨entry, there⟩ := (lawful.indexed shelved').exists_get? fewer found
    have shown : shelf.object c'.live.device handle = some (shelf.see handle entry) :=
      congrArg _ there
    exact ⟨_, shown, lawful.object later shown⟩
  apart := by
    intro key key' handle handle' c' t resolved calls resolved' other few
    obtain ⟨⟨-, found⟩, step⟩ := lawful.resolved resolved
    obtain ⟨⟨-, found'⟩, step'⟩ := lawful.resolved resolved'
    have later := Evolution.trans (c'.shelves_run calls) step'
    have shelved' := later.shelved (step.shelved shelved)
    have stays := ObjectCache.lookup_of_prefix (lawful.index later) found
    have apart : handle' ≠ handle := by
      rintro rfl
      exact other ((lawful.indexed shelved').lookup_inj few found' stays)
    refine ⟨apart, fun same => apart ?_⟩
    obtain ⟨entry, there⟩ := (lawful.indexed shelved').exists_get? few found'
    have shown : shelf.object t.live.device handle' = some (shelf.see handle' entry) :=
      congrArg _ there
    exact lawful.inj shelved' shown (same ▸ shown)

theorem lawful_layouts : layouts.Lawful fun _ _ => True where
  ends key s := (Gpu.setLayout_ends key s).mono
    (fun _ _ ended => ⟨⟨trivial, ended.1⟩, ended.2⟩) fun _ _ step => step
  hit _ found := Gpu.setLayout_of_lookup found
  lasts _ _ := trivial
  index step := step.layouts.index
  indexed h := h.layouts
  object step shown := step.layouts.get? (fun native => native) shown
  inj shelved shown shown' := shelved.named.inj shown shown'

theorem lawful_passes : passes.Lawful fun _ _ => True where
  ends key s := (Gpu.renderPass_ends key s).mono
    (fun _ _ ended => ⟨⟨trivial, ended.1⟩, ended.2⟩) fun _ _ step => step
  hit _ found := Gpu.renderPass_of_lookup found
  lasts _ _ := trivial
  index step := step.passes.index
  indexed h := h.passes
  object step shown := step.passes.get? (fun info => (_, info)) shown
  inj _ shown shown' := eq_of_shown shown shown'

theorem lawful_framebuffers : framebuffers.Lawful fun desc g => g.Frames desc where
  ends := Gpu.framebuffer_ends
  hit framed found := Gpu.framebuffer_of_lookup framed found
  lasts step framed := framed.lasts step
  index step := step.framebuffers.index
  indexed h := h.framebuffers
  object step shown := step.framebuffers.get? (fun info => (_, info)) shown
  inj _ shown shown' := eq_of_shown shown shown'

end Shelf

/-- Caches keep descriptions apart, whatever becomes of the objects in them, and a device that keeps
its objects in caches shares them between equal descriptions, and between no others. -/
theorem objects_shared {κ α : Type} [DecidableEq κ] {calls : List (CacheCall κ α)}
    (few : (calls.filterMap CacheCall.asks?).dedup.length < UInt32.size) {c : Client}
    (reachable : c.Reachable) :
    CacheUse.Faithful calls ∧ Shelf.layouts.Shares c ∧ Shelf.passes.Shares c ∧
      Shelf.framebuffers.Shares c :=
  ⟨CacheUse.faithful calls few, Shelf.lawful_layouts.shares reachable.shelved,
    Shelf.lawful_passes.shares reachable.shelved,
    Shelf.lawful_framebuffers.shares reachable.shelved⟩

/-- An object that could not be made at first, and two layouts of a device that differ in one
slot. -/
theorem objects_shared_twice :
    let calls : List (CacheCall String Nat) :=
      [.insert "a" (.error (.setup .noSurfaceFormat)), .insert "a" (.ok 1), .insert "b" (.ok 5),
        .modify ⟨0⟩ (· + 1), .insert "a" (.ok 9)]
    let used := CacheUse.run {} calls
    let c := Client.opened ⟨1⟩
    let slots := SetLayout.ofEntries [(0, .readWriteBuffer)]
    let slots' := SetLayout.ofEntries [(0, .readOnlyBuffer)]
    let c' := (c.onDevice (Gpu.setLayout slots)).2
    let later := c'.run [.newList, .launch 0 7 ∅, .device .waitIdle]
    let t := (later.onDevice (Gpu.setLayout slots')).2
    used.cache.lookup "a" = some ⟨0⟩ ∧ used.cache.get? ⟨0⟩ = some 2 ∧ used.made.count "a" ≤ 1 ∧
      later.onDevice (Gpu.setLayout slots) = (.ok ⟨0⟩, later) ∧
      Shelf.layouts.object t.live.device ⟨1⟩ ≠ Shelf.layouts.object t.live.device ⟨0⟩ := by
  intro calls used c slots slots' c' later t
  have few : (calls.filterMap CacheCall.asks?).dedup.length < UInt32.size := by decide +kernel
  have reachable : c.Reachable := ⟨c, Client.fresh_opened ⟨1⟩, [], rfl⟩
  obtain ⟨faithful, layouts, -, -⟩ := objects_shared few reachable
  have parts : calls = [.insert "a" (.error (.setup .noSurfaceFormat))] ++
      .insert "a" (.ok 1) :: [.insert "b" (.ok 5), .modify ⟨0⟩ (· + 1), .insert "a" (.ok 9)] := rfl
  obtain ⟨handle, -, found, object⟩ := faithful.object parts (by decide +kernel)
  have zero : used.cache.lookup "a" = some ⟨0⟩ := by decide +kernel
  obtain rfl : handle = ⟨0⟩ := Option.some.inj (found.symm.trans zero)
  have first : c.onDevice (Gpu.setLayout slots) = (.ok ⟨0⟩, c') := Prod.ext (by rfl) rfl
  have second : later.onDevice (Gpu.setLayout slots') = (.ok ⟨1⟩, t) := Prod.ext (by rfl) rfl
  refine ⟨zero, object, faithful.once "a", layouts.again first _, ?_⟩
  exact (layouts.apart first _ second (by decide +kernel) (by decide +kernel)).2

end DeviceLayer
