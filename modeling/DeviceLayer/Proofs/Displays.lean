import DeviceLayer.Proofs.FrameProtocol

/-!
# Surfaces of a device

A device with its client and its surfaces, and every order of calls to them.

* `Gpu.ImageStays`, `Call.imageStays` — what leaves an image as it is.
* `Gpu.NewSurface`, `createSurface_ends` — a surface that was just made.
* `Display`, `DisplayCall.step`, `Display.run` — the calls and what they do.
-/

namespace DeviceLayer

open DeviceLayer.Action

namespace Gpu

/-- The device is the one it was, and no id is given twice. -/
structure Numbers (s t : Live Gpu) : Prop where
  assigned : t.device.assigned = s.device.assigned
  nextAlloc : s.device.nextAlloc ≤ t.device.nextAlloc

/-- An image that there is stays as it is. -/
structure ImageStays (id : UInt32) (s t : Live Gpu) : Prop extends Numbers s t where
  image : id < s.device.nextAlloc → t.device.images.get? id = s.device.images.get? id

variable {id : UInt32} {s t : Live Gpu}

theorem Numbers.imageStays (step : Numbers s t) (images : t.device.images = s.device.images) :
    ImageStays id s t := ⟨step, fun _ => images ▸ rfl⟩

instance : Evolution Numbers where
  refl _ := ⟨rfl, UInt32.le_refl _⟩
  trans first second :=
    ⟨second.assigned.trans first.assigned, UInt32.le_trans first.nextAlloc second.nextAlloc⟩

instance : Growing Numbers where
  grows _ := ⟨rfl, UInt32.le_refl _⟩

instance : ImageFrame Numbers where
  toFrame := .of fun h => ⟨h.assigned, h.nextAlloc⟩
  images _ := ⟨rfl, UInt32.le_refl _⟩

instance : MemoryFrame Numbers where
  buffers _ := ⟨rfl, UInt32.le_refl _⟩
  works _ := ⟨rfl, UInt32.le_refl _⟩

instance : ListFrame Numbers where
  custody _ _ := ⟨rfl, UInt32.le_refl _⟩
  pool _ _ := ⟨rfl, UInt32.le_refl _⟩
  polled _ := ⟨rfl, UInt32.le_refl _⟩

instance : Evolution (ImageStays id) where
  refl s := (Evolution.refl s : Numbers s s).imageStays rfl
  trans first second := by
    refine ⟨Evolution.trans first.toNumbers second.toNumbers, fun known => ?_⟩
    rw [second.image (UInt32.lt_of_lt_of_le known first.nextAlloc), first.image known]

instance : Growing (ImageStays id) where
  grows h := Numbers.imageStays (Growing.grows h) rfl

instance : Frame (ImageStays id) :=
  .of fun h => Numbers.imageStays ⟨h.assigned, h.nextAlloc⟩ h.images

instance : MemoryFrame (ImageStays id) where
  buffers _ := Numbers.imageStays (MemoryFrame.buffers _) rfl
  works moved := Numbers.imageStays (MemoryFrame.works moved) rfl

instance : ListFrame (ImageStays id) where
  custody tracker next := Numbers.imageStays (ListFrame.custody tracker next) rfl
  pool layout f := Numbers.imageStays (ListFrame.pool layout f) rfl
  polled fence := Numbers.imageStays (ListFrame.polled fence) rfl

/-- A new image takes the next id. -/
theorem wp_takeImage {α : Type} (entry : Image) (f : UInt32 → α) (s : Live Gpu) :
    (do
      let id ← takeAllocId
      putImage id entry
      pure (f id) : Action (Live Gpu) α).wp
      (fun x t => x = f s.device.nextAlloc ∧ ∃ nextAlloc, s.device.nextAlloc < nextAlloc ∧
        t = { s with device := { s.device with
          nextAlloc, images := s.device.images.insert s.device.nextAlloc entry } })
      (fun _ t => t = s) s := by
  simp only [takeAllocId, putImage, wp_bind, Live.wp_self, wp_check, Live.wp_update, wp_pure]
  refine ⟨?_, fun _ _ => trivial⟩
  rintro ⟨id, next⟩ taken
  obtain ⟨rfl, later⟩ := takeNumber_eq_ok taken
  exact ⟨rfl, next, later, rfl⟩

theorem stays_takeImage {α : Type} (entry : Image) (f : UInt32 → α) :
    (do
      let id ← takeAllocId
      putImage id entry
      pure (f id) : Action (Live Gpu) α).Evolves (ImageStays id) := by
  intro s
  refine (wp_takeImage entry f s).mono ?_ ?_
  · rintro _ _ ⟨-, nextAlloc, later, rfl⟩
    refine ⟨⟨rfl, UInt32.le_of_lt later⟩, fun known => ?_⟩
    exact SortedMap.get?_insert_of_ne _ _ fun same => UInt32.lt_irrefl _ (same ▸ known)
  · rintro _ _ rfl
    exact Evolution.refl _

theorem stays_createImage (format : BufferFormat) (width height : UInt32) :
    (createImage format width height).Evolves (ImageStays id) := by
  refine evolves_registeredId.bind fun device => (Evolves.orRefuse _ _).bind fun native => ?_
  refine evolves_self.bind fun g => .stopIf (.throw _) fun _ => ?_
  refine .bind (framed_request fun _ _ => ?_) fun texture => stays_takeImage _ _
  exact .told (List.prefix_refl _) (Nat.le_refl _) rfl rfl rfl

theorem stays_importImage (format : TextureFormat) (width height : UInt32) :
    (importImage format width height).Evolves (ImageStays id) :=
  evolves_registeredId.bind fun _ => stays_takeImage _ _

theorem stays_bindView {image : Allocation} (apart : image.id ≠ id) (view : Option Texture)
    (width height : UInt32) : (bindView image view width height).Evolves (ImageStays id) := by
  refine (evolves_image _).bind fun entry => Live.evolves_update fun s => ?_
  exact ⟨⟨rfl, UInt32.le_refl _⟩, fun _ => SortedMap.get?_insert_of_ne _ _ apart.symm⟩

/-- Another image is destroyed, or one that is not there. -/
theorem stays_destroyImage {image other : Allocation} (apart : other ≠ image) {s : Live Gpu}
    (here : image.device = s.device.id) :
    (destroyImage other).wp (fun _ t => ImageStays image.id s t)
      (fun _ t => ImageStays image.id s t) s := by
  have same : ImageStays image.id s s := Evolution.refl s
  simp only [destroyImage, checkLocal, Gpu.image, wp_bind, wp_discard, Live.wp_self, wp_require,
    wp_orRefuse, Live.wp_update, decide_eq_true_eq]
  refine ⟨fun local_ => ⟨fun _ _ => ?_, fun _ => same⟩, fun _ => same⟩
  -- Both are images of this device, so with one id they would be the same.
  have ids : image.id ≠ other.id := fun equal => by
    refine apart ?_
    calc other = ⟨other.device, other.id⟩ := rfl
      _ = ⟨image.device, image.id⟩ := by rw [local_, here, equal]
  refine ⟨⟨rfl, UInt32.le_refl _⟩, fun _ => ?_⟩
  rw [SortedMap.get?_erase, if_neg fun equal => ids (Ranked.rank_inj equal)]

end Gpu

/-- The call leaves the image alone: it does not destroy it, and gives it no other view. -/
def Call.Spares (image : Allocation) : Call → Prop
  | .device (.destroyImage other) => other ≠ image
  | .device (.bindView other ..) => other.id ≠ image.id
  | _ => True

theorem Call.imageStays {image : Allocation} {call : Call} (spared : call.Spares image) {c : Client}
    (here : image.device = c.live.device.id) :
    Gpu.ImageStays image.id c.live (call.step c).2.live := by
  cases ofImages : call.ofImages with
  | false => exact call.framed ofImages c
  | true =>
    -- Images are made apart from this one, and those that are changed or destroyed are others.
    cases call with
    | device call =>
      cases call with
      | createImage format width height =>
        exact (Gpu.stays_createImage format width height).discard.outcome c.live
      | importImage format width height =>
        exact (Gpu.stays_importImage format width height).discard.outcome c.live
      | bindView other view width height =>
        exact (Gpu.stays_bindView spared view width height).outcome c.live
      | destroyImage other =>
        exact wp.outcome (P := fun o => Gpu.ImageStays image.id c.live o.2)
          (Gpu.stays_destroyImage spared here)
      | _ => cases ofImages
    | _ => cases ofImages

/-! ## Making a surface -/

namespace Gpu

/-- A new surface has an image of its own, without a view. -/
structure NewSurface (surface : Surface) (s t : Live Gpu) : Prop where
  image : surface.image = ⟨s.device.id, s.device.nextAlloc⟩
  frame : surface.frame = none
  named : surface.config.format.bufferFormat? = some surface.format
  assigned : t.device.assigned = s.device.assigned
  nextAlloc : s.device.nextAlloc < t.device.nextAlloc
  images : t.device.images = s.device.images.insert s.device.nextAlloc
    ⟨none, surface.config.format, surface.config.width, surface.config.height⟩

theorem importImage_ends (format : TextureFormat) (width height : UInt32) (s : Live Gpu) :
    (importImage format width height).wp
      (fun image t => image = ⟨s.device.id, s.device.nextAlloc⟩ ∧
        ∃ nextAlloc, s.device.nextAlloc < nextAlloc ∧ t = { s with device := { s.device with
          nextAlloc, images :=
            s.device.images.insert s.device.nextAlloc ⟨none, format, width, height⟩ } })
      (fun _ t => t = s) s := by
  have taken := wp_takeImage ⟨none, format, width, height⟩
    (fun id => (⟨s.device.id, id⟩ : Allocation)) s
  simp only [importImage, registeredId, wp_bind, Live.wp_self, wp_require, wp_pure] at taken ⊢
  exact ⟨fun _ => taken, fun _ => trivial⟩

theorem wp_surfaceImage {config : SurfaceConfig} {Q : Allocation → Live Gpu → Prop}
    {E : Fault → Live Gpu → Prop} {s : Live Gpu} :
    (surfaceImage config).wp Q E s ↔
      (importImage config.format config.width config.height).wp Q
        (fun _ t => E (.setup .surfaceImage) t) s := by
  unfold wp surfaceImage
  cases importImage config.format config.width config.height s <;> rfl

theorem createSurface_ends (request : SurfaceRequest) (s : Live Gpu) :
    (createSurface request).wp (fun surface t => NewSurface surface s t)
      (fun _ t => t.device = s.device) s := by
  simp only [createSurface, wp_bind, wp_get]
  refine (wp_ite _ _).2 ⟨fun _ => rfl, fun _ => ?_⟩
  refine (wp_ite _ _).2 ⟨fun _ => rfl, fun _ => ?_⟩
  split
  · split
    · rename_i named
      simp only [wp_bind, Live.wp_record, wp_surfaceImage]
      refine (importImage_ends _ _ _ _).mono ?_ fun _ _ same => same ▸ rfl
      rintro image _ ⟨rfl, nextAlloc, later, rfl⟩
      exact ⟨rfl, rfl, named, rfl, later, rfl⟩
    · rfl
  · rfl

end Gpu

/-! ## Calls to a device with surfaces -/

/-- A device with its client and its surfaces. -/
structure Display where
  client : Client
  surfaces : List Surface := []
  /-- The calls to surfaces that succeeded, each with the last event of the trace by then. Only
  statements look at it. -/
  done : List (Nat × SurfaceCall × Option Event) := []

inductive DisplayCall where
  | create (request : SurfaceRequest)
  /-- A call to a surface by its position. -/
  | surface (i : Nat) (call : SurfaceCall)
  | client (call : Call)

namespace Display

def create (d : Display) (request : SurfaceRequest) : Except Fault Surface × Display :=
  match (Gpu.createSurface request).outcome d.client.live with
  | (.ok surface, live) =>
    (.ok surface, { d with client.live := live, surfaces := d.surfaces ++ [surface] })
  | (.error e, live) => (.error e, { d with client.live := live })

/-- The display after a call to a surface. -/
def after (d : Display) (i : Nat) (call : SurfaceCall) (result : Except Fault Unit)
    (p : Presenting) : Display where
  client := { d.client with live := p.live }
  surfaces := d.surfaces.set i p.surface
  done := if result.isOk then d.done ++ [(i, call, p.live.platform.log.getLast?)] else d.done

/-- A call to a surface; where there is none it does nothing. -/
def ask (d : Display) (i : Nat) (call : SurfaceCall) : Except Fault Unit × Display :=
  match d.surfaces[i]? with
  | none => (.ok (), d)
  | some surface =>
    let (result, p) := call.run.outcome ⟨d.client.live, surface⟩
    (result, d.after i call result p)

end Display

def DisplayCall.step : DisplayCall → Display → Display
  | .create request, d => (d.create request).2
  | .surface i call, d => (d.ask i call).2
  | .client call, d => { d with client := (call.step d.client).2 }

/-- The call leaves an image alone, but for what its surface does to it. -/
def DisplayCall.Spares (image : Allocation) : DisplayCall → Prop
  | .client call => call.Spares image
  | _ => True

namespace Display

def run (d : Display) (calls : List DisplayCall) : Display :=
  calls.foldl (fun d call => call.step d) d

/-- A device that was just brought up, and all that its client and its surfaces can come to. -/
def Reachable (d : Display) : Prop :=
  ∃ client : Client, client.Fresh ∧ ∃ calls, d = run { client } calls

/-- The calls to one surface that succeeded. -/
def doneBy (d : Display) (i : Nat) : List (SurfaceCall × Option Event) :=
  d.done.filterMap fun e => if e.1 = i then some e.2 else none

end Display

end DeviceLayer
