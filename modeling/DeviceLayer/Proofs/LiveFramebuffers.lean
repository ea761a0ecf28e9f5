import DeviceLayer.Proofs.SharedObjects
import Mathlib.Data.List.Induction

/-!
# Framebuffers and the images they name

A framebuffer is described by the images it draws to. They are looked at when the description comes
for the first time, by their numbers alone, and never again: a description that was resolved once is
resolved ever after, also when its images are gone, and whatever device its images are said to be
of.

* `Gpu.HasImages`, `Gpu.LiveImage` — the images are there, or are live images of the device itself.
* `Gpu.wp_framebuffer_iff` — what resolving a description comes to, in every state.
* `Client.framebuffer_lasts` — a description that has a handle had its images at one time.
* `Client.framebuffer_law` — which descriptions are resolved after a run, and which had to be.
-/

namespace DeviceLayer

open DeviceLayer.Action

namespace Gpu

/-- There are images of the numbers that a description names. -/
def HasImages (g : Gpu) (desc : FramebufferDesc) : Prop :=
  ∀ a ∈ desc.attachments, (g.images.get? a.id).isSome

/-- The allocation is an image of this very device, and has not been destroyed. -/
def LiveImage (g : Gpu) (a : Allocation) : Prop :=
  a.device = g.id ∧ (g.images.get? a.id).isSome

variable {s t : Live Gpu}

/-! ## What resolving a description comes to -/

/-- Images are looked at up to the first that is not there. -/
theorem wp_lookAtImages_iff (images : List Allocation) (s : Live Gpu) :
    (images.forM fun a => discard (image a.id)).wp
      (fun _ t => t = s ∧ ∀ a ∈ images, (s.device.images.get? a.id).isSome)
      (fun e t => t = s ∧ (∃ cause, e = .device (.precondition cause)) ∧
        ¬∀ a ∈ images, (s.device.images.get? a.id).isSome) s := by
  induction images with
  | nil => exact ⟨rfl, nofun⟩
  | cons a images ih =>
    refine (wp_bind (discard (image a.id)) fun _ => images.forM _).2 ?_
    rw [wp_discard, image, wp_bind, Live.wp_self, wp_orRefuse]
    simp only [List.forall_mem_cons]
    constructor
    · intro i here
      refine ih.mono ?_ ?_
      · exact fun _ t rest => ⟨rest.1, by simp [here], rest.2⟩
      · exact fun e t failed => ⟨failed.1, failed.2.1, fun all => failed.2.2 all.2⟩
    · intro missing
      simp [missing]

/-- A description is resolved if there is a render pass that takes so many images and it has a
handle or its images are there. Else nothing changes. -/
theorem wp_framebuffer_iff (desc : FramebufferDesc) (s : Live Gpu) :
    (framebuffer desc).wp
      (fun handle t => s.device.Frames desc ∧
        ((s.device.framebuffers.lookup desc = some handle ∧ t = s) ∨
          (s.device.framebuffers.lookup desc = none ∧ s.device.HasImages desc ∧
            t = { s with device.framebuffers :=
              s.device.framebuffers.push desc ⟨desc.attachments, desc.width, desc.height⟩ })))
      (fun e t => t = s ∧ (∃ cause, e = .device (.precondition cause)) ∧
        ¬(s.device.Frames desc ∧
          (s.device.framebuffers.lookup desc ≠ none ∨ s.device.HasImages desc))) s := by
  simp only [framebuffer, renderPassInfo, wp_bind, Live.wp_self, wp_orRefuse, wp_require,
    ObjectCache.wp_getOrInsert, Live.wp_update, wp_pure]
  refine ⟨fun pass known => ⟨fun fits => ?_, fun misfits => ?_⟩, fun missing => ?_⟩
  · have framed : s.device.Frames desc := ⟨pass, known, of_decide_eq_true fits⟩
    refine ⟨fun handle found => ⟨framed, .inl ⟨found, trivial⟩⟩, fun unseen => ?_⟩
    refine (wp_lookAtImages_iff desc.attachments s).mono ?_ ?_
    · rintro _ _ ⟨rfl, there⟩
      exact ⟨framed, .inr ⟨unseen, there, rfl⟩⟩
    · rintro _ _ ⟨rfl, refused, missing⟩
      exact ⟨rfl, refused, fun resolved => resolved.2.elim (· unseen) missing⟩
  · refine ⟨trivial, ⟨_, rfl⟩, fun resolved => ?_⟩
    obtain ⟨pass', known', fits⟩ := resolved.1
    obtain rfl := Option.some.inj (known.symm.trans known')
    exact of_decide_eq_false misfits fits
  · refine ⟨trivial, ⟨_, rfl⟩, fun resolved => ?_⟩
    obtain ⟨pass, known, -⟩ := resolved.1
    cases missing.symm.trans known

/-! ## What calls do to framebuffers -/

/-- Images stay as they are, and a description that gets a handle has its images. -/
structure FramesImages (s t : Live Gpu) : Prop extends Shelves s t where
  images : t.device.images = s.device.images
  known : ∀ desc ∈ t.device.framebuffers.keys, desc ∈ s.device.framebuffers.keys ∨
    (t.device.Frames desc ∧ s.device.HasImages desc)

theorem HasImages.of_images {desc : FramebufferDesc} (h : t.device.HasImages desc)
    (images : t.device.images = s.device.images) : s.device.HasImages desc := by
  unfold HasImages at *
  rwa [images] at h

instance : Evolution FramesImages where
  refl s := ⟨Evolution.refl s, rfl, fun _ member => .inl member⟩
  trans {s t u} first second := by
    refine ⟨Evolution.trans first.toShelves second.toShelves,
      second.images.trans first.images, fun desc member => ?_⟩
    rcases second.known desc member with before | ⟨framed, there⟩
    · refine (first.known desc before).imp_right fun new => ?_
      exact ⟨new.1.lasts second.toShelves, new.2⟩
    · exact .inr ⟨framed, there.of_images first.images⟩

/-- The framebuffers are as they were. -/
theorem FramesImages.of_framebuffers (step : Shelves s t)
    (images : t.device.images = s.device.images)
    (framebuffers : t.device.framebuffers = s.device.framebuffers) : FramesImages s t :=
  ⟨step, images, fun _ member => .inl (framebuffers ▸ member)⟩

instance : Growing FramesImages where
  grows h := .of_framebuffers (Growing.grows h) rfl rfl

instance : MemoryFrame FramesImages where
  rests h := .of_framebuffers (Basis.rests h) h.images h.framebuffers
  makes h := Growing.grows h.toGrows
  placeholderFor := evolves_placeholderFor
    (fun _ _ => .of_framebuffers (Basis.makes (Platform.makes_makeBuffer _ _ _ _)) rfl rfl)
    fun _ _ => .of_framebuffers (.of_caches (Nat.le_refl _) (Evolution.refl _) rfl rfl rfl) rfl rfl
  setLayout slots s := by
    have shelves := Frame.setLayout (S := Shelves) slots s
    simp only [Gpu.setLayout, wp_bind, Live.wp_self, ObjectCache.wp_getOrInsert] at shelves ⊢
    exact ⟨fun _ _ => Evolution.refl s,
      fun unseen => .of_framebuffers (shelves.2 unseen) rfl rfl⟩
  renderPass desc s := by
    have shelves := Frame.renderPass (S := Shelves) desc s
    simp only [renderPass, wp_bind, Live.wp_self, ObjectCache.wp_getOrInsert, wp_checked,
      Live.wp_update, wp_pure] at shelves ⊢
    exact ⟨fun _ _ => Evolution.refl s, fun unseen => ⟨fun info resolved =>
      .of_framebuffers ((shelves.2 unseen).1 info resolved) rfl rfl, fun _ _ => Evolution.refl s⟩⟩
  framebuffer desc s := by
    refine ((wp_framebuffer_iff desc s).and (framebuffer_ends desc s)).mono ?_ ?_
    · rintro handle t ⟨⟨framed, ⟨-, rfl⟩ | ⟨-, there, rfl⟩⟩, ⟨framed', -⟩, step⟩
      · exact Evolution.refl _
      · refine ⟨step, rfl, fun desc' member => ?_⟩
        rw [ObjectCache.keys_push] at member
        refine (List.mem_append.1 member).imp_right fun new => ?_
        obtain rfl := List.mem_singleton.1 new
        exact ⟨framed', there⟩
    · rintro _ _ ⟨⟨rfl, -⟩, -⟩
      exact Evolution.refl _
  buffers _ := .of_framebuffers (MemoryFrame.buffers _) rfl rfl
  works h := .of_framebuffers (MemoryFrame.works h) rfl rfl

instance : ListFrame FramesImages where
  custody _ _ := .of_framebuffers (ListFrame.custody _ _) rfl rfl
  pool _ _ := .of_framebuffers (ListFrame.pool _ _) rfl rfl
  polled _ := .of_framebuffers (ListFrame.polled _) rfl rfl

/-- The framebuffers stay as they are. -/
def KeepsFramebuffers (s t : Live Gpu) : Prop := t.device.framebuffers = s.device.framebuffers

instance : ImageBasis KeepsFramebuffers where
  refl _ := rfl
  trans first second := second.trans first
  rests h := h.framebuffers
  makes _ := rfl
  images _ := rfl

end Gpu

namespace Client

/-- A call that makes or destroys images makes no framebuffer, and one that makes a framebuffer
finds its images there. -/
theorem step_framebuffers (call : Call) (c : Client) :
    ∀ desc ∈ (call.step c).2.live.device.framebuffers.keys,
      desc ∈ c.live.device.framebuffers.keys ∨
        ((call.step c).2.live.device.Frames desc ∧ c.live.device.HasImages desc) := by
  cases ofImages : call.ofImages with
  | false => exact (call.framed (S := Gpu.FramesImages) ofImages c).known
  | true =>
    cases call with
    | device call =>
      have kept := (call.framedImage (S := Gpu.KeepsFramebuffers) ofImages).outcome c.live
      exact fun desc member => .inl (kept ▸ member)
    | _ => cases ofImages

variable {start : Client}

theorem run_concat (calls : List Call) (call : Call) :
    start.run (calls ++ [call]) = (call.step (start.run calls)).2 := List.foldl_append

/-- A description that has a handle has its render pass, and its images were there at one time. -/
theorem framebuffer_lasts (fresh : start.Fresh) (calls : List Call) :
    ∀ desc ∈ (start.run calls).live.device.framebuffers.keys,
      (start.run calls).live.device.Frames desc ∧
        ∃ done, done <+: calls ∧ (start.run done).live.device.HasImages desc := by
  induction calls using List.reverseRecOn with
  | nil =>
    obtain ⟨_, created, _⟩ := fresh
    obtain ⟨_, _, _, rfl, -⟩ := Gpu.create_eq_ok created
    exact nofun
  | append_singleton calls call ih =>
    intro desc member
    rw [run_concat] at member ⊢
    have shelves : Gpu.Shelves _ _ := call.framedImage (start.run calls)
    rcases step_framebuffers call (start.run calls) desc member with before | ⟨framed, there⟩
    · obtain ⟨framed, done, sooner, there⟩ := ih desc before
      exact ⟨framed.lasts shelves, done, sooner.trans (List.prefix_append _ _), there⟩
    · exact ⟨framed, calls, List.prefix_append _ _, there⟩

/-- The description was resolved before. -/
def HasFramebuffer (c : Client) (desc : FramebufferDesc) : Prop :=
  c.live.device.framebuffers.lookup desc ≠ none

/-- The description is resolved if the client asks for it now. -/
def Resolves (c : Client) (desc : FramebufferDesc) : Prop :=
  ∃ handle t, c.onDevice (Gpu.framebuffer desc) = (.ok handle, t)

/-- What becomes of a description in a state of the client. -/
theorem resolves_or_refuses (c : Client) (desc : FramebufferDesc) :
    (c.Resolves desc ∧ c.live.device.Frames desc ∧
        (c.HasFramebuffer desc ∨ c.live.device.HasImages desc)) ∨
      ((∃ cause, c.onDevice (Gpu.framebuffer desc) = (.error (.device (.precondition cause)), c)) ∧
        ¬(c.live.device.Frames desc ∧
          (c.HasFramebuffer desc ∨ c.live.device.HasImages desc))) := by
  have law := Gpu.wp_framebuffer_iff desc c.live
  cases ended : (Gpu.framebuffer desc).outcome c.live with
  | mk result t =>
    cases result with
    | ok handle =>
      obtain ⟨framed, way⟩ := law.ended ended
      refine .inl ⟨⟨handle, { c with live := t }, by rw [onDevice, ended]⟩, framed, ?_⟩
      exact way.imp (fun hit => by simp [HasFramebuffer, hit.1]) fun new => new.2.1
    | error e =>
      obtain ⟨rfl, ⟨cause, rfl⟩, unresolved⟩ := law.failed ended
      exact .inr ⟨⟨cause, by rw [onDevice, ended]⟩, unresolved⟩

/-- What becomes of a description after a run. -/
structure FramebufferLaw (start : Client) (calls : List Call) (desc : FramebufferDesc) : Prop where
  /-- It is resolved if it was before, or if there are a render pass for it and its images. -/
  resolves_iff : (start.run calls).Resolves desc ↔
    (start.run calls).HasFramebuffer desc ∨
      (start.run calls).live.device.Frames desc ∧ (start.run calls).live.device.HasImages desc
  /-- Otherwise it is refused, and nothing changes. -/
  refused : ¬(start.run calls).Resolves desc → ∃ cause,
    (start.run calls).onDevice (Gpu.framebuffer desc) =
      (.error (.device (.precondition cause)), start.run calls)
  /-- If it was resolved before, all its images were there at one moment of the run. -/
  lasts : (start.run calls).HasFramebuffer desc → ∃ done, done <+: calls ∧
    (start.run done).live.device.HasImages desc
  /-- One that names an image that never was is not resolved. -/
  never : ∀ a ∈ desc.attachments,
    (∀ done, done <+: calls → (start.run done).live.device.images.get? a.id = none) →
      ¬(start.run calls).Resolves desc
  /-- What is resolved is of live images of this device exactly if what was resolved before is of
  such images still, and what was not names no other device. -/
  live_iff : ((start.run calls).Resolves desc →
      ∀ a ∈ desc.attachments, (start.run calls).live.device.LiveImage a) ↔
    ((start.run calls).HasFramebuffer desc →
      ∀ a ∈ desc.attachments, (start.run calls).live.device.LiveImage a) ∧
    ((start.run calls).live.device.Frames desc ∧ (start.run calls).live.device.HasImages desc →
      ∀ a ∈ desc.attachments, a.device = (start.run calls).live.device.id)

/-- A description with a handle is resolved whatever became of its images, and one that comes for
the first time whatever device its images are said to be of. Only images that never were, and those
that are gone before their description comes, are missed. -/
theorem framebuffer_law (fresh : start.Fresh) (calls : List Call) (desc : FramebufferDesc) :
    FramebufferLaw start calls desc := by
  have history (seen : (start.run calls).HasFramebuffer desc) :=
    framebuffer_lasts fresh calls desc (not_not.1 (mt ObjectCache.lookup_eq_none_iff.2 seen))
  have resolves_iff : (start.run calls).Resolves desc ↔
      (start.run calls).HasFramebuffer desc ∨
        (start.run calls).live.device.Frames desc ∧
          (start.run calls).live.device.HasImages desc := by
    rcases (start.run calls).resolves_or_refuses desc with
      ⟨resolved, framed, way⟩ | ⟨⟨cause, failed⟩, unresolved⟩
    · exact iff_of_true resolved (way.imp_right fun there => ⟨framed, there⟩)
    · refine iff_of_false ?_ ?_
      · rintro ⟨handle, t, resolved⟩
        cases (congrArg Prod.fst resolved).symm.trans (congrArg Prod.fst failed)
      · rintro (seen | ⟨framed, there⟩)
        · exact unresolved ⟨(history seen).1, .inl seen⟩
        · exact unresolved ⟨framed, .inr there⟩
  refine ⟨resolves_iff, fun unresolved => ?_, fun seen => (history seen).2, ?_, ?_⟩
  · exact ((start.run calls).resolves_or_refuses desc).elim
      (fun resolved => absurd resolved.1 unresolved) And.left
  · intro a member never resolved
    have once : ∃ done, done <+: calls ∧ (start.run done).live.device.HasImages desc := by
      rcases resolves_iff.1 resolved with seen | ⟨-, there⟩
      · exact (history seen).2
      · exact ⟨calls, List.prefix_refl _, there⟩
    obtain ⟨done, sooner, there⟩ := once
    have known := there a member
    rw [never done sooner] at known
    cases known
  · rw [resolves_iff, or_imp]
    refine and_congr_right fun _ => forall_congr' fun there => ?_
    exact forall₂_congr fun a member => and_iff_left (there.2 a member)

/-- A framebuffer over one image. -/
def overImage (device : DeviceId) : FramebufferDesc := ⟨[⟨device, 0⟩], 4, 4, ⟨0⟩⟩

/-- An image of 4 by 4 pixels, and a render pass for it. -/
def imageCalls : List Call :=
  [.device (.createImage .rgba8 4 4), .device (.renderPass ⟨[(.rgba8, false)], none, false⟩)]

theorem framebuffer_law_resolved :
    (opened ⟨1⟩).Fresh ∧ FramebufferLaw (opened ⟨1⟩) imageCalls (overImage ⟨1⟩) ∧
      ((opened ⟨1⟩).run imageCalls).Resolves (overImage ⟨1⟩) := by
  have law := framebuffer_law (fresh_opened ⟨1⟩) imageCalls (overImage ⟨1⟩)
  refine ⟨fresh_opened ⟨1⟩, law, law.resolves_iff.2 (.inr ⟨?_, ?_⟩)⟩
  · exact ⟨⟨[.rgba8Unorm], [false], none, false⟩, by rfl, by rfl⟩
  · exact List.forall_mem_singleton.2 (by decide +kernel)

/-- A framebuffer outlives its image, and an image of another device passes for one of this. -/
theorem framebuffer_of_no_image :
    let gone := (opened ⟨1⟩).run (imageCalls ++
      [.device (.framebuffer (overImage ⟨1⟩)), .device (.destroyImage ⟨⟨1⟩, 0⟩)])
    let there := (opened ⟨1⟩).run imageCalls
    (gone.Resolves (overImage ⟨1⟩) ∧ ¬gone.live.device.LiveImage ⟨⟨1⟩, 0⟩) ∧
      (there.Resolves (overImage ⟨2⟩) ∧ ¬there.live.device.LiveImage ⟨⟨2⟩, 0⟩) := by
  refine ⟨⟨⟨⟨0⟩, _, Prod.ext (by rfl) rfl⟩, ?_⟩, ⟨⟨⟨0⟩, _, Prod.ext (by rfl) rfl⟩, ?_⟩⟩
  · rintro ⟨-, there⟩
    exact absurd there (by decide +kernel)
  · rintro ⟨own, -⟩
    exact absurd own (by decide +kernel)

end Client

end DeviceLayer
