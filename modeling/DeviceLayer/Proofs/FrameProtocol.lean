import DeviceLayer.Proofs.SharedObjects
import DeviceLayer.Surface.Chain

/-!
# Frames of a surface

A surface has one image for all its frames. The image has a view while a frame is held, and what is
drawn to it then is drawn to the frame.

* `Asked` — what asking for a frame leaves in the trace, and what comes of it.
* `SurfaceEnd`, `SurfaceCall.ends` — all that can come of a call to a surface.
* `Gpu.Shows` — the image of a surface has the view and the extent of the frame that is held.
* `Gpu.Resolves`, `Gpu.Shows.resolves` — what drawing to the image comes to then.
-/

namespace DeviceLayer

open DeviceLayer.Action

/-- A frame that a surface was given, and its extent. -/
structure GivenFrame where
  texture : Texture
  width : UInt32
  height : UInt32

/-- What asking a surface for a frame leaves in the trace, and what comes of it. Only a surface that
was lost or is outdated is set up anew, once, and asked a second time. -/
inductive Asked (config : SurfaceConfig) : List Event → Except Fault GivenFrame → Prop where
  | given (f : GivenFrame) : Asked config [.acquire f.texture f.width f.height] (.ok f)
  | failed {e : SurfaceError} (other : e ≠ .lost ∧ e ≠ .outdated) :
    Asked config [.acquireFailed e] (.error (.device (.backend (.acquire e))))
  | givenAgain {e : SurfaceError} (renews : e = .lost ∨ e = .outdated) (f : GivenFrame) :
    Asked config [.acquireFailed e, .configure config, .acquire f.texture f.width f.height] (.ok f)
  | failedAgain {e : SurfaceError} (renews : e = .lost ∨ e = .outdated) (e' : SurfaceError) :
    Asked config [.acquireFailed e, .configure config, .acquireFailed e']
      (.error (.device (.backend (.acquireAfterReconfigure e'))))

/-- What a surface would give next. -/
def Platform.nextFrame (p : Platform) (config : SurfaceConfig) : FrameOutcome :=
  p.script.frames.headD (.frame config.width config.height)

/-- Asking once for a frame gives what is next, and leaves that in the trace. -/
theorem Platform.acquireFrame_eq (c : Connection) (config : SurfaceConfig) (p : Platform) :
    match p.nextFrame config with
    | .frame width height => ∃ texture q,
      p.acquireFrame c config = (.ok (texture, width, height), q) ∧
        q.log = p.log ++ [.acquire texture width height]
    | .failure e => ∃ q, p.acquireFrame c config = (.error e, q) ∧
        q.log = p.log ++ [.acquireFailed e] := by
  unfold nextFrame acquireFrame
  cases p.script.frames with
  | nil => exact ⟨_, _, rfl, rfl⟩
  | cons outcome rest =>
    cases outcome with
    | frame width height => exact ⟨_, _, rfl, rfl⟩
    | failure e => exact ⟨_, rfl, rfl⟩

namespace Presenting

variable {α : Type} {p : Presenting} {Q : α → Presenting → Prop} {E : Fault → Presenting → Prop}

@[simp] theorem wp_onDevice (a : Action (Live Gpu) α) :
    (onDevice a).wp Q E p ↔
      a.wp (fun x t => Q x { p with live := t }) (fun e t => E e { p with live := t }) p.live :=
  Action.wp_within _ _ _

@[simp] theorem wp_current {Q : Surface → Presenting → Prop} :
    current.wp Q E p ↔ Q p.surface p := Iff.rfl

@[simp] theorem wp_updateSurface {Q : Unit → Presenting → Prop} (f : Surface → Surface) :
    (updateSurface f).wp Q E p ↔ Q () { p with surface := f p.surface } := Iff.rfl

/-- What becomes of a surface and its device where a frame was asked for. -/
structure Asks (p q : Presenting) (result : Except Fault GivenFrame) : Prop where
  device : q.live.device = p.live.device
  surface : q.surface = p.surface
  events : ∃ events, Asked p.surface.config events result ∧
    q.live.platform.log = p.live.platform.log ++ events
  /-- What is next is given. -/
  next : ∀ {width height : UInt32},
    p.live.platform.nextFrame p.surface.config = .frame width height →
      ∃ texture, result = .ok ⟨texture, width, height⟩

theorem requestFrame_ends (p : Presenting) :
    requestFrame.wp
      (fun answer q => q.live.device = p.live.device ∧ q.surface = p.surface ∧
        match p.live.platform.nextFrame p.surface.config with
        | .frame width height => ∃ texture, answer = .ok (texture, width, height) ∧
          q.live.platform.log = p.live.platform.log ++ [.acquire texture width height]
        | .failure e => answer = .error e ∧
          q.live.platform.log = p.live.platform.log ++ [.acquireFailed e])
      (fun _ _ => False) p := by
  simp only [requestFrame, Gpu.request, wp_bind, wp_current, wp_onDevice, Live.wp_self,
    Live.wp_request, true_and]
  have answered := p.live.platform.acquireFrame_eq p.live.device.connection p.surface.config
  cases next : p.live.platform.nextFrame p.surface.config with
  | frame width height =>
    rw [next] at answered
    obtain ⟨texture, q, given, log⟩ := answered
    rw [given]
    exact ⟨texture, rfl, log⟩
  | failure e =>
    rw [next] at answered
    obtain ⟨q, failed, log⟩ := answered
    rw [failed]
    exact ⟨rfl, log⟩

/-- What is done about a surface that was lost or is outdated. -/
theorem reacquire_ends {p q : Presenting} {e : SurfaceError} (renews : e = .lost ∨ e = .outdated)
    (device : q.live.device = p.live.device) (surface : q.surface = p.surface)
    (log : q.live.platform.log = p.live.platform.log ++ [.acquireFailed e])
    (next : p.live.platform.nextFrame p.surface.config = .failure e) :
    (do
      configure
      match ← requestFrame with
      | .ok frame => pure frame
      | .error e => Action.backend (.acquireAfterReconfigure e) :
        Action Presenting (Texture × UInt32 × UInt32)).wp
      (fun given r => Asks p r (.ok ⟨given.1, given.2.1, given.2.2⟩))
      (fun e r => Asks p r (.error e)) q := by
  have missing {width height : UInt32} {result : Except Fault GivenFrame}
      (next' : p.live.platform.nextFrame p.surface.config = .frame width height) :
      ∃ texture, result = .ok ⟨texture, width, height⟩ := by
    cases next.symm.trans next'
  simp only [configure, wp_bind, wp_current, wp_onDevice, Live.wp_record]
  refine (requestFrame_ends _).mono ?_ fun _ _ => False.elim
  rintro answer r ⟨device', surface', answered⟩
  have device'' := device'.trans device
  have surface'' := surface'.trans surface
  split at answered
  · obtain ⟨texture, rfl, log'⟩ := answered
    refine ⟨device'', surface'', ⟨_, .givenAgain renews ⟨_, _, _⟩, ?_⟩, missing⟩
    rw [log', Platform.record, log, surface]
    simp
  · obtain ⟨rfl, log'⟩ := answered
    refine ⟨device'', surface'', ⟨_, .failedAgain renews _, ?_⟩, missing⟩
    rw [log', Platform.record, log, surface]
    simp

theorem acquire_ends (p : Presenting) :
    acquire.wp (fun given q => Asks p q (.ok ⟨given.1, given.2.1, given.2.2⟩))
      (fun e q => Asks p q (.error e)) p := by
  rw [acquire, wp_bind]
  refine (requestFrame_ends p).mono ?_ fun _ _ => False.elim
  rintro answer q ⟨device, surface, answered⟩
  cases next : p.live.platform.nextFrame p.surface.config with
  | frame width height =>
    rw [next] at answered
    obtain ⟨texture, rfl, log⟩ := answered
    refine ⟨device, surface, ⟨_, .given ⟨texture, width, height⟩, log⟩, fun next' => ?_⟩
    cases next.symm.trans next'
    exact ⟨texture, rfl⟩
  | failure e =>
    rw [next] at answered
    obtain ⟨rfl, log⟩ := answered
    have failed (other : e ≠ .lost ∧ e ≠ .outdated) :
        Asks p q (.error (.device (.backend (.acquire e)))) := by
      refine ⟨device, surface, ⟨_, .failed other, log⟩, fun next' => ?_⟩
      cases next.symm.trans next'
    cases e with
    | lost => exact reacquire_ends (.inl rfl) device surface log next
    | outdated => exact reacquire_ends (.inr rfl) device surface log next
    | timeout | outOfMemory | other => exact failed ⟨by decide, by decide⟩

/-- The device with another view of the image of its surface. -/
def withView (p : Presenting) (entry : Image) (view : Option Texture) (width height : UInt32) :
    Gpu :=
  { p.live.device with
    images := p.live.device.images.insert p.surface.image.id { entry with view, width, height } }

end Presenting

theorem Gpu.wp_bindView {s : Live Gpu} {image : Allocation} {entry : Image}
    (known : s.device.images.get? image.id = some entry) (view : Option Texture)
    (width height : UInt32) {Q : Unit → Live Gpu → Prop} {E : Fault → Live Gpu → Prop} :
    (bindView image view width height).wp Q E s ↔
      Q () { s with device := { s.device with
        images := s.device.images.insert image.id { entry with view, width, height } } } := by
  simp [bindView, Gpu.image, putImage, known]

/-! ## Calls to a surface -/

inductive SurfaceCall where
  | target
  | present
  | resize (width height : UInt32)

def SurfaceCall.run : SurfaceCall → Action Presenting Unit
  | .target => discard Presenting.targetImage
  | .present => Presenting.presentImage
  | .resize width height => Presenting.resize width height

/-- All that can come of a call to a surface whose image is there. -/
inductive SurfaceEnd (p : Presenting) (entry : Image) :
    SurfaceCall → Except Fault Unit → Presenting → Prop where
  | notPresented (held : p.surface.frame ≠ none) :
    SurfaceEnd p entry .target (.error (.device (.precondition .frameNotPresented))) p
  | given {f : GivenFrame} {q : Platform} {events : List Event} (free : p.surface.frame = none)
    (asked : Asked p.surface.config events (.ok f)) (log : q.log = p.live.platform.log ++ events)
    (next : ∀ {width height : UInt32},
      p.live.platform.nextFrame p.surface.config = .frame width height →
        f.width = width ∧ f.height = height) :
    SurfaceEnd p entry .target (.ok ())
      ⟨⟨q, p.withView entry (some f.texture) f.width f.height⟩,
        { p.surface with frame := some f.texture }⟩
  | notGiven {e : Fault} {q : Platform} {events : List Event} (free : p.surface.frame = none)
    (asked : Asked p.surface.config events (.error e))
    (log : q.log = p.live.platform.log ++ events)
    (next : ∀ width height, p.live.platform.nextFrame p.surface.config ≠ .frame width height) :
    SurfaceEnd p entry .target (.error e) ⟨⟨q, p.live.device⟩, p.surface⟩
  | noFrame (free : p.surface.frame = none) :
    SurfaceEnd p entry .present (.error (.device (.precondition .noFrame))) p
  | presented {frame : Texture} (held : p.surface.frame = some frame) :
    SurfaceEnd p entry .present (.ok ())
      ⟨⟨p.live.platform.record (.present frame),
        p.withView entry none p.surface.config.width p.surface.config.height⟩,
        { p.surface with frame := none }⟩
  | resized {width height : UInt32} {q : Platform} {config : SurfaceConfig}
    (format : config.format = p.surface.config.format) :
    SurfaceEnd p entry (.resize width height) (.ok ())
      ⟨⟨q, p.live.device⟩, { p.surface with config }⟩

theorem SurfaceCall.ends {p : Presenting} {entry : Image}
    (known : p.live.device.images.get? p.surface.image.id = some entry) (call : SurfaceCall) :
    call.run.wp (fun _ q => SurfaceEnd p entry call (.ok ()) q)
      (fun e q => SurfaceEnd p entry call (.error e) q) p := by
  open Presenting in
  cases call with
  | target =>
    simp only [SurfaceCall.run, wp_discard, targetImage, wp_bind, wp_current, wp_require]
    refine ⟨fun free => ?_, fun held => .notPresented fun free => ?_⟩
    · have free := Option.isNone_iff_eq_none.1 free
      refine (acquire_ends p).mono ?_ ?_
      · rintro ⟨texture, width, height⟩ ⟨⟨q, g⟩, surface⟩ ⟨rfl, rfl, ⟨events, asked, log⟩, next⟩
        simp only [wp_onDevice, wp_updateSurface, wp_pure]
        refine (Gpu.wp_bindView (s := ⟨q, p.live.device⟩) known _ _ _).2 ?_
        refine .given free asked log fun next' => ?_
        obtain ⟨_, given⟩ := next next'
        cases given
        exact ⟨rfl, rfl⟩
      · rintro e ⟨⟨q, g⟩, surface⟩ ⟨rfl, rfl, ⟨events, asked, log⟩, next⟩
        refine .notGiven free asked log fun width height next' => ?_
        obtain ⟨_, given⟩ := next next'
        cases given
    · rw [free] at held
      cases held
  | present =>
    simp only [SurfaceCall.run, presentImage, wp_bind, wp_current, wp_orRefuse, wp_updateSurface,
      wp_onDevice, Gpu.wp_bindView known, Live.wp_record]
    exact ⟨fun frame held => .presented held, fun free => .noFrame free⟩
  | resize width height =>
    exact (wp_ite _ _).2 ⟨fun _ => .resized rfl, fun _ => .resized rfl⟩

/-! ## What drawing to the image comes to -/

namespace Gpu

variable {s : Live Gpu} {image : Allocation} {format : TextureFormat} {held : Option GivenFrame}

/-- The image of a surface has a view while a frame is held, and the extent of that frame. -/
structure Shows (g : Gpu) (image : Allocation) (format : TextureFormat)
    (held : Option GivenFrame) : Prop where
  here : image.device = g.id
  entry : ∃ entry, g.images.get? image.id = some entry ∧ entry.format = format ∧
    entry.view = held.map (·.texture) ∧
      ∀ f, held = some f → entry.width = f.width ∧ entry.height = f.height

/-- The images that a render pass is begun over. -/
def attached (colors : List Attachment) (depth : Option Attachment) : List Allocation :=
  colors.map (·.image) ++ (depth.map (·.image)).toList

/-- What the image of a surface is resolved to: the frame that is held, with its extent, and nothing
while there is none. -/
structure Resolves (s : Live Gpu) (image : Allocation) (format : TextureFormat)
    (held : Option GivenFrame) : Prop where
  target : ∀ f, held = some f →
    (imageTarget image).outcome s = (.ok ⟨f.texture, format, f.width, f.height⟩, s)
  noTarget : held = none →
    (imageTarget image).outcome s = (.error (.device (.precondition (.noView image.id))), s)
  /-- As an attachment of a render pass it is the frame, next to others of the same extent. -/
  attachment : ∀ f, held = some f → ∀ interface, format.bufferFormat? = some interface →
    ∀ extent : Option (UInt32 × UInt32), (∀ e, extent = some e → e = (f.width, f.height)) →
      ∀ clear, (Recording.resolveAttachment extent ⟨image, clear⟩).outcome s =
        (.ok (interface, f.texture, (f.width, f.height)), s)
  /-- A render pass that begins over it has a framebuffer of the frame's extent. -/
  pass : ∀ f, held = some f → ∀ (list : CommandList) (area : RenderArea)
    (colors : List Attachment) (depth : Option Attachment), image ∈ attached colors depth →
      ∀ t, (Recording.beginPass area colors depth).outcome ⟨s, list⟩ = (.ok (), t) →
        ∃ pass, t.list.target = some ⟨pass, area⟩ ∧ ∃ framebuffer,
          t.live.device.framebuffers.lookup ⟨attached colors depth, f.width, f.height, pass⟩ =
            some framebuffer
  /-- No render pass begins over it, and trying changes nothing. -/
  noPass : held = none → ∀ (list : CommandList) (area : RenderArea) (colors : List Attachment)
    (depth : Option Attachment), image ∈ attached colors depth →
      ∃ e, (Recording.beginPass area colors depth).outcome ⟨s, list⟩ = (.error e, ⟨s, list⟩)

theorem Shows.target {f : GivenFrame} (h : s.device.Shows image format (some f)) :
    (imageTarget image).outcome s = (.ok ⟨f.texture, format, f.width, f.height⟩, s) := by
  obtain ⟨here, entry, known, named, view, extent⟩ := h
  obtain ⟨width, height⟩ := extent f rfl
  let target : ImageTarget := ⟨f.texture, format, f.width, f.height⟩
  refine wp.outcome (P := fun o => o = (.ok target, s)) ?_
  simp [target, imageTarget, checkLocal, Gpu.image, here, known, named, view, width, height]

theorem Shows.noTarget (h : s.device.Shows image format none) :
    (imageTarget image).outcome s = (.error (.device (.precondition (.noView image.id))), s) := by
  obtain ⟨here, entry, known, rfl, view, -⟩ := h
  refine wp.outcome (P := fun o => o = (.error (.device (.precondition (.noView image.id))), s)) ?_
  simp [imageTarget, checkLocal, Gpu.image, here, known, view]

theorem Shows.attachment {f : GivenFrame} (h : s.device.Shows image format (some f))
    {interface : BufferFormat} (named : format.bufferFormat? = some interface)
    {extent : Option (UInt32 × UInt32)} (same : ∀ e, extent = some e → e = (f.width, f.height))
    (clear : Bool) :
    (Recording.resolveAttachment extent ⟨image, clear⟩).outcome s =
      (.ok (interface, f.texture, (f.width, f.height)), s) := by
  have covers : extent.getD (f.width, f.height) = (f.width, f.height) := by
    cases extent with
    | none => rfl
    | some e => exact same e rfl
  simp only [Recording.resolveAttachment, outcome_bind, h.target, covers]
  simp [Action.require, Action.orRefuse, named]
  rfl

end Gpu

/-! ## Render passes over it -/

namespace Recording

variable {s : Live Gpu}

/-- The image has a view, and the extent that a render pass is begun with. -/
def Covers (s : Live Gpu) (extent : Option (UInt32 × UInt32)) (image : Allocation) : Prop :=
  ∃ entry, s.device.images.get? image.id = some entry ∧ entry.view ≠ none ∧
    extent = some (entry.width, entry.height)

theorem resolveAttachment_ends (extent : Option (UInt32 × UInt32)) (a : Attachment)
    (s : Live Gpu) :
    (resolveAttachment extent a).wp
      (fun found t => t = s ∧ Covers s (some found.2.2) a.image ∧
        ∀ e, extent = some e → e = found.2.2)
      (fun _ t => t = s) s := by
  simp only [resolveAttachment, Gpu.imageTarget, Gpu.checkLocal, Gpu.image, wp_bind, Live.wp_self,
    wp_require, wp_orRefuse, wp_pure, decide_eq_true_eq, implies_true, and_true, true_and]
  intro _ entry known view shown same _ _
  refine ⟨⟨entry, known, by simp [shown], congrArg some same⟩, ?_⟩
  rintro e rfl
  rfl

theorem collect_ends (colors : List Attachment) (c : Attachments) (s : Live Gpu) :
    (colors.foldlM Attachments.add c).wp
      (fun c' t => t = s ∧ c'.images = c.images ++ colors.map (·.image) ∧
        (∀ e, c.extent = some e → c'.extent = some e) ∧
        ∀ a ∈ colors, Covers s c'.extent a.image)
      (fun _ t => t = s) s := by
  induction colors generalizing c with
  | nil => exact ⟨rfl, (List.append_nil _).symm, fun _ => id, nofun⟩
  | cons a colors ih =>
    rw [List.foldlM_cons, Attachments.add]
    simp only [wp_bind]
    refine (resolveAttachment_ends c.extent a s).mono ?_ fun _ _ same => same
    rintro ⟨format, view, extent⟩ _ ⟨rfl, covers, same⟩
    rw [wp_pure]
    refine (ih _).mono ?_ fun _ _ same => same
    rintro c' _ ⟨rfl, images, extends', rest⟩
    have kept : c'.extent = some extent := extends' _ rfl
    refine ⟨rfl, by simp [images], fun e first => ?_, fun a' member => ?_⟩
    · rw [kept, same e first]
    · rcases List.mem_cons.1 member with rfl | later
      · exact kept ▸ covers
      · exact rest a' later

theorem resolveDepth_ends (extent : Option (UInt32 × UInt32)) (depth : Option Attachment)
    (s : Live Gpu) :
    (depth.mapM (resolveAttachment extent)).wp
      (fun d t => t = s ∧ ∀ a, depth = some a → Covers s (extent <|> d.map (·.2.2)) a.image)
      (fun _ t => t = s) s := by
  cases depth with
  | none => exact ⟨rfl, nofun⟩
  | some a =>
    refine (wp_bind _ _).2 ((resolveAttachment_ends extent a s).mono ?_ fun _ _ same => same)
    rintro found _ ⟨rfl, covers, same⟩
    refine ⟨rfl, fun a' there => ?_⟩
    obtain rfl := Option.some.inj there
    cases extent with
    | none => exact covers
    | some e => exact (same e rfl) ▸ covers

/-- A render pass begins over images that have a view and one extent, with a framebuffer of this
extent; else nothing changes. -/
theorem beginPass_ends (area : RenderArea) (colors : List Attachment) (depth : Option Attachment)
    (r : Recording) :
    (beginPass area colors depth).wp
      (fun _ t => ∃ width height pass, t.list.target = some ⟨pass, area⟩ ∧
        (∀ image ∈ Gpu.attached colors depth, Covers r.live (some (width, height)) image) ∧
          ∃ framebuffer, t.live.device.framebuffers.lookup
            ⟨Gpu.attached colors depth, width, height, pass⟩ = some framebuffer)
      (fun _ t => t = r ∨ ∀ image ∈ Gpu.attached colors depth, ∃ e, Covers r.live e image) r := by
  simp only [beginPass, wp_bind, wp_checkRecording, wp_checkOutsidePass, wp_onDevice]
  refine ⟨fun _ => ⟨fun _ => ?_, fun _ => .inl trivial⟩, fun _ => .inl trivial⟩
  refine (collect_ends colors {} r.live).mono ?_ fun _ _ same => .inl (same ▸ rfl)
  rintro c _ ⟨rfl, images, -, overColors⟩
  refine (resolveDepth_ends c.extent depth r.live).mono ?_ fun _ _ same => .inl (same ▸ rfl)
  rintro d _ ⟨rfl, overDepth⟩
  have covers : ∀ image ∈ Gpu.attached colors depth,
      Covers r.live (c.extent <|> d.map (·.2.2)) image := by
    intro image member
    rcases List.mem_append.1 member with color | deep
    · obtain ⟨a, inColors, rfl⟩ := List.mem_map.1 color
      obtain ⟨entry, known, shown, extent⟩ := overColors a inColors
      exact ⟨entry, known, shown, by rw [extent]; rfl⟩
    · obtain ⟨a, there, rfl⟩ := Option.map_eq_some_iff.1 (Option.mem_toList.1 deep)
      exact overDepth a there
  have covered : ∀ image ∈ Gpu.attached colors depth, ∃ e, Covers r.live e image :=
    fun image member => ⟨_, covers image member⟩
  rw [wp_orRefuse]
  refine ⟨?_, fun _ => .inr covered⟩
  rintro ⟨width, height⟩ extent
  -- What comes after may change the caches, and only a refusal can stop it.
  refine (Gpu.renderPass_ends _ r.live).mono ?_ fun _ _ _ => .inr covered
  rintro pass t ⟨-, -⟩
  refine (Gpu.framebuffer_ends _ t).mono ?_ fun _ _ _ => .inr covered
  rintro framebuffer u ⟨⟨-, found⟩, -⟩
  refine (Gpu.evolves_framebufferInfo (S := Eq) _ u).mono ?_ fun _ _ _ => .inr covered
  rintro fb _ rfl
  refine (Gpu.evolves_renderPassInfo (S := Eq) _ u).mono ?_ fun _ _ _ => .inr covered
  rintro info _ rfl
  simp only [wp_require, wp_push, wp_updateList]
  refine ⟨fun _ => ⟨width, height, pass, rfl, extent ▸ covers, framebuffer, ?_⟩,
    fun _ => .inr covered⟩
  rw [images] at found
  exact found

end Recording

namespace Gpu

variable {s : Live Gpu} {image : Allocation} {format : TextureFormat} {held : Option GivenFrame}

theorem Shows.pass {f : GivenFrame} (h : s.device.Shows image format (some f))
    (list : CommandList) (area : RenderArea) (colors : List Attachment) (depth : Option Attachment)
    (member : image ∈ attached colors depth) {t : Recording}
    (began : (Recording.beginPass area colors depth).outcome ⟨s, list⟩ = (.ok (), t)) :
    ∃ pass, t.list.target = some ⟨pass, area⟩ ∧ ∃ framebuffer,
      t.live.device.framebuffers.lookup ⟨attached colors depth, f.width, f.height, pass⟩ =
        some framebuffer := by
  obtain ⟨-, entry, known, -, -, extent⟩ := h
  obtain ⟨width, height, pass, target, covers, framebuffer⟩ :=
    (Recording.beginPass_ends area colors depth ⟨s, list⟩).ended began
  obtain ⟨entry', known', -, sized⟩ := covers image member
  obtain rfl := Option.some.inj (known.symm.trans known')
  obtain ⟨sameWidth, sameHeight⟩ := extent f rfl
  cases sized
  exact ⟨pass, target, sameWidth ▸ sameHeight ▸ framebuffer⟩

theorem Shows.noPass (h : s.device.Shows image format none) (list : CommandList)
    (area : RenderArea) (colors : List Attachment) (depth : Option Attachment)
    (member : image ∈ attached colors depth) :
    ∃ e, (Recording.beginPass area colors depth).outcome ⟨s, list⟩ = (.error e, ⟨s, list⟩) := by
  obtain ⟨-, entry, known, -, view, -⟩ := h
  have missing {extent : Option (UInt32 × UInt32)} (covers : Recording.Covers s extent image) :
      False := by
    obtain ⟨entry', known', shown, -⟩ := covers
    obtain rfl := Option.some.inj (known.symm.trans known')
    exact shown view
  have ends := Recording.beginPass_ends area colors depth ⟨s, list⟩
  refine wp.outcome (P := fun o => ∃ e, o = (.error e, ⟨s, list⟩)) (ends.mono ?_ ?_)
  · rintro _ t ⟨_, _, _, -, covers, -⟩
    exact (missing (covers image member)).elim
  · rintro e t (rfl | covers)
    · exact ⟨e, rfl⟩
    · exact (missing (covers image member).choose_spec).elim

theorem Shows.resolves (h : s.device.Shows image format held) : Resolves s image format held where
  target := by
    rintro f rfl
    exact h.target
  noTarget := by
    rintro rfl
    exact h.noTarget
  attachment := by
    rintro f rfl interface named extent same clear
    exact h.attachment named same clear
  pass := by
    rintro f rfl list area colors depth member t began
    exact h.pass list area colors depth member began
  noPass := by
    rintro rfl list area colors depth member
    exact h.noPass list area colors depth member

end Gpu

end DeviceLayer
