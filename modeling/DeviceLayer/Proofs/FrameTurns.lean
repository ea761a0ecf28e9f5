import DeviceLayer.Proofs.Displays

/-!
# Turns of a surface

Whatever a surface answers when it is asked for frames, it takes turns: a frame is acquired, drawn
to and presented, and then the next one. Between the turns its image has no view.

* `InTurn` — frames are acquired and presented by turns.
* `Presenting.Apart`, `SurfaceCall.apart` — what a call to a surface leaves as it is.
* `Display.Holds`, `Holds.step`, `Holds.run` — what every call keeps of a surface.
* `Display.Sound.made` — it holds of a surface that was just made.
* `Display.surfaces_in_turn` — what a surface comes to, and what each call to it does then.
-/

namespace DeviceLayer

open DeviceLayer.Action

/-- Frames are acquired and presented by turns, the first turn being to acquire one. What is
presented is what was acquired last, and at the end that is held or not. -/
inductive InTurn : List (SurfaceCall × Option Event) → Option GivenFrame → Prop where
  | start : InTurn [] none
  | acquired {turns : List (SurfaceCall × Option Event)} (f : GivenFrame) : InTurn turns none →
    InTurn (turns ++ [(.target, some (.acquire f.texture f.width f.height))]) (some f)
  | presented {turns : List (SurfaceCall × Option Event)} {f : GivenFrame} :
    InTurn turns (some f) → InTurn (turns ++ [(.present, some (.present f.texture))]) none
  | resized {turns : List (SurfaceCall × Option Event)} {held : Option GivenFrame}
    (width height : UInt32) (e : Option Event) : InTurn turns held →
      InTurn (turns ++ [(.resize width height, e)]) held

/-! ## Calls to one surface -/

/-- A device and its surface after a call to the surface: of the device at most the image of the
surface is another. -/
structure Presenting.Apart (p q : Presenting) : Prop where
  image : q.surface.image = p.surface.image
  device : ∃ images, q.live.device = { p.live.device with images } ∧
    ∀ id ≠ p.surface.image.id, images.get? id = p.live.device.images.get? id

theorem Presenting.Apart.of_device {p q : Presenting} (image : q.surface.image = p.surface.image)
    (device : q.live.device = p.live.device) : p.Apart q :=
  ⟨image, p.live.device.images, device, fun _ _ => rfl⟩

theorem Presenting.Apart.numbers {p q : Presenting} (h : p.Apart q) :
    Gpu.Numbers p.live q.live := by
  obtain ⟨-, images, device, -⟩ := h
  exact ⟨by rw [device], by simp [device]⟩

theorem Presenting.Apart.elsewhere {p q : Presenting} (h : p.Apart q) {id : UInt32}
    (other : id ≠ p.surface.image.id) :
    q.live.device.images.get? id = p.live.device.images.get? id := by
  obtain ⟨-, images, device, stays⟩ := h
  rw [device]
  exact stays id other

theorem Presenting.Apart.of_view {p : Presenting} {entry : Image} {view frame : Option Texture}
    {width height : UInt32} {platform : Platform} : p.Apart
      ⟨⟨platform, p.withView entry view width height⟩, { p.surface with frame }⟩ :=
  ⟨rfl, _, rfl, fun _ other => SortedMap.get?_insert_of_ne _ _ other⟩

theorem SurfaceEnd.apart {p q : Presenting} {entry : Image} {call : SurfaceCall}
    {result : Except Fault Unit} (ended : SurfaceEnd p entry call result q) : p.Apart q := by
  cases ended with
  | given | presented => exact .of_view
  | notPresented | notGiven | noFrame | resized => exact .of_device rfl rfl

theorem SurfaceEnd.format {p q : Presenting} {entry : Image} {call : SurfaceCall}
    {result : Except Fault Unit} (ended : SurfaceEnd p entry call result q) :
    q.surface.config.format = p.surface.config.format := by
  cases ended with
  | resized format => exact format
  | notPresented | given | notGiven | noFrame | presented => rfl

theorem SurfaceCall.apart (call : SurfaceCall) (p : Presenting) :
    call.run.wp (fun _ q => p.Apart q) (fun _ q => p.Apart q) p := by
  open Presenting in
  cases known : p.live.device.images.get? p.surface.image.id with
  | some entry => exact (call.ends known).mono (fun _ _ => (·.apart)) fun _ _ => (·.apart)
  | none =>
    -- Without its image no view is given to it.
    have same : p.Apart p := .of_device rfl rfl
    cases call with
    | target =>
      simp only [SurfaceCall.run, wp_discard, targetImage, wp_bind, wp_current, wp_require]
      refine ⟨fun _ => (acquire_ends p).mono ?_ fun e q asks => ?_, fun _ => same⟩
      · rintro given ⟨⟨q, g⟩, surface⟩ ⟨rfl, rfl, -, -⟩
        simp [Gpu.bindView, Gpu.image, known, Apart.of_device]
      · exact .of_device (congrArg Surface.image asks.surface) asks.device
    | present =>
      simp [SurfaceCall.run, presentImage, Gpu.bindView, Gpu.image, known, Apart.of_device]
    | resize width height =>
      exact (wp_ite _ _).2 ⟨fun _ => same, fun _ => .of_device rfl rfl⟩

theorem Asked.getLast? {config : SurfaceConfig} {events : List Event} {f : GivenFrame}
    (asked : Asked config events (.ok f)) :
    events.getLast? = some (.acquire f.texture f.width f.height) := by
  cases asked <;> rfl

/-- What an image shows depends on its own entry only. -/
theorem Gpu.Shows.of_entry {g g' : Gpu} {image : Allocation} {format : TextureFormat}
    {held : Option GivenFrame} (h : g.Shows image format held)
    (assigned : g'.assigned = g.assigned)
    (stays : g'.images.get? image.id = g.images.get? image.id) : g'.Shows image format held := by
  refine ⟨?_, stays ▸ h.entry⟩
  rw [h.here, Gpu.id, Gpu.id, assigned]

theorem Gpu.Shows.format {g : Gpu} {image : Allocation} {format : TextureFormat}
    {held : Option GivenFrame} {entry : Image} (h : g.Shows image format held)
    (known : g.images.get? image.id = some entry) : entry.format = format := by
  obtain ⟨-, entry', known', named, -⟩ := h
  obtain rfl := Option.some.inj (known.symm.trans known')
  exact named

/-- With the view of a frame and its extent, or without a view, the image shows this. -/
theorem Presenting.shows_withView {p : Presenting} {entry : Image} {view : Option Texture}
    {width height : UInt32} {format : TextureFormat} {held : Option GivenFrame}
    (here : p.surface.image.device = p.live.device.id) (named : entry.format = format)
    (viewed : view = held.map (·.texture))
    (extent : ∀ f, held = some f → width = f.width ∧ height = f.height) :
    (p.withView entry view width height).Shows p.surface.image format held :=
  ⟨here, _, SortedMap.get?_insert_self _ _ _, named, viewed, extent⟩

/-! ## What every call keeps of a surface -/

namespace Display

variable {d : Display} {i : Nat} {s : Surface} {held : Option GivenFrame}

/-- A surface as it is by its turns. No other surface has its image. -/
structure Holds (d : Display) (i : Nat) (s : Surface) (held : Option GivenFrame) : Prop where
  there : d.surfaces[i]? = some s
  frame : s.frame = held.map (·.texture)
  others : ∀ {j : Nat} {other : Surface}, j ≠ i → d.surfaces[j]? = some other →
    other.image.id ≠ s.image.id
  known : s.image.id < d.client.live.device.nextAlloc
  shows : d.client.live.device.Shows s.image s.config.format held
  turns : InTurn (d.doneBy i) held

theorem ask_there (there : d.surfaces[i]? = some s) (call : SurfaceCall) :
    d.ask i call =
      ((call.run.outcome ⟨d.client.live, s⟩).1,
        d.after i call (call.run.outcome ⟨d.client.live, s⟩).1
          (call.run.outcome ⟨d.client.live, s⟩).2) := by
  simp only [ask, there]

theorem ask_apart (there : d.surfaces[i]? = some s) (call : SurfaceCall) :
    ∃ result p, Presenting.Apart ⟨d.client.live, s⟩ p ∧
      d.ask i call = (result, d.after i call result p) := by
  refine ⟨_, _, ?_, ask_there there call⟩
  exact wp.outcome (P := fun o => Presenting.Apart ⟨d.client.live, s⟩ o.2)
    (call.apart ⟨d.client.live, s⟩)

theorem doneBy_after_of_ne {j : Nat} (other : j ≠ i) (call : SurfaceCall)
    (result : Except Fault Unit) (p : Presenting) :
    (d.after j call result p).doneBy i = d.doneBy i := by
  unfold after doneBy
  cases result.isOk <;> simp [other]

theorem doneBy_after_ok (call : SurfaceCall) (p : Presenting) :
    (d.after i call (.ok ()) p).doneBy i =
      d.doneBy i ++ [(call, p.live.platform.log.getLast?)] := by
  simp [after, doneBy, Except.isOk, Except.toBool]

/-- The image of the surface stays as it is, and so do the surfaces that there were. -/
theorem Holds.of_image {d' : Display} (h : d.Holds i s held)
    (numbers : Gpu.Numbers d.client.live d'.client.live)
    (stays : d'.client.live.device.images.get? s.image.id =
      d.client.live.device.images.get? s.image.id)
    (there : d'.surfaces[i]? = some s)
    (others : ∀ {j : Nat} {other : Surface}, j ≠ i → d'.surfaces[j]? = some other →
      other.image.id ≠ s.image.id)
    (done : d'.doneBy i = d.doneBy i) : d'.Holds i s held where
  there := there
  frame := h.frame
  others := others
  known := UInt32.lt_of_lt_of_le h.known numbers.nextAlloc
  shows := h.shows.of_entry numbers.assigned stays
  turns := done ▸ h.turns

theorem Holds.client (h : d.Holds i s held) {call : Call} (spared : call.Spares s.image) :
    Display.Holds { d with client := (call.step d.client).2 } i s held := by
  have stays := call.imageStays spared h.shows.here
  exact h.of_image stays.toNumbers (stays.image h.known) h.there h.others rfl

/-- All that can come of making a surface. -/
theorem create_cases (d : Display) (request : SurfaceRequest) :
    (∃ e live, d.create request = (.error e, { d with client.live := live }) ∧
      live.device = d.client.live.device) ∨
    ∃ surface live, d.create request =
        (.ok surface, { d with client.live := live, surfaces := d.surfaces ++ [surface] }) ∧
      Gpu.NewSurface surface d.client.live live := by
  have ends := Gpu.createSurface_ends request d.client.live
  cases made : (Gpu.createSurface request).outcome d.client.live with
  | mk result live =>
    cases result with
    | error e => exact .inl ⟨e, live, by simp only [create, made], ends.failed made⟩
    | ok surface => exact .inr ⟨surface, live, by simp only [create, made], ends.ended made⟩

theorem create_ok {request : SurfaceRequest} {surface : Surface} {e : Display}
    (made : d.create request = (.ok surface, e)) :
    ∃ live, e = { d with client.live := live, surfaces := d.surfaces ++ [surface] } ∧
      Gpu.NewSurface surface d.client.live live := by
  obtain ⟨_, _, failed, -⟩ | ⟨_, live, made', new⟩ := d.create_cases request
  · cases failed.symm.trans made
  · cases made'.symm.trans made
    exact ⟨live, rfl, new⟩

/-- After a surface was made, each is this or one that there was before, in its place. -/
theorem getElem?_made {surface other : Surface} {j : Nat}
    (found : (d.surfaces ++ [surface])[j]? = some other) :
    d.surfaces[j]? = some other ∨ j = d.surfaces.length ∧ other = surface := by
  grind

/-- Other surfaces are made with images of their own. -/
theorem Holds.create (h : d.Holds i s held) (request : SurfaceRequest) :
    (d.create request).2.Holds i s held := by
  obtain ⟨e, live, made, same⟩ | ⟨surface, live, made, new⟩ := d.create_cases request
  · rw [made]
    have numbers : Gpu.Numbers d.client.live live := ⟨by rw [same], by simp [same]⟩
    exact h.of_image numbers (congrArg (·.images.get? s.image.id) same) h.there h.others rfl
  · rw [made]
    obtain ⟨within, -⟩ := List.getElem?_eq_some_iff.1 h.there
    have apart : s.image.id ≠ d.client.live.device.nextAlloc := UInt32.ne_of_lt h.known
    refine h.of_image ⟨new.assigned, UInt32.le_of_lt new.nextAlloc⟩ ?_ ?_ ?_ rfl
    · simp only [new.images]
      exact SortedMap.get?_insert_of_ne _ _ apart
    · exact (List.getElem?_append_left within).trans h.there
    · intro j other later found
      rcases getElem?_made found with before | ⟨-, rfl⟩
      · exact h.others later before
      · rw [new.image]
        exact apart.symm

theorem Holds.other (h : d.Holds i s held) {j : Nat} (other : j ≠ i) (call : SurfaceCall) :
    (d.ask j call).2.Holds i s held := by
  cases there : d.surfaces[j]? with
  | none => simpa only [ask, there] using h
  | some surface =>
    obtain ⟨result, p, apart, asked⟩ := ask_apart there call
    rw [asked]
    refine h.of_image apart.numbers (apart.elsewhere (h.others other there).symm) ?_ ?_
      (doneBy_after_of_ne other _ _ _)
    · exact (List.getElem?_set_ne other).trans h.there
    · -- The surface that was called keeps its image, whatever became of it.
      intro k surface' later found
      simp only [after, List.getElem?_set] at found
      split at found
      · split at found
        · cases found
          rw [apart.image]
          exact h.others other there
        · cases found
      · exact h.others later found

/-- The surface itself is called. -/
theorem Holds.after (h : d.Holds i s held) {held' : Option GivenFrame} {call : SurfaceCall}
    {result : Except Fault Unit} {p : Presenting}
    (apart : Presenting.Apart ⟨d.client.live, s⟩ p)
    (frame : p.surface.frame = held'.map (·.texture))
    (shows : p.live.device.Shows s.image p.surface.config.format held')
    (turns : InTurn ((d.after i call result p).doneBy i) held') :
    (d.after i call result p).Holds i p.surface held' where
  there := by
    obtain ⟨within, -⟩ := List.getElem?_eq_some_iff.1 h.there
    exact List.getElem?_set_self within
  frame := frame
  others other found := by
    rw [apart.image]
    exact h.others other ((List.getElem?_set_ne other.symm).symm.trans found)
  known := by
    rw [apart.image]
    exact UInt32.lt_of_lt_of_le h.known apart.numbers.nextAlloc
  shows := apart.image ▸ shows
  turns := turns

theorem set_there (there : d.surfaces[i]? = some s) : d.surfaces.set i s = d.surfaces := by
  obtain ⟨within, rfl⟩ := List.getElem?_eq_some_iff.1 there
  exact List.set_getElem_self within

/-- A call that is refused and changes nothing. -/
theorem after_same (there : d.surfaces[i]? = some s) (call : SurfaceCall) (e : Fault) :
    d.after i call (.error e) ⟨d.client.live, s⟩ = d := by
  simp [Display.after, set_there there, Except.isOk, Except.toBool]

theorem Holds.ends (h : d.Holds i s held) (call : SurfaceCall) :
    ∃ entry result p, SurfaceEnd ⟨d.client.live, s⟩ entry call result p ∧
      d.client.live.device.images.get? s.image.id = some entry ∧
      d.ask i call = (result, d.after i call result p) := by
  obtain ⟨entry, known, -⟩ := h.shows.entry
  refine ⟨entry, _, _, ?_, known, ask_there h.there call⟩
  exact wp.outcome (P := fun o => SurfaceEnd ⟨d.client.live, s⟩ entry call o.1 o.2)
    (call.ends (p := ⟨d.client.live, s⟩) known)

theorem Holds.free (h : d.Holds i s held) (none : s.frame = none) : held = .none :=
  Option.map_eq_none_iff.1 (h.frame.symm.trans none)

/-- A frame that is given is the next turn, and the image shows it from now on. -/
theorem Holds.acquired (h : d.Holds i s none) {entry : Image} {f : GivenFrame} {q : Platform}
    {events : List Event}
    (known : d.client.live.device.images.get? s.image.id = some entry)
    (asked : Asked s.config events (.ok f))
    (log : q.log = d.client.live.platform.log ++ events) :
    (d.after i .target (.ok ())
      ⟨⟨q, Presenting.withView ⟨d.client.live, s⟩ entry (some f.texture) f.width f.height⟩,
        { s with frame := some f.texture }⟩).Holds i { s with frame := some f.texture }
      (some f) := by
  have apart : Presenting.Apart ⟨d.client.live, s⟩
      ⟨⟨q, Presenting.withView ⟨d.client.live, s⟩ entry (some f.texture) f.width f.height⟩,
        { s with frame := some f.texture }⟩ := .of_view (p := ⟨d.client.live, s⟩)
  refine h.after apart rfl ?_ ?_
  · exact Presenting.shows_withView (p := ⟨d.client.live, s⟩) h.shows.here (h.shows.format known)
      rfl fun _ same => Option.some.inj same ▸ ⟨rfl, rfl⟩
  · -- What was asked ends in the frame, so the trace does.
    rw [doneBy_after_ok, log, List.getLast?_append, asked.getLast?]
    exact .acquired f h.turns

/-- What comes of a call to the surface is the next turn, or leaves the turns as they are. -/
theorem Holds.next (h : d.Holds i s held) {entry : Image} {call : SurfaceCall}
    {result : Except Fault Unit} {p : Presenting}
    (known : d.client.live.device.images.get? s.image.id = some entry)
    (ended : SurfaceEnd ⟨d.client.live, s⟩ entry call result p) :
    ∃ held', (d.after i call result p).Holds i p.surface held' := by
  have apart := ended.apart
  -- A call that is refused is no turn, and neither is one that is given no frame.
  cases ended with
  | notPresented => exact ⟨held, (after_same h.there ..).symm ▸ h⟩
  | noFrame => exact ⟨held, (after_same h.there ..).symm ▸ h⟩
  | notGiven => exact ⟨held, h.after apart h.frame h.shows h.turns⟩
  | @given f q events free asked log next =>
    obtain rfl := h.free free
    exact ⟨some f, h.acquired known asked log⟩
  | presented given =>
    obtain ⟨f, rfl, rfl⟩ := Option.map_eq_some_iff.1 (h.frame.symm.trans given)
    refine ⟨none, h.after apart rfl ?_ ?_⟩
    · exact Presenting.shows_withView (p := ⟨d.client.live, s⟩) h.shows.here
        (h.shows.format known) rfl nofun
    · rw [doneBy_after_ok, Platform.record, List.getLast?_concat]
      exact .presented h.turns
  | resized same =>
    refine ⟨held, h.after apart h.frame (same ▸ h.shows) ?_⟩
    rw [doneBy_after_ok]
    exact .resized _ _ _ h.turns

/-- One call, to the surface or to anything else. -/
theorem Holds.step (h : d.Holds i s held) {call : DisplayCall} (spared : call.Spares s.image) :
    ∃ s' held', s'.image = s.image ∧ s'.config.format = s.config.format ∧
      (call.step d).Holds i s' held' := by
  cases call with
  | create request => exact ⟨s, held, rfl, rfl, h.create request⟩
  | client call => exact ⟨s, held, rfl, rfl, h.client spared⟩
  | surface j call =>
    by_cases same : j = i
    · subst same
      obtain ⟨entry, result, p, ended, known, asked⟩ := h.ends call
      obtain ⟨held', holds⟩ := h.next known ended
      refine ⟨p.surface, held', ended.apart.image, ended.format, ?_⟩
      rw [DisplayCall.step, asked]
      exact holds
    · exact ⟨s, held, rfl, rfl, h.other same call⟩

theorem Holds.run (h : d.Holds i s held) {calls : List DisplayCall}
    (spared : ∀ call ∈ calls, call.Spares s.image) :
    ∃ s' held', s'.image = s.image ∧ s'.config.format = s.config.format ∧
      (d.run calls).Holds i s' held' := by
  -- The image stays the same throughout, so what is spared at first is spared later.
  induction calls generalizing d s held with
  | nil => exact ⟨s, held, rfl, rfl, h⟩
  | cons call calls ih =>
    obtain ⟨s₁, held₁, image₁, format₁, h₁⟩ := h.step (spared call List.mem_cons_self)
    obtain ⟨s₂, held₂, image₂, format₂, h₂⟩ :=
      ih h₁ fun call later => image₁ ▸ spared call (List.mem_cons_of_mem _ later)
    exact ⟨s₂, held₂, image₂.trans image₁, format₂.trans format₁, h₂⟩

/-! ## A surface that was just made -/

/-- Ids of images were given, and what was done was done by surfaces that there are. -/
structure Sound (d : Display) : Prop where
  given : ∀ s ∈ d.surfaces, s.image.id < d.client.live.device.nextAlloc
  done : ∀ e ∈ d.done, e.1 < d.surfaces.length

theorem Sound.later (h : d.Sound) {live : Live Gpu} (numbers : Gpu.Numbers d.client.live live) :
    ∀ s ∈ d.surfaces, s.image.id < live.device.nextAlloc :=
  fun s member => UInt32.lt_of_lt_of_le (h.given s member) numbers.nextAlloc

theorem Sound.create (h : d.Sound) (request : SurfaceRequest) : (d.create request).2.Sound := by
  obtain ⟨e, live, made, same⟩ | ⟨surface, live, made, new⟩ := d.create_cases request
  · rw [made]
    exact ⟨same ▸ h.given, h.done⟩
  · rw [made]
    refine ⟨fun s member => ?_, fun e member => ?_⟩
    · rcases List.mem_append.1 member with before | last
      · exact h.later ⟨new.assigned, UInt32.le_of_lt new.nextAlloc⟩ s before
      · rw [List.mem_singleton.1 last, new.image]
        exact new.nextAlloc
    · rw [List.length_append]
      exact Nat.lt_add_right _ (h.done e member)

theorem Sound.ask (h : d.Sound) (j : Nat) (call : SurfaceCall) : (d.ask j call).2.Sound := by
  cases there : d.surfaces[j]? with
  | none => simpa only [Display.ask, there] using h
  | some surface =>
    obtain ⟨within, -⟩ := List.getElem?_eq_some_iff.1 there
    obtain ⟨result, p, apart, asked⟩ := ask_apart there call
    rw [asked]
    have later := h.later apart.numbers
    refine ⟨fun s member => ?_, fun e member => ?_⟩
    · rcases List.mem_or_eq_of_mem_set member with before | rfl
      · exact later s before
      · rw [apart.image]
        exact later surface (List.mem_of_getElem? there)
    · simp only [Display.after, List.length_set] at member ⊢
      split at member
      · rcases List.mem_append.1 member with before | last
        · exact h.done e before
        · rw [List.mem_singleton.1 last]
          exact within
      · exact h.done e member

theorem Sound.step (h : d.Sound) (call : DisplayCall) : (call.step d).Sound := by
  cases call with
  | create request => exact h.create request
  | surface j call => exact h.ask j call
  | client call => exact ⟨h.later (call.framedImage d.client), h.done⟩

theorem Sound.run (h : d.Sound) (calls : List DisplayCall) : (d.run calls).Sound := by
  induction calls generalizing d with
  | nil => exact h
  | cons call calls ih => exact ih (h.step call)

theorem Reachable.sound (reachable : d.Reachable) : d.Sound := by
  obtain ⟨client, -, calls, rfl⟩ := reachable
  have start : Display.Sound { client } := ⟨List.forall_mem_nil _, List.forall_mem_nil _⟩
  exact start.run calls

/-- A new surface has an image that no other surface has, and holds no frame. -/
theorem Sound.made (h : d.Sound) {request : SurfaceRequest} {surface : Surface} {e : Display}
    (made : d.create request = (.ok surface, e)) : e.Holds d.surfaces.length surface none := by
  obtain ⟨live, rfl, new⟩ := create_ok made
  -- Its id is the next one, which neither a surface nor a call that was written down can have.
  refine ⟨List.getElem?_concat_length, new.frame, fun {j other} before found => ?_, ?_, ?_, ?_⟩
  · rcases getElem?_made found with earlier | ⟨here, -⟩
    · rw [new.image]
      exact UInt32.ne_of_lt (h.given other (List.mem_of_getElem? earlier))
    · exact absurd here before
  · rw [new.image]
    exact new.nextAlloc
  · have entered : live.device.images.get? surface.image.id = some
        ⟨none, surface.config.format, surface.config.width, surface.config.height⟩ := by
      rw [new.images, new.image]
      exact SortedMap.get?_insert_self _ _ _
    refine ⟨?_, _, entered, rfl, rfl, nofun⟩
    rw [new.image, Gpu.id, Gpu.id, new.assigned]
  · have fresh : d.doneBy d.surfaces.length = [] :=
      List.filterMap_eq_nil_iff.2 fun e member => if_neg (Nat.ne_of_lt (h.done e member))
    exact fresh ▸ InTurn.start

/-! ## What a call to it does then -/

/-- What a call to a surface leaves as it is: the other surfaces, what else the client holds, and of
the device all but one image. -/
structure Beside (i : Nat) (image : Allocation) (d e : Display) : Prop where
  surfaces : ∀ j, j ≠ i → e.surfaces[j]? = d.surfaces[j]?
  client : ∃ live, e.client = { d.client with live }
  device : ∃ images, e.client.live.device = { d.client.live.device with images } ∧
    ∀ id ≠ image.id, images.get? id = d.client.live.device.images.get? id

/-- A surface by its turns, with what each call to it does. -/
structure Protocol (d : Display) (i : Nat) (s : Surface) (held : Option GivenFrame) : Prop
    extends Holds d i s held where
  resolves : Gpu.Resolves d.client.live s.image s.config.format held
  /-- A frame that is held is presented before the next is asked for. -/
  notPresented : held ≠ none →
    d.ask i .target = (.error (.device (.precondition .frameNotPresented)), d)
  presents : ∀ f, held = some f → (d.ask i .present).1 = .ok () ∧
    (d.ask i .present).2.client.live.platform.log =
      d.client.live.platform.log ++ [.present f.texture]
  noFrame : held = none → d.ask i .present = (.error (.device (.precondition .noFrame)), d)
  asks : held = none → ∃ events result, Asked s.config events result ∧
    (d.ask i .target).1 = result.map (fun _ => ()) ∧
    (d.ask i .target).2.client.live.platform.log = d.client.live.platform.log ++ events ∧
    ∀ f, result = .ok f → ∃ s', s'.image = s.image ∧ (d.ask i .target).2.Holds i s' (some f)
  /-- A frame that is next is given, whatever has failed before. -/
  given : held = none → ∀ width height,
    d.client.live.platform.nextFrame s.config = .frame width height →
      (d.ask i .target).1 = .ok () ∧ ∃ texture s', s'.image = s.image ∧
        (d.ask i .target).2.Holds i s' (some ⟨texture, width, height⟩)
  failed : ∀ e, (d.ask i .target).1 = .error e →
    (d.ask i .target).2.surfaces = d.surfaces ∧
      (d.ask i .target).2.client.live.device = d.client.live.device
  beside : ∀ call, Beside i s.image d (d.ask i call).2

theorem beside_ask (there : d.surfaces[i]? = some s) (call : SurfaceCall) :
    Beside i s.image d (d.ask i call).2 := by
  obtain ⟨result, p, apart, asked⟩ := ask_apart there call
  rw [asked]
  exact ⟨fun j other => List.getElem?_set_ne other.symm, ⟨_, rfl⟩, apart.device⟩

theorem Holds.presents {f : GivenFrame} (h : d.Holds i s (some f)) :
    (d.ask i .present).1 = .ok () ∧
      (d.ask i .present).2.client.live.platform.log =
        d.client.live.platform.log ++ [.present f.texture] := by
  obtain ⟨entry, result, p, ended, -, outcome⟩ := h.ends .present
  rw [outcome]
  cases ended with
  | presented given =>
    cases h.frame.symm.trans given
    exact ⟨rfl, rfl⟩
  | noFrame free => cases h.frame.symm.trans free

theorem Holds.noFrame (h : d.Holds i s none) :
    d.ask i .present = (.error (.device (.precondition .noFrame)), d) := by
  obtain ⟨entry, result, p, ended, -, outcome⟩ := h.ends .present
  rw [outcome]
  cases ended with
  | noFrame => rw [after_same h.there]
  | presented given => cases h.frame.symm.trans given

theorem Holds.notPresented {f : GivenFrame} (h : d.Holds i s (some f)) :
    d.ask i .target = (.error (.device (.precondition .frameNotPresented)), d) := by
  obtain ⟨entry, result, p, ended, -, outcome⟩ := h.ends .target
  rw [outcome]
  cases ended with
  | notPresented => rw [after_same h.there]
  | given free => cases h.frame.symm.trans free
  | notGiven free => cases h.frame.symm.trans free

theorem Holds.asks (h : d.Holds i s none) :
    ∃ events result, Asked s.config events result ∧
      (d.ask i .target).1 = result.map (fun _ => ()) ∧
      (d.ask i .target).2.client.live.platform.log = d.client.live.platform.log ++ events ∧
      ∀ f, result = .ok f →
        ∃ s', s'.image = s.image ∧ (d.ask i .target).2.Holds i s' (some f) := by
  obtain ⟨entry, result, p, ended, known, outcome⟩ := h.ends .target
  rw [outcome]
  cases ended with
  | notPresented held => exact absurd h.frame held
  | @given f q events free asked log next =>
    refine ⟨_, _, asked, rfl, log, ?_⟩
    rintro _ ⟨⟩
    exact ⟨{ s with frame := some f.texture }, rfl, h.acquired known asked log⟩
  | notGiven free asked log => exact ⟨_, _, asked, rfl, log, nofun⟩

theorem Holds.given (h : d.Holds i s none) {width height : UInt32}
    (next : d.client.live.platform.nextFrame s.config = .frame width height) :
    (d.ask i .target).1 = .ok () ∧ ∃ texture s', s'.image = s.image ∧
      (d.ask i .target).2.Holds i s' (some ⟨texture, width, height⟩) := by
  obtain ⟨entry, result, p, ended, known, outcome⟩ := h.ends .target
  rw [outcome]
  cases ended with
  | notPresented held => exact absurd h.frame held
  | @given f q events free asked log sized =>
    obtain ⟨rfl, rfl⟩ := sized next
    exact ⟨rfl, f.texture, { s with frame := some f.texture }, rfl, h.acquired known asked log⟩
  | notGiven free asked log failed => exact absurd next (failed width height)

theorem Holds.failed (h : d.Holds i s held) {e : Fault} (refused : (d.ask i .target).1 = .error e) :
    (d.ask i .target).2.surfaces = d.surfaces ∧
      (d.ask i .target).2.client.live.device = d.client.live.device := by
  obtain ⟨entry, result, p, ended, -, outcome⟩ := h.ends .target
  rw [outcome] at refused ⊢
  cases ended with
  | given => cases refused
  | notPresented | notGiven => exact ⟨set_there h.there, rfl⟩

theorem Holds.protocol (h : d.Holds i s held) : d.Protocol i s held where
  toHolds := h
  resolves := h.shows.resolves
  notPresented given := by
    obtain ⟨f, rfl⟩ := Option.ne_none_iff_exists'.1 given
    exact h.notPresented
  presents := by
    rintro f rfl
    exact h.presents
  noFrame := by
    rintro rfl
    exact h.noFrame
  asks := by
    rintro rfl
    exact h.asks
  given := by
    rintro rfl width height next
    exact h.given next
  failed e refused := h.failed refused
  beside := beside_ask h.there

/-- From when it was made on, and while nobody else takes its image away, a surface acquires and
presents frames by turns, and what is called out of turn is refused. Its image is the frame that is
held, and nothing else of the device is touched. -/
theorem surfaces_in_turn (reachable : d.Reachable) {request : SurfaceRequest} {surface : Surface}
    {e : Display} (made : d.create request = (.ok surface, e)) {calls : List DisplayCall}
    (spared : ∀ call ∈ calls, call.Spares surface.image) :
    surface.config.format.bufferFormat? = some surface.format ∧
      ∃ s held, s.image = surface.image ∧ s.config.format = surface.config.format ∧
        (e.run calls).Protocol d.surfaces.length s held := by
  obtain ⟨_, _, new⟩ := create_ok made
  obtain ⟨s, held, image, format, holds⟩ := (reachable.sound.made made).run spared
  exact ⟨new.named, s, held, image, format, holds.protocol⟩

/-- A surface that was lost is set up anew and gives a frame, which is presented before the next. -/
theorem surfaces_in_turn_renewed :
    let answers : Script :=
      { surfaceFormats := [.bgra8UnormSrgb], frames := [.failure .lost, .frame 8 6] }
    let d := run { client := Client.opened ⟨1⟩ } [.client (.script answers)]
    let e := (d.create { width := 4, height := 3 }).2
    let t := e.run [.surface 0 .target]
    ∃ f : GivenFrame, InTurn (t.doneBy 0) (some f) ∧
      (Gpu.imageTarget ⟨⟨1⟩, 0⟩).outcome t.client.live =
        (.ok ⟨f.texture, .bgra8UnormSrgb, f.width, f.height⟩, t.client.live) ∧
      t.ask 0 .target = (.error (.device (.precondition .frameNotPresented)), t) ∧
      (t.ask 0 .present).1 = .ok () := by
  intro answers d e t
  have reachable : d.Reachable := ⟨_, Client.fresh_opened ⟨1⟩, [.client (.script answers)], rfl⟩
  obtain ⟨surface, made⟩ : ∃ surface, d.create { width := 4, height := 3 } = (.ok surface, e) :=
    ⟨_, rfl⟩
  have spared : ∀ call ∈ [DisplayCall.surface 0 .target], call.Spares surface.image := by
    simp [DisplayCall.Spares]
  obtain ⟨-, s, held, -, -, protocol⟩ := surfaces_in_turn reachable made spared
  have first : t.surfaces.map (fun s => (s.image, s.config.format, s.frame.isSome)) =
      [(⟨⟨1⟩, 0⟩, .bgra8UnormSrgb, true)] := by decide +kernel
  have there : t.surfaces[0]? = some s := protocol.there
  have shown := congrArg (·[0]?) first
  simp only [List.getElem?_map, there, Option.map_some, List.getElem?_cons_zero, Option.some.injEq,
    Prod.mk.injEq] at shown
  obtain ⟨image, format, framed⟩ := shown
  rw [protocol.frame, Option.isSome_map] at framed
  obtain ⟨f, rfl⟩ := Option.isSome_iff_exists.1 framed
  refine ⟨f, protocol.turns, ?_, protocol.notPresented nofun, (protocol.presents f rfl).1⟩
  rw [← image, ← format]
  exact protocol.resolves.target f rfl

end Display

end DeviceLayer
