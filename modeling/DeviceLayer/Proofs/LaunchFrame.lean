import DeviceLayer.Proofs.Exchange
import DeviceLayer.Proofs.LaunchProtocol

/-!
# What a launch leaves behind

A graphics processor borrows the foreign ranges of a launch: it copies each of them into scratch
memory, runs the kernel over the copies, writes them back and frees them. Kernels move no bytes, so
what is written back is what was read, and the memory of the world ends as it was.

* `Loan`, `Lent` — a foreign range in scratch memory; how memory came to hold some of them.
* `Lent.repaid` — a loan that is given back was as good as never taken.
* `World.Mirrors` — a range of the launching device that shows what a range of a device shows.
* `World.launch_frame` — the effect of a launch that ends well.
-/

namespace DeviceLayer

open DeviceLayer.Action

/-! ## Runs of kernels, and what is written back -/

namespace LaunchCall

def isRun : LaunchCall → Bool
  | .run .. => true
  | _ => false

/-- The range that is written back to its device, and the one that it is written back from. -/
def writeBack? : LaunchCall → Option (Range × Range)
  | .copyOut _ dst src => some (⟨dst, src.length⟩, src)
  | _ => none

end LaunchCall

namespace LaunchRun

variable {σ : Type}

/-- The calls that ran a kernel. -/
def runs (r : LaunchRun σ) : List (LaunchEntry σ) := r.log.filter (·.call.isRun)

def writeBacks (r : LaunchRun σ) : List (Range × Range) := r.log.filterMap (·.call.writeBack?)

/-- What a run tells of kernels and of what was written back. -/
def told (r : LaunchRun σ) : List (LaunchEntry σ) × List (Range × Range) := (r.runs, r.writeBacks)

end LaunchRun

namespace LaunchInterface

variable {σ α : Type}

theorem wp_noted_of_not_run {call : LaunchCall} {answer : α → LaunchAnswer} {a : Action σ α}
    {Q : α → σ → Prop} {r : LaunchRun σ} (other : call.isRun = false)
    (h : a.wp Q (fun _ _ => True) r.state) :
    (noted call answer a).wp (fun x t => Q x t.state ∧ t.runs = r.runs) (fun _ _ => True) r := by
  rw [wp_noted]
  refine h.ok fun x t holds => ⟨holds, ?_⟩
  simp [LaunchRun.runs, other]

theorem told_noted {call : LaunchCall} (other : call.isRun = false) (kept : call.writeBack? = none)
    (r : LaunchRun σ) (t s : σ) (answer : Except Fault LaunchAnswer) :
    LaunchRun.told ⟨t, r.log ++ [⟨call, s, answer⟩]⟩ = r.told := by
  simp [LaunchRun.told, LaunchRun.runs, LaunchRun.writeBacks, other, kept]

end LaunchInterface

/-! ## Loans -/

/-- A foreign range that was copied into scratch memory: where it came from, and its bytes. -/
structure Loan where
  node : Int
  source : Range
  owner : DeviceKey
  scratch : Allocation
  bytes : Bytes

namespace Loan

def route (l : Loan) : Route := ⟨l.node, l.source, .copied l.scratch⟩

/-- The device `key` holds the bytes in its scratch memory. -/
def place (key : DeviceKey) (m : Memory) (l : Loan) : Memory :=
  Function.update m (key, l.scratch.id) (some l.bytes)

/-- The range is on another device of the registry, and the scratch memory is new. -/
structure Taken (w₀ : World) (key : DeviceKey) (here : DeviceId) (m : Memory) (l : Loan) :
    Prop where
  foreign : l.source.device ≠ here
  scratch : l.scratch.device = here
  sized : l.source.length ≠ wholeSize
  known : w₀.registry.find? l.source.device = some l.owner
  apart : l.owner ≠ key
  shows : l.source.Shows (m (l.owner, l.source.start.allocId)) l.bytes
  fresh : m (key, l.scratch.id) = none

variable {w₀ : World} {key : DeviceKey} {here : DeviceId} {m : Memory} {l : Loan}

theorem Taken.without (taken : l.Taken w₀ key here m) (id : UInt32) :
    l.Taken w₀ key here (Function.update m (key, id) none) where
  foreign := taken.foreign
  scratch := taken.scratch
  sized := taken.sized
  known := taken.known
  apart := taken.apart
  shows := by
    rw [Function.update_of_ne fun same => taken.apart (Prod.mk.inj same).1]
    exact taken.shows
  fresh := by
    by_cases same : l.scratch.id = id
    · rw [same, Function.update_self]
    · rw [Function.update_of_ne fun cell => same (Prod.mk.inj cell).2]
      exact taken.fresh

end Loan

/-- The loans were taken one after the other, and this is what memory came to. -/
inductive Lent (w₀ : World) (key : DeviceKey) (here : DeviceId) :
    Memory → List Loan → Memory → Prop where
  | nothing (m : Memory) : Lent w₀ key here m [] m
  | more {m m' : Memory} {l : Loan} {rest : List Loan} (taken : l.Taken w₀ key here m)
    (later : Lent w₀ key here (l.place key m) rest m') : Lent w₀ key here m (l :: rest) m'

namespace Lent

variable {w₀ : World} {key : DeviceKey} {here : DeviceId} {m m' : Memory} {loans : List Loan}
  {l : Loan}

/-- Loans only fill what was empty. -/
theorem kept (lent : Lent w₀ key here m loans m') {cell : DeviceKey × UInt32} {block : Bytes}
    (held : m cell = some block) : m' cell = some block := by
  induction lent with
  | nothing m => exact held
  | more taken later ih =>
    -- The scratch memory of a loan was new, so it is another cell than this one.
    refine ih ?_
    rw [Loan.place, Function.update_of_ne]
    · exact held
    · rintro rfl
      rw [taken.fresh] at held
      cases held

theorem shows (lent : Lent w₀ key here m loans m') {range : Range} {cell : DeviceKey × UInt32}
    {bytes : Bytes} (before : range.Shows (m cell) bytes) : range.Shows (m' cell) bytes := by
  obtain ⟨seen, length⟩ := before
  obtain ⟨block, held, -⟩ := Option.map_eq_some_iff.1 seen
  rw [held] at seen
  rw [lent.kept held]
  exact ⟨seen, length⟩

/-- Every loan is in its scratch memory, and the range that it came from still shows its bytes. -/
theorem each (lent : Lent w₀ key here m loans m') (member : l ∈ loans) :
    l.scratch.device = here ∧ w₀.registry.find? l.source.device = some l.owner ∧
      m' (key, l.scratch.id) = some l.bytes ∧
      l.source.Shows (m' (l.owner, l.source.start.allocId)) l.bytes := by
  induction lent with
  | nothing m => cases member
  | more taken later ih =>
    rcases List.mem_cons.1 member with rfl | member
    · exact ⟨taken.scratch, taken.known, later.kept (Function.update_self ..),
        (more taken later).shows taken.shows⟩
    · exact ih member

/-- Where the launching device frees something that it held, the loans are the same. -/
theorem without (lent : Lent w₀ key here m loans m') {id : UInt32} {block : Bytes}
    (held : m (key, id) = some block) :
    Lent w₀ key here (Function.update m (key, id) none) loans
      (Function.update m' (key, id) none) := by
  induction lent with
  | nothing m => exact .nothing _
  | @more m m' l rest taken later ih =>
    have other : (key, l.scratch.id) ≠ (key, id) := by
      intro same
      rw [← same, taken.fresh] at held
      cases held
    refine .more (taken.without id) ?_
    -- The loan is taken before the cell is freed; as they are different cells, it may be after.
    have swapped := ih ((Function.update_of_ne other.symm ..).trans held)
    rw [Loan.place, Function.update_comm other] at swapped
    exact swapped

/-- The first loan may be given back as if it had never been taken. -/
theorem repaid (lent : Lent w₀ key here m (l :: loans) m') :
    Lent w₀ key here m loans (Function.update m' (key, l.scratch.id) none) := by
  obtain ⟨⟩ | ⟨taken, later⟩ := lent
  -- Without its scratch memory the later loans start from where the first one did.
  have rest := later.without (Function.update_self ..)
  rw [Loan.place, Function.update_idem, ← taken.fresh, Function.update_eq_self] at rest
  rw [← taken.fresh]
  exact rest

end Lent

theorem Loan.near_shows (l : Loan) (length : l.bytes.length = l.source.length.toNat) :
    l.route.near.Shows (some l.bytes) l.bytes := by
  refine ⟨congrArg some ?_, length⟩
  change (l.bytes.drop 0).take l.source.length.toNat = l.bytes
  rw [List.drop_zero, ← length, List.take_length]

theorem Range.Shows.unique {range : Range} {block : Option Bytes} {bytes bytes' : Bytes}
    (h : range.Shows block bytes) (h' : range.Shows block bytes') : bytes' = bytes :=
  Option.some.inj (h'.1.symm.trans h.1)

/-- Bytes that are written back where they are seen change nothing. -/
theorem Range.Shows.splice_self {range : Range} {block bytes : Bytes}
    (h : range.Shows (some block) bytes) : block.splice range.start.offset.toNat bytes = block := by
  have seen := Option.some.inj h.1
  rw [← seen]
  exact Bytes.splice_slice_self ((congrArg List.length seen).trans h.2)

/-! ## The phases of a launch -/

/-- No kernel ran, nothing was written back, and the world is as it was. -/
structure LaunchRun.Quiet (r t : LaunchRun World) : Prop where
  still : World.Still r.state t.state
  told : t.told = r.told

theorem LaunchRun.Quiet.runs {r t : LaunchRun World} (quiet : r.Quiet t) : t.runs = r.runs :=
  congrArg Prod.fst quiet.told

instance : Evolution LaunchRun.Quiet where
  refl r := ⟨Evolution.refl r.state, rfl⟩
  trans first second := ⟨Evolution.trans first.still second.still, second.told.trans first.told⟩

namespace World

open LaunchInterface

variable {w₀ w : World} {key : DeviceKey} {here : DeviceId} {m m' : Memory} {loans : List Loan}
  {r : LaunchRun World}

theorem quiet_noted {call : LaunchCall} {answer : Unit → LaunchAnswer} {a : Action World Unit}
    (other : call.isRun = false) (kept : call.writeBack? = none) (still : a.Evolves Still) :
    (noted call answer a).Evolves LaunchRun.Quiet := by
  intro r
  have told := told_noted other kept r
  rw [wp_noted]
  exact (still r.state).mono (fun _ _ step => ⟨step, told _ _ _⟩) fun _ _ step => ⟨step, told _ _ _⟩

theorem quiet_find (id : DeviceId) :
    ((launchInterface key).traced.find id).Evolves LaunchRun.Quiet := by
  intro r
  rw [wp_traced_find]
  refine (evolves_find (R := Eq) id r.state).mono ?_ ?_
  · rintro _ _ rfl
    exact Evolution.refl r
  · rintro _ _ rfl
    exact Evolution.refl r

theorem quiet_waits (entries : List ForeignNode)
    {waits : ForeignNode → DeviceId × DeviceKey → Action (LaunchRun World) Unit}
    (quiet : ∀ entry source, (waits entry source).Evolves LaunchRun.Quiet) :
    (entries.forM fun entry => do
      let source ← (launchInterface key).traced.find entry.source.device
      waits entry source).Evolves LaunchRun.Quiet :=
  .forM fun entry => (quiet_find _).bind (quiet entry)

theorem quiet_await (entry : ForeignNode) (source : DeviceId × DeviceKey) :
    ((launchInterface key).traced.syncLocal entry.near source).Evolves LaunchRun.Quiet :=
  quiet_noted rfl rfl (still_syncRead key entry.near source.2)

theorem quiet_publish (entry : ForeignNode) (source : DeviceId × DeviceKey) :
    ((launchInterface key).traced.syncSource source entry.source).Evolves LaunchRun.Quiet :=
  quiet_noted rfl rfl (still_syncRead source.2 entry.source key)

/-- A foreign range is lent to the launching device. -/
theorem wp_localize (isGpu : w₀.IsGpu key here) (h : Holds w₀ m r.state) (node : Int)
    {range : Range} (foreign : range.device ≠ here) :
    ((launchInterface key).traced.localize node range).wp
      (fun entry t => ∃ l : Loan, l.node = node ∧ l.source = range ∧ entry = l.route.entry ∧
        l.Taken w₀ key here m ∧ Holds w₀ (l.place key m) t.state ∧ t.runs = r.runs)
      (fun _ _ => True) r := by
  rw [localize, wp_bind, wp_traced_find]
  refine (holds_find h range.device).ok ?_
  rintro owner s ⟨known, h⟩
  rw [wp_bind]
  refine (wp_noted_of_not_run rfl (holds_localAlias h isGpu range)).ok ?_
  rintro _ t ⟨⟨rfl, h⟩, runs⟩
  simp only [wp_bind]
  refine (wp_noted_of_not_run rfl (holds_allocate h isGpu range.length)).ok ?_
  rintro scratch t' ⟨⟨device, sized, fresh, h⟩, runs'⟩
  have apart : (scratch.range range.length).start.device ≠ range.device := by
    intro same
    exact foreign (same.symm.trans device)
  refine (wp_noted_of_not_run rfl (holds_transfer h key owner apart sized)).ok ?_
  rintro _ t'' ⟨⟨bytes, block, shows, own, held, h, -⟩, runs''⟩
  -- The launching device would have read only what is its own.
  have other : owner ≠ key := by
    rintro rfl
    exact foreign (own here isGpu)
  rw [Function.update_of_ne fun same => other (Prod.mk.inj same).1] at shows
  -- The scratch memory is as long as the range, so the copy fills all of it.
  have filled : block.splice (scratch.range range.length).start.offset.toNat bytes = bytes := by
    change Function.update m (key, scratch.id) _ (key, scratch.id) = some block at held
    rw [Function.update_self] at held
    obtain rfl := Option.some.inj held
    exact Bytes.splice_zero (shows.2.trans (Bytes.length_zeros _).symm)
  refine ⟨⟨node, range, owner, scratch, bytes⟩, rfl, rfl, rfl, ?_, ?_, ?_⟩
  · exact ⟨foreign, device, sized, known, other, shows, fresh⟩
  · rw [filled] at h
    have twice : Holds w₀ (Function.update (Function.update m (key, scratch.id) _)
      (key, scratch.id) (some bytes)) t''.state := h
    rw [Function.update_idem] at twice
    exact twice
  · exact runs''.trans (runs'.trans runs)

theorem wp_localizeEach (isGpu : w₀.IsGpu key here) (h : Holds w₀ m r.state)
    (entries : List (Int × Range)) :
    ((launchInterface key).traced.localizeEach here entries).wp
      (fun localized t => ∃ loans m', Lent w₀ key here m loans m' ∧
        Localized here entries (loans.map Loan.route) localized.1 ∧
        localized.2 = loans.map (·.route.entry) ∧ Holds w₀ m' t.state ∧ t.runs = r.runs)
      (fun _ _ => True) r := by
  induction entries generalizing m r with
  | nil => exact ⟨[], m, .nothing m, .nil, rfl, h, rfl⟩
  | cons entry rest ih =>
    obtain ⟨node, range⟩ := entry
    rw [localizeEach]
    by_cases isHere : range.device = here
    · rw [if_pos isHere, wp_bind]
      refine (ih h).ok ?_
      rintro ⟨near, _⟩ t ⟨loans, m', lent, follows, rfl, h, runs⟩
      exact ⟨loans, m', lent, .kept isHere follows, rfl, h, runs⟩
    · rw [if_neg isHere, wp_bind]
      refine (wp_localize isGpu h node isHere).ok ?_
      rintro _ t ⟨l, rfl, rfl, rfl, taken, h, runs⟩
      rw [wp_bind]
      refine (ih h).ok ?_
      rintro ⟨near, _⟩ t' ⟨loans, m', lent, follows, rfl, h, runs'⟩
      exact ⟨l :: loans, m', .more taken lent, .moved l.route isHere follows, rfl, h,
        runs'.trans runs⟩

/-- Written back and freed, a loan leaves no trace. -/
theorem wp_giveBack {l : Loan} (lent : Lent w₀ key here m (l :: loans) m')
    (h : Holds w₀ m' r.state) :
    ((launchInterface key).traced.giveBack l.route.entry).wp
      (fun _ t => Holds w₀ (Function.update m' (key, l.scratch.id) none) t.state ∧
        t.runs = r.runs)
      (fun _ _ => True) r := by
  obtain ⟨-, -, held, shows⟩ := lent.each List.mem_cons_self
  obtain ⟨⟩ | ⟨taken, -⟩ := lent
  have apart : l.source.start.device ≠ l.route.near.device := by
    intro same
    exact taken.foreign (same.trans taken.scratch)
  simp only [giveBack, Route.entry, Loan.route]
  rw [wp_bind, wp_traced_find]
  refine (holds_find h l.source.device).ok ?_
  rintro owner s ⟨known, h⟩
  obtain rfl := Option.some.inj (known.symm.trans taken.known)
  rw [wp_bind]
  refine (wp_noted_of_not_run rfl (holds_transfer h l.owner key apart taken.sized)).ok ?_
  rintro _ t ⟨⟨bytes, block, seen, -, source, h, -⟩, runs⟩
  -- What comes back is what was lent, and it comes to where it was.
  have same : bytes = l.bytes := by
    refine Range.Shows.unique (l.near_shows shows.2) ?_
    rw [← held]
    exact seen
  rw [source] at shows
  rw [same, shows.splice_self, ← source, Function.update_eq_self] at h
  refine (wp_noted_of_not_run rfl (holds_deallocate h key l.scratch)).ok ?_
  rintro _ t' ⟨h, runs'⟩
  exact ⟨h, runs'.trans runs⟩

theorem wp_giveBacks (loans : List Loan) (lent : Lent w₀ key here m loans m')
    (h : Holds w₀ m' r.state) :
    ((loans.map (·.route.entry)).forM (launchInterface key).traced.giveBack).wp
      (fun _ t => Holds w₀ m t.state ∧ t.runs = r.runs) (fun _ _ => True) r := by
  induction loans generalizing m' r with
  | nil =>
    obtain ⟨⟩ := lent
    exact ⟨h, rfl⟩
  | cons l rest ih =>
    refine (wp_bind _ _).2 ((wp_giveBack lent h).ok ?_)
    rintro _ t ⟨h, runs⟩
    refine (ih lent.repaid h).ok ?_
    rintro _ t' ⟨h, runs'⟩
    exact ⟨h, runs'.trans runs⟩

/-! ## The effect of a launch -/

/-- Where the launching device sees a range, it sees what the device of the range holds there. -/
def Mirrors (w : World) (key : DeviceKey) (r : Route) : Prop :=
  ∃ owner bytes, w.registry.find? r.source.device = some owner ∧
    r.source.Shows (w.memory (owner, r.source.start.allocId)) bytes ∧
    r.near.Shows (w.memory (key, r.near.start.allocId)) bytes

theorem mirrors_of_lent (h : Holds w₀ m' w) (lent : Lent w₀ key here m loans m') {l : Loan}
    (member : l ∈ loans) : l.route.near.device = here ∧ w.Mirrors key l.route := by
  obtain ⟨device, known, held, shows⟩ := lent.each member
  refine ⟨device, l.owner, l.bytes, ?_, ?_, ?_⟩
  · rw [h.registry]
    exact known
  · rw [h.memory]
    exact shows
  · rw [h.memory]
    change l.route.near.Shows (m' (key, l.scratch.id)) l.bytes
    rw [held]
    exact l.near_shows shows.2

theorem wp_launch (isGpu : w₀.IsGpu key here) (h : Holds w₀ m r.state) (stream kernel : UInt32)
    (mapping : Mapping) :
    ((launchInterface key).traced.launch here stream kernel mapping).wp
      (fun _ t => Holds w₀ m t.state ∧ ∃ near routes w₁,
        t.runs = r.runs ++ [⟨.run stream kernel near, w₁, .ok .done⟩] ∧
        Localized here mapping.toList routes near.toList ∧
        ∀ r ∈ routes, r.near.device = here ∧ w₁.Mirrors key r)
      (fun _ _ => True) r := by
  rw [LaunchInterface.launch, localizeAll_eq]
  simp only [wp_bind]
  refine (wp_localizeEach isGpu h mapping.toList).ok ?_
  rintro ⟨near, _⟩ t ⟨loans, m', lent, follows, rfl, h, runs⟩
  simp only [wp_pure]
  refine (quiet_waits _ quiet_await t).ok ?_
  rintro _ t₁ quiet
  have h₁ := quiet.still w₀ m' h
  -- This is the moment at which the kernel runs.
  refine wp_noted.2 ((holds_launchLocal h₁ isGpu stream kernel _).ok ?_)
  rintro _ s h₂
  refine (wp_giveBacks loans lent h₂).ok ?_
  rintro _ t₃ ⟨h₃, runs₃⟩
  refine (quiet_waits _ quiet_publish t₃).ok ?_
  rintro _ t₄ quiet₄
  refine ⟨quiet₄.still w₀ m h₃, SortedMap.ofList near, loans.map Loan.route, t₁.state, ?_, ?_, ?_⟩
  · rw [quiet₄.runs, runs₃, ← runs, ← quiet.runs]
    simp [LaunchRun.runs, LaunchCall.isRun]
  · rw [SortedMap.toList_ofList (follows.sorted mapping.sorted)]
    exact follows
  · intro route member
    obtain ⟨l, inLoans, rfl⟩ := List.mem_map.1 member
    exact mirrors_of_lent h₁ lent inLoans

theorem outcome_launch {d : Device} (found : w.devices.get? key = some d)
    (stream kernel : UInt32) (mapping : Mapping) :
    (launch key stream kernel mapping).outcome w =
      ((launchInterface key).launch d.id stream kernel mapping).outcome w := by
  have looked : (device key).outcome w = (.ok d, w) := by
    rw [device, outcome_bind]
    change (orRefuse (w.devices.get? key) _).outcome w = _
    rw [found]
    rfl
  rw [launch, outcome_bind, looked]

/-- A launch that ends well does so too when its calls are written down. -/
theorem traced_of_launch {d : Device} {w' : World} {stream kernel : UInt32} {mapping : Mapping}
    (found : w.devices.get? key = some d)
    (ended : (launch key stream kernel mapping).outcome w = (.ok (), w')) :
    ∃ run, ((launchInterface key).traced.launch d.id stream kernel mapping).outcome { state := w } =
      (.ok (), run) ∧ run.state = w' := by
  have erased := (traced_launch (launchInterface key) d.id stream kernel mapping).outcome
    { state := w }
  rw [← outcome_launch found, ended] at erased
  obtain ⟨ok, state⟩ := Prod.mk.inj erased
  exact ⟨_, Prod.ext ok.symm rfl, state.symm⟩

/-- A launch on a graphics processor that ends well leaves all memory and all allocations as they
were. It ran the kernel once, on the ranges of the device itself and, for each other range, on one
that then held the same bytes. -/
theorem launch_frame {w' : World} {g : Gpu} {stream kernel : UInt32} {mapping : Mapping}
    (reachable : w.Reachable) (found : w.devices.get? key = some (.gpu g))
    (ended : (launch key stream kernel mapping).outcome w = (.ok (), w')) :
    w'.memory = w.memory ∧ w'.live = w.live ∧ ∃ run near routes w₁,
      ((launchInterface key).traced.launch g.id stream kernel mapping).outcome { state := w } =
        (.ok (), run) ∧
      run.state = w' ∧ run.runs = [⟨.run stream kernel near, w₁, .ok .done⟩] ∧
      Localized g.id mapping.toList routes near.toList ∧
      ∀ r ∈ routes, r.near.device = g.id ∧ w₁.Mirrors key r := by
  have isGpu : w.IsGpu key g.id := by
    rw [IsGpu, found]
    rfl
  have start : Holds w w.memory w := ⟨rfl, fun _ => rfl, rfl, reachable.housed, rfl⟩
  obtain ⟨run, whole, state⟩ := traced_of_launch found ended
  obtain ⟨held, near, routes, w₁, runs, follows, mirrors⟩ :=
    (wp_launch isGpu start stream kernel mapping).ended whole
  have memory : w'.memory = w.memory := by
    rw [← state, held.memory]
  refine ⟨memory, ?_, run, near, routes, w₁, whole, state, runs, follows, mirrors⟩
  funext cell
  rw [live, live, memory, ← state, held.images]

/-- Host memory with eight bytes in it, and a graphics processor with a kernel. -/
def lending : World :=
  let native : NativePipeline := ⟨⟨.computePipeline, 0⟩, ⟨.computePipeline, 0⟩⟩
  World.after {}
    [.addHost 64, .createGpu {}, .register 0, .register 1, .allocate 0 (.hostVisible 8),
      .write 0 ⟨⟨0⟩, 0, 0⟩ (.ofBytes [1, 2, 3, 4, 5, 6, 7, 8]),
      .client 1 [] (.device (.registerKernel 0
        { pipeline := ⟨0, "k", {}, [], ⟨"k", []⟩, .compute native⟩, groups := (1, 1, 1) }))]

/-- Three nodes see bytes of the host: at an odd place, overlapping those, and none at all. -/
def borrowing : Mapping :=
  .ofList [(0, ⟨⟨⟨0⟩, 0, 1⟩, 3⟩), (1, ⟨⟨⟨0⟩, 0, 2⟩, 5⟩), (2, ⟨⟨⟨0⟩, 0, 8⟩, 0⟩)]

theorem launch_frame_lending :
    ∃ g w', lending.Reachable ∧ lending.devices.get? 1 = some (.gpu g) ∧
      (launch 1 0 0 borrowing).outcome lending = (.ok (), w') ∧
      w'.memory = lending.memory ∧ w'.live = lending.live := by
  have reachable : lending.Reachable := Reachable.new.after _
  have isGpu : lending.IsGpu 1 ⟨1⟩ := by
    unfold IsGpu
    decide +kernel
  obtain ⟨g, found, -⟩ := isGpu.gpu
  have succeeds : ((launch 1 0 0 borrowing).outcome lending).1.isOk = true := by decide +kernel
  cases ended : (launch 1 0 0 borrowing).outcome lending with
  | mk result w' =>
    rw [ended] at succeeds
    cases result with
    | error e => cases succeeds
    | ok =>
      obtain ⟨memory, alive, -⟩ := launch_frame reachable found ended
      exact ⟨g, w', reachable, found, rfl, memory, alive⟩

end World

end DeviceLayer
