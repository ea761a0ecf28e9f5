import DeviceLayer.Proofs.CommandMemory
import DeviceLayer.Proofs.Tables

/-!
# Mappings are copies

A graphics processor maps a window by giving the host a copy of it. What is written to the window by
other means is not seen in the copy, and where the host may write the copy goes back as a whole.
Host memory maps the bytes themselves, and ends a mapping without touching them.

* `MappedRegion.edits` — the host's copy of a region after a dialogue.
* `Gpu.Watches` — the region stays mapped, and its copy holds what the host has written.
* `Holder.unmap_restores` — what an allocation holds after a mapping of it has ended.
* `Holder.unmap_reverts` — bytes that were written while they were mapped, and are gone after.
-/

namespace DeviceLayer

open DeviceLayer.Action

/-! ## The host's copy -/

namespace MappedRegion

/-- The host's copy of a region after a request that was answered so. -/
def edit (region : MappedRegion) (copy : Bytes) : Request × Heard → Bytes
  | (.ask (.device (.memory (.writeRegion r offset data))), .memory (.ok .done)) =>
    if r = region then copy.splice offset data.val.toBytes else copy
  | _ => copy

/-- The host's copy of a region after a dialogue: what the host wrote into it, in order. -/
def edits (region : MappedRegion) (copy : Bytes) (dialogue : List (Request × Heard)) : Bytes :=
  dialogue.foldl region.edit copy

end MappedRegion

namespace Gpu

/-- As long as the allocation is there, the region is mapped and the host's copy of it holds these
bytes. -/
structure Watches (g : Gpu) (device : DeviceId) (region : MappedRegion) (params : AllocParams)
    (copy : Bytes) : Prop where
  id : g.id = device
  numbered : region.allocId < g.nextAlloc
  mapped : ∀ a, g.buffers.get? region.allocId = some a → a.params = params ∧
    ∃ m, a.mapping = some m ∧ m.offset = region.offset ∧ m.shadow.size = region.length ∧
      m.shadow.toBytes = copy

variable {g g' : Gpu} {device : DeviceId} {region : MappedRegion} {params : AllocParams}
  {copy : Bytes} {s : Live Gpu}

theorem Watches.kept (h : g.Watches device region params copy)
    (assigned : g'.assigned = g.assigned) (nextAlloc : g.nextAlloc ≤ g'.nextAlloc)
    (same : ∀ a, g'.buffers.get? region.allocId = some a →
      g.buffers.get? region.allocId = some a) : g'.Watches device region params copy where
  id := by
    rw [← h.id, Gpu.id, assigned]
    rfl
  numbered := UInt32.lt_of_lt_of_le h.numbered nextAlloc
  mapped a held := h.mapped a (same a held)

theorem KeepsTables.watches {t : Live Gpu} (step : KeepsTables s t)
    (h : s.device.Watches device region params copy) :
    t.device.Watches device region params copy :=
  h.kept step.assigned step.nextAlloc fun _ held => step.buffers ▸ held

/-- Another allocation may be put in place. -/
theorem Watches.insert (h : g.Watches device region params copy) {id : UInt32}
    (other : id ≠ region.allocId) (a : BufferAllocation) :
    Watches { g with buffers := g.buffers.insert id a } device region params copy :=
  h.kept rfl (UInt32.le_refl _) fun _ held =>
    (SortedMap.get?_insert_of_ne _ _ other.symm).symm.trans held

theorem watches_mapRange (h : s.device.Watches device region params copy) (p : Pointer)
    (size : UInt64) :
    (mapRange p size).wp (fun _ t => t.device.Watches device region params copy)
      (fun _ t => t.device.Watches device region params copy) s := by
  refine (mapRange_takes p size s).mono ?_ ?_
  · rintro _ t ⟨a, m, held, free, made⟩
    rw [made]
    refine h.insert ?_ _
    -- What is mapped already cannot be mapped again.
    intro here
    obtain ⟨-, m', mapped, -⟩ := h.mapped a (here ▸ held)
    rw [free] at mapped
    cases mapped
  · rintro e t same
    rwa [same]

theorem watches_unmapped (h : g.Watches device region params copy) {id : UInt32}
    (other : id ≠ region.allocId) : (g.unmapped id).Watches device region params copy := by
  cases held : g.buffers.get? id with
  | none => rwa [unmapped_of_none held]
  | some a =>
    rw [unmapped_of_some held]
    exact h.insert other _

theorem watches_unmap (h : s.device.Watches device region params copy) {alloc : Allocation}
    (other : alloc ≠ ⟨device, region.allocId⟩) :
    (unmap alloc).wp (fun _ t => t.device.Watches device region params copy)
      (fun _ t => t.device.Watches device region params copy) s := by
  have taken {t : Live Gpu} (ended : alloc.device = s.device.id ∧
      t.device = s.device.unmapped alloc.id) : t.device.Watches device region params copy := by
    obtain ⟨here, made⟩ := ended
    have apart : alloc.id ≠ region.allocId := by
      rintro same
      exact other (by rw [← same, ← h.id, ← here])
    rw [made]
    exact watches_unmapped h apart
  refine (unmap_takes alloc s).mono (fun _ _ => taken) ?_
  rintro e t (same | ended)
  · rwa [same]
  · exact taken ended

/-- The host's own writes are in its copy. -/
theorem Watches.edited (h : g.Watches device region params copy) {r : MappedRegion} {offset : Nat}
    {data : HostData} (maps : g.maps r = true) (inside : offset + data.val.size ≤ r.length) :
    (g.writeRegion r offset data).Watches device region params
      (if r = region then copy.splice offset data.val.toBytes else copy) := by
  unfold Gpu.maps at maps
  cases held : g.buffers.get? r.allocId with
  | none => simp [held] at maps
  | some a =>
    cases mapping : a.mapping with
    | none => simp [held, mapping] at maps
    | some m =>
      simp only [held, Option.bind_some, mapping, Bool.and_eq_true, decide_eq_true_eq] at maps
      obtain ⟨offsets, lengths⟩ := maps
      simp only [writeRegion, held, mapping, Option.map_some]
      by_cases here : r.allocId = region.allocId
      · obtain ⟨rfl, m', mapped, offset', length', rfl⟩ := h.mapped a (here ▸ held)
        cases mapping.symm.trans mapped
        -- Only one region of an allocation is mapped.
        have same : r = region := by
          obtain ⟨id, off, len⟩ := r
          obtain ⟨id', off', len'⟩ := region
          simp only at here offsets lengths offset' length'
          rw [here, ← offsets, ← lengths, offset', length']
        subst same
        rw [if_pos rfl]
        refine ⟨h.id, h.numbered, fun a' held' => ?_⟩
        rw [SortedMap.get?_insert_self] at held'
        cases held'
        refine ⟨rfl, _, rfl, offsets, ?_, Storage.toBytes_splice ..⟩
        rw [Storage.size_splice (by omega)]
        exact lengths
      · rw [if_neg fun same => here (congrArg MappedRegion.allocId same)]
        exact h.insert here _

end Gpu

theorem MemoryCall.watches {s : Live Gpu} {device : DeviceId} {region : MappedRegion}
    {params : AllocParams} {copy : Bytes} (h : s.device.Watches device region params copy)
    (call : MemoryCall) (kept : call ≠ .unmap ⟨device, region.allocId⟩) :
    call.run.wp
      (fun answer t => t.device.Watches device region params
        (region.edit copy (.ask (.device (.memory call)), .memory (.ok answer))))
      (fun _ t => t.device.Watches device region params copy) s := by
  open Gpu in
  have still {α : Type} {a : Action (Live Gpu) α} (step : a.Evolves KeepsTables) :
      a.wp (fun _ t => t.device.Watches device region params copy)
        (fun _ t => t.device.Watches device region params copy) s :=
    (step s).mono (fun _ _ step => step.watches h) fun _ _ step => step.watches h
  cases call with
  | allocate params' =>
    refine (wp_map _ _).2 ((wp_allocate params' s).mono ?_ fun _ _ step => ?_)
    · intro alloc t made
      obtain ⟨buffer, -, -, buffers⟩ := made.buffers
      have other : s.device.nextAlloc ≠ region.allocId := (UInt32.ne_of_lt h.numbered).symm
      refine h.kept made.assigned (UInt32.le_of_lt made.nextAlloc) fun a held => ?_
      rw [buffers, SortedMap.get?_insert_of_ne _ _ other.symm] at held
      exact held
    · exact step.keepsTables.watches h
  | deallocate alloc =>
    refine (wp_bind _ _).2 ((wp_deallocate alloc s).mono ?_ ?_)
    · rintro _ _ ⟨-, -, rfl⟩
      exact h.kept rfl (UInt32.le_refl _) fun a held => SortedMap.get?_of_erase held
    · rintro _ _ rfl
      exact h
  | map alloc => exact (wp_map _ _).2 (watches_mapRange h _ _)
  | mapRange start size => exact (wp_map _ _).2 (watches_mapRange h start size)
  | unmap alloc =>
    exact (wp_bind _ _).2 (watches_unmap h fun same => kept (congrArg MemoryCall.unmap same))
  | read range =>
    exact (wp_map _ _).2 (still ((still_readRange range).mono fun _ _ => Still.keepsTables))
  | write dst data => exact (wp_bind _ _).2 (still (keepsTables_writeRange dst data))
  | readRegion region' => exact h
  | writeRegion region' offset data =>
    refine (wp_bind _ _).2 ((wp_ite _ _).2 ⟨fun inside => ?_, fun _ => h⟩)
    simp only [Bool.and_eq_true, decide_eq_true_eq] at inside
    exact h.edited inside.1 inside.2

/-! ## Every request -/

/-- A memory call as a request of a holder. -/
abbrev Request.memory (call : MemoryCall) : Request := .ask (.device (.memory call))

section

variable {h : Holder} {device : DeviceId} {region : MappedRegion} {params : AllocParams}
  {copy : Bytes}

theorem MappedRegion.edit_error (region : MappedRegion) (copy : Bytes) (call : MemoryCall)
    (e : Fault) : region.edit copy (.memory call, .memory (.error e)) = copy := by
  cases call <;> rfl

/-- Images are no allocations. -/
theorem DeviceCall.watches (watches : h.client.live.device.Watches device region params copy)
    (call : DeviceCall) (other : call.ofMemory = false) :
    ((Call.device call).step h.client).2.live.device.Watches device region params copy := by
  have still := (call.memoryStill other).outcome h.client.live
  have same := call.rehoused.outcome h.client.live
  exact watches.kept same.assigned still.nextAlloc fun _ held => still.buffers ▸ held

theorem Request.watches (watches : h.client.live.device.Watches device region params copy)
    (request : Request) (kept : request ≠ .memory (.unmap ⟨device, region.allocId⟩)) :
    (request.step h).client.live.device.Watches device region params
      (region.edit copy (request, request.hears h)) := by
  cases request with
  | queue i =>
    simp only [Request.step]
    split
    · exact watches
    · exact (Call.keepsTables (.device (.queueNative _)) rfl h.client).watches watches
  | ask call =>
    cases call with
    | device call =>
      cases call with
      | memory call =>
        have other : call ≠ .unmap ⟨device, region.allocId⟩ := fun same =>
          kept (congrArg Request.memory same)
        have live : ((Request.memory call).step h).client.live =
            (call.run.outcome h.client.live).2 := outcome_discard _ _
        have step := call.watches watches other
        rw [live]
        simp only [Request.hears]
        cases ran : call.run.outcome h.client.live with
        | mk result t =>
          cases result with
          | ok answer => exact step.ended ran
          | error e =>
            rw [MappedRegion.edit_error]
            exact step.failed ran
      | createImage | importImage | bindView | destroyImage =>
        exact DeviceCall.watches watches _ rfl
      | _ => exact (Call.keepsTables _ rfl h.client).watches watches
    | _ => exact (Call.keepsTables _ rfl h.client).watches watches

theorem Holder.watches (watches : h.client.live.device.Watches device region params copy)
    {requests : List Request}
    (kept : Request.memory (.unmap ⟨device, region.allocId⟩) ∉ requests) :
    (h.run requests).client.live.device.Watches device region params
      (region.edits copy (h.dialogue requests)) := by
  induction requests generalizing h copy with
  | nil => exact watches
  | cons request requests ih =>
    rw [List.mem_cons, not_or] at kept
    exact ih (request.watches watches (Ne.symm kept.1)) kept.2

end

/-! ## The end of a mapping -/

/-- The allocation that a call is to map. -/
def MemoryCall.maps? : MemoryCall → Option Allocation
  | .map alloc => some alloc
  | .mapRange start _ => some start.allocation
  | _ => none

theorem MemoryCall.run_of_maps? {call : MemoryCall} {alloc : Allocation}
    (maps : call.maps? = some alloc) :
    ∃ start size, start.allocation = alloc ∧ call.run = .region <$> Gpu.mapRange start size := by
  cases call with
  | map alloc' =>
    cases maps
    exact ⟨alloc.pointer 0, wholeSize, rfl, rfl⟩
  | mapRange start size =>
    cases maps
    exact ⟨start, size, rfl, rfl⟩
  | _ => cases maps

/-- Host memory ends a mapping without touching any byte. -/
theorem Host.unmap_keeps (h : Host) (alloc : Allocation) (c : Contents) :
    Device.memory c (.host ((unmap alloc).outcome h).2) = Device.memory c (.host h) := by
  refine wp.outcome (P := fun o => Device.memory c (.host o.2) = Device.memory c (.host h)) ?_
  simp only [unmap, block, checkOwner, putBlock, wp_bind, wp_get, wp_require, wp_orRefuse,
    wp_modify, implies_true, and_true]
  intro _ b found _
  funext id
  simp only [Device.memory, SortedMap.get?_insert]
  split
  · rename_i here
    rw [Ranked.rank_inj here]
    exact (congrArg (Option.map (·.bytes.toBytes)) found).symm
  · rfl

namespace Holder

/-- The bytes of the allocations of a holder's device. -/
def memory (h : Holder) (id : UInt32) : Option Bytes :=
  Device.memory h.client.live.platform.contents (.gpu h.client.live.device) id

variable {h : Holder} {p : Plain} {q : Placement}

/-- What a mapping begins with: the region is mapped, and the copy is what the allocation holds. -/
theorem begins (mirrors : Mirrors h p q) {call : MemoryCall} {alloc : Allocation}
    {region : MappedRegion} (maps : call.maps? = some alloc)
    (mapped : (Request.memory call).hears h = .memory (.ok (.region region))) :
    ∃ a first, h.client.live.device.buffers.get? alloc.id = some a ∧
      h.memory alloc.id = some first ∧ region.allocId = alloc.id ∧
      ((Request.memory call).step h).client.live.device.Watches alloc.device region a.params
        (first.slice region.offset region.length) := by
  obtain ⟨start, size, rfl, runs⟩ := MemoryCall.run_of_maps? maps
  have live : ((Request.memory call).step h).client.live =
      ((Gpu.mapRange start size).outcome h.client.live).2 := by
    refine (outcome_discard _ _).trans ?_
    rw [runs, outcome_map]
  have answered : (Gpu.mapRange start size).outcome h.client.live =
      (.ok region, ((Request.memory call).step h).client.live) := by
    simp only [Request.hears, runs, outcome_map, Heard.memory.injEq] at mapped
    rw [live]
    cases ran : (Gpu.mapRange start size).outcome h.client.live with
    | mk result t =>
      rw [ran] at mapped
      cases result with
      | error e => cases mapped
      | ok region' =>
        cases mapped
        rfl
  obtain ⟨here, a, shadow, held, rfl, inside, bytes, length, device, -⟩ :=
    (Gpu.wp_mapRange mirrors.stands.housed start size).ended answered
  obtain ⟨b, found, room, backs⟩ := mirrors.stands.backs held
  have lies := mirrors.stands.sound.held found
  rw [KeptBlock.LiesIn, room, mirrors.stands.contents, backs.length] at lies
  have first : h.memory start.allocId = some b.bytes := by
    rw [memory, Device.memory, held, Option.map_some, BufferAllocation.bytes, lies]
  refine ⟨a, b.bytes, held, first, rfl, ?_⟩
  rw [device]
  refine ⟨here.symm, mirrors.stands.numbered found, fun a' held' => ?_⟩
  rw [SortedMap.get?_insert_self] at held'
  cases held'
  refine ⟨rfl, _, rfl, rfl, length, ?_⟩
  rw [bytes, ← lies, Bytes.slice_take inside]

/-- What ends with a mapping: where the host may write, its copy is put in place. -/
theorem ends (mirrors : Mirrors h p q) {alloc : Allocation} {region : MappedRegion}
    {params : AllocParams} {copy : Bytes} (here : region.allocId = alloc.id)
    (watches : h.client.live.device.Watches alloc.device region params copy)
    (unmapped : (Request.memory (.unmap alloc)).hears h = .memory (.ok .done)) :
    ∃ last, h.memory alloc.id = some last ∧ region.offset + region.length ≤ last.length ∧
      ((Request.memory (.unmap alloc)).step h).memory = Function.update h.memory alloc.id
        (some (if params.hostWrite then last.splice region.offset copy else last)) := by
  have answered : ((MemoryCall.unmap alloc).run.outcome h.client.live).1 = .ok .done := by
    simpa [Request.hears] using unmapped
  have live : ((Request.memory (.unmap alloc)).step h).client.live =
      ((MemoryCall.unmap alloc).run.outcome h.client.live).2 := outcome_discard _ _
  have housed := mirrors.stands.housed
  have ended : (MemoryCall.unmap alloc).run.wp
      (fun _ t => (∃ a m, h.client.live.device.buffers.get? alloc.id = some a ∧
          a.mapping = some m) ∧
        Gpu.Follows (q.blocks.alter alloc.id KeptBlock.unmapped) q t)
      (fun _ _ => True) h.client.live := by
    refine (wp_bind _ _).2 (((Gpu.wp_unmap housed alloc).and
      (Gpu.follows_unmap mirrors.stands alloc)).ok ?_)
    rintro _ t ⟨⟨a, m, held, mapping, -⟩, follows⟩
    exact ⟨⟨a, m, held, mapping⟩, follows⟩
  obtain ⟨⟨a, m, held, mapping⟩, q', stands, blocks, -⟩ := ended.ended (Prod.ext answered rfl)
  obtain ⟨b, found, -, backs⟩ := mirrors.stands.backs held
  obtain ⟨copied, inside⟩ := backs.mapped m mapping
  obtain ⟨rfl, m', mapping', offset, length, rfl⟩ := watches.mapped a (here ▸ held)
  cases mapping.symm.trans mapping'
  have before (id : UInt32) : h.memory id = q.blocks.memory id := mirrors.stands.memory id
  refine ⟨b.bytes, ?_, ?_, ?_⟩
  · rw [before, Blocks.memory, found, Option.filter_some, if_pos backs.live, Option.map_some]
  · rwa [← offset, ← length, backs.length]
  · funext id
    rw [memory, live, stands.memory, blocks, Blocks.alter_of_some found, Blocks.memory,
      KeptBlock.unmapped_of_some copied]
    by_cases same : id = alloc.id
    · rw [same, Function.update_self, Function.update_self, Option.filter_some, if_pos backs.live,
        Option.map_some, backs.params, ← offset]
      rfl
    · rw [Function.update_of_ne same, Function.update_of_ne same, before, Blocks.memory]

/-- What an allocation holds after a mapping of it has ended: where the host may not write to it,
and around the region that was mapped, what it held just before. In the region of an allocation that
the host may write, it holds the host's copy: the bytes that were there when the mapping began, with
what the host has written into them. So what calls, copies and fills have written to the region in
between is lost there, unlike on host memory, which touches no byte when a mapping ends. -/
theorem unmap_restores {start : Client} (fresh : start.Fresh) {before between : List Request}
    (ownBefore : ∀ request ∈ before, request.isOwn = true)
    (ownBetween : ∀ request ∈ between, request.isOwn = true)
    {call : MemoryCall} {alloc : Allocation} {region : MappedRegion}
    (maps : call.maps? = some alloc)
    (mapped : (Request.memory call).hears (run ⟨start, []⟩ before) =
      .memory (.ok (.region region)))
    (kept : Request.memory (.unmap alloc) ∉ between)
    (unmapped : (Request.memory (.unmap alloc)).hears
      (run ⟨start, []⟩ (before ++ .memory call :: between)) = .memory (.ok .done)) :
    let begun := run ⟨start, []⟩ before
    let held := run ⟨start, []⟩ (before ++ .memory call :: between)
    (∃ a first last, begun.client.live.device.buffers.get? alloc.id = some a ∧
      begun.memory alloc.id = some first ∧ held.memory alloc.id = some last ∧
      region.offset + region.length ≤ last.length ∧
      ((Request.memory (.unmap alloc)).step held).memory = Function.update held.memory alloc.id
        (some (if a.params.hostWrite then
            last.splice region.offset (region.edits (first.slice region.offset region.length)
              (dialogue ((Request.memory call).step begun) between))
          else last))) ∧
      ∀ (host : Host) (c : Contents),
        Device.memory c (.host ((Host.unmap alloc).outcome host).2) =
          Device.memory c (.host host) := by
  intro begun held
  have onward : held = run ((Request.memory call).step begun) between := by
    simp only [held, begun, run, List.foldl_append, List.foldl_cons]
  have own : ∀ request ∈ before ++ .memory call :: between, request.isOwn = true :=
    List.forall_mem_append.2 ⟨ownBefore, List.forall_mem_cons.2 ⟨rfl, ownBetween⟩⟩
  obtain ⟨q, starts⟩ := fresh.mirrors
  obtain ⟨q₀, atBegin⟩ := mirrors starts ownBefore
  obtain ⟨q₁, atEnd⟩ := mirrors starts own
  obtain ⟨a, first, lives, firstHeld, here, watches⟩ := begins atBegin maps mapped
  have same : (⟨alloc.device, region.allocId⟩ : Allocation) = alloc := by rw [here]
  have watches := Holder.watches watches (by rwa [same])
  rw [← onward] at watches
  obtain ⟨last, lastHeld, inside, ends⟩ := ends atEnd here watches unmapped
  exact ⟨⟨a, first, last, lives, firstHeld, lastHeld, inside, ends⟩,
    fun host c => Host.unmap_keeps host alloc c⟩

/-- An allocation of six bytes. -/
def six : List Request :=
  [.memory (.allocate (.hostVisible 6)),
    .memory (.write ⟨⟨1⟩, 0, 0⟩ ⟨.ofBytes [1, 2, 3, 4, 5, 6], by decide⟩)]

/-- All six bytes are written over, and the host writes the second of the three that it has
mapped. -/
def crossing : List Request :=
  [.memory (.write ⟨⟨1⟩, 0, 0⟩ ⟨.ofBytes [9, 9, 9, 9, 9, 9], by decide⟩),
    .memory (.writeRegion ⟨0, 1, 3⟩ 1 ⟨.ofBytes [7], by decide⟩)]

/-- Three bytes of it, from the second on. -/
def three : MemoryCall := .mapRange ⟨⟨1⟩, 0, 1⟩ 3

theorem unmap_restores_crossing :
    (run ⟨.opened ⟨1⟩, []⟩ (six ++ .memory three :: crossing)).memory 0 =
        some [9, 9, 9, 9, 9, 9] ∧
      ((Request.memory (.unmap ⟨⟨1⟩, 0⟩)).step
        (run ⟨.opened ⟨1⟩, []⟩ (six ++ .memory three :: crossing))).memory 0 =
          some [9, 2, 7, 4, 9, 9] := by
  have mapped : (Request.memory three).hears (run ⟨.opened ⟨1⟩, []⟩ six) =
      .memory (.ok (.region ⟨0, 1, 3⟩)) := by rfl
  have kept : Request.memory (.unmap ⟨⟨1⟩, 0⟩) ∉ crossing := by simp [crossing]
  have unmapped : (Request.memory (.unmap ⟨⟨1⟩, 0⟩)).hears
      (run ⟨.opened ⟨1⟩, []⟩ (six ++ .memory three :: crossing)) = .memory (.ok .done) := by rfl
  obtain ⟨⟨a, first, last, lives, firstHeld, lastHeld, -, ends⟩, -⟩ :=
    unmap_restores (Client.fresh_opened ⟨1⟩) (by decide) (by decide) rfl mapped kept unmapped
  have firstIs : (run ⟨.opened ⟨1⟩, []⟩ six).memory 0 = some [1, 2, 3, 4, 5, 6] := by
    decide +kernel
  have lastIs : (run ⟨.opened ⟨1⟩, []⟩ (six ++ .memory three :: crossing)).memory 0 =
      some [9, 9, 9, 9, 9, 9] := by
    decide +kernel
  have params : (((run ⟨.opened ⟨1⟩, []⟩ six).client.live.device.buffers.get? 0).map
      fun a => a.params.hostWrite) = some true := by
    decide +kernel
  cases firstHeld.symm.trans firstIs
  cases lastHeld.symm.trans lastIs
  rw [lives] at params
  have hostWrite : a.params.hostWrite = true := Option.some.inj params
  refine ⟨lastIs, ?_⟩
  rw [ends, Function.update_self, if_pos hostWrite]
  decide +kernel

/-! ## A write that is lost -/

/-- The write is to the whole of an allocation of four bytes, while it is mapped. -/
def overwrite : Request := .memory (.write ⟨⟨1⟩, 0, 0⟩ ⟨.ofBytes [1, 2, 3, 4], by decide⟩)

def small : List Request := [.memory (.allocate (.hostVisible 4))]

/-- Unmapping takes back what was written in between, though the host has written nothing. -/
theorem unmap_reverts :
    ¬∀ (start : Client) (before between : List Request) (call : MemoryCall) (alloc : Allocation)
        (region : MappedRegion), start.Fresh →
      (∀ request ∈ before, request.isOwn = true) →
      (∀ request ∈ between, request.isOwn = true) → call.maps? = some alloc →
      (Request.memory call).hears (run ⟨start, []⟩ before) = .memory (.ok (.region region)) →
      (∀ region offset data, Request.memory (.writeRegion region offset data) ∉ between) →
      Request.memory (.unmap alloc) ∉ between →
      (Request.memory (.unmap alloc)).hears
        (run ⟨start, []⟩ (before ++ .memory call :: between)) = .memory (.ok .done) →
      ((Request.memory (.unmap alloc)).step
          (run ⟨start, []⟩ (before ++ .memory call :: between))).memory alloc.id =
        (run ⟨start, []⟩ (before ++ .memory call :: between)).memory alloc.id := by
  intro always
  have same := always (.opened ⟨1⟩) small [overwrite] (.map ⟨⟨1⟩, 0⟩) ⟨⟨1⟩, 0⟩ ⟨0, 0, 4⟩
    (Client.fresh_opened ⟨1⟩) (by decide) (by decide) rfl rfl nofun nofun rfl
  revert same
  decide +kernel

end Holder

end DeviceLayer
