import DeviceLayer.Proofs.Fitting

/-!
# Sizes of native buffers

An allocation gets a native buffer of whole groups of four bytes, and of one group at least. The
limit of the device is compared with what was asked for, before that is rounded up. So the size that
the graphics library is asked for may be past the limit, where the limit ends inside a group or is
less than a group. The library makes no such buffer, and does not return.

* `Gpu.NativeRequest` — all that a request for memory can come to.
* `Gpu.AskedFor` — the size of the native buffer that was asked for.
* `Gpu.KeepsLimit` — it is refused, or asks for a native buffer within the limit.
* `Gpu.allocate_keepsLimit_iff` — when that is so.
-/

namespace DeviceLayer

open DeviceLayer.Action

namespace Gpu

/-! ## Requests -/

variable {s t : Live Gpu} {params : AllocParams} {result : Except Fault Allocation}

/-- What comes of a request for memory of a registered device. -/
inductive NativeRequest (params : AllocParams) (s : Live Gpu) :
    Except Fault Allocation → Live Gpu → Prop
  | refused (past : s.device.limits.maxBufferSize < params.size) :
      NativeRequest params s (.error (.device (.resourceLimit
        (.bufferSize params.size s.device.limits.maxBufferSize)))) s
  /-- The rounded size is no word. -/
  | overflowed (within : params.size ≤ s.device.limits.maxBufferSize)
      (long : maxWord < paddedSize params.size) :
      NativeRequest params s (.error (.assertion (.overflow .multiply))) s
  /-- The rounded size is past the limit, and the library makes no such buffer. -/
  | declined (within : params.size ≤ s.device.limits.maxBufferSize)
      (past : s.device.limits.maxBufferSize.toNat < paddedSize params.size) :
      NativeRequest params s (.error (.native (.buffer
        (BufferPurpose.memory params.memoryType).label (paddedSize params.size)
        s.device.limits.maxBufferSize))) s
  | made (inLimit : paddedSize params.size ≤ s.device.limits.maxBufferSize.toNat) {t : Live Gpu}
      {result : Except Fault Allocation} (buffer : Buffer)
      (log : t.platform.log =
        s.platform.log ++ [.createBuffer buffer (paddedSize params.size)])
      (given : s.device.nextAlloc ≠ 0xFFFFFFFF →
        result = .ok ⟨s.device.id, s.device.nextAlloc⟩)
      (returns : ∀ refusal, result ≠ .error (.native refusal)) :
      NativeRequest params s result t

theorem allocate_nativeRequest (registered : s.device.id ≠ .unassigned) (params : AllocParams) :
    let o := (allocate params).outcome s
    NativeRequest params s o.1 o.2 := by
  refine wp.outcome (a := allocate params) (P := fun o => NativeRequest params s o.1 o.2) ?_
  simp only [allocate, registeredId, takeAllocId, putBuffer, exhausted, wp_bind, Live.wp_self,
    wp_require, wp_pure, wp_ite, wp_throw, registered, ne_eq, not_false_eq_true, decide_true,
    true_imp_iff, reduceCtorEq, false_imp_iff, and_true]
  refine ⟨.refused, fun small => ?_⟩
  have within := UInt64.not_lt.1 small
  rw [nativeSize_eq]
  split
  · rw [wp_check_ok, wp_attempt, Platform.wp_createBuffer]
    simp only [wp_check, Live.wp_update]
    -- Only once the buffer is made an id is taken, and for want of ids it is made in vain.
    refine ⟨fun inLimit => ⟨?_, fun e failed => ?_⟩, .declined within⟩
    · rintro ⟨id, next⟩ taken
      obtain ⟨rfl, -⟩ := takeNumber_eq_ok taken
      exact .made inLimit _ rfl (fun _ => rfl) (fun refusal same => by cases same)
    · refine .made inLimit _ rfl (fun more => absurd (takeNumber_eq_error failed) more) ?_
      intro refusal same
      obtain rfl := Except.error.inj same
      unfold takeNumber at failed
      split at failed <;> cases failed
  · rename_i long
    exact .overflowed within (Nat.lt_of_not_le long)

/-! ## The law of the limit -/

/-- A native buffer of that size was asked for: it was made, or the library refused to. -/
def AskedFor (n : Nat) (s : Live Gpu) (result : Except Fault Allocation) (t : Live Gpu) : Prop :=
  (∃ buffer, t.platform.log = s.platform.log ++ [.createBuffer buffer n]) ∨
    ∃ label limit, result = .error (.native (.buffer label n limit))

/-- A request is refused, and then nothing is asked for and no id is taken, or it asks for a native
buffer of whole groups that it fits in, within the limit of the device. -/
def KeepsLimit (params : AllocParams) (s : Live Gpu) (result : Except Fault Allocation)
    (t : Live Gpu) : Prop :=
  (∃ cause, result = .error (.device (.resourceLimit cause)) ∧ t = s) ∨
    ∃ n, AskedFor n s result t ∧
      n % 4 = 0 ∧ 4 ≤ n ∧ params.size.toNat ≤ n ∧ n ≤ s.device.limits.maxBufferSize.toNat

namespace NativeRequest

/-- Whatever native buffer is asked for has the rounded size. -/
theorem of_askedFor (request : NativeRequest params s result t) {n : Nat}
    (asked : AskedFor n s result t) : n = paddedSize params.size := by
  rcases asked with ⟨buffer, log⟩ | ⟨label, limit, same⟩
  · cases request with
    | refused | overflowed | declined => simp at log
    | made inLimit other log' =>
      have same := List.append_cancel_left (log'.symm.trans log)
      simp only [List.cons.injEq, Event.createBuffer.injEq] at same
      exact same.1.2.symm
  · cases request with
    | refused | overflowed => cases same
    | declined =>
      cases same
      rfl
    | made inLimit buffer log given returns => exact absurd same (returns _)

theorem keepsLimit_iff (request : NativeRequest params s result t) :
    KeepsLimit params s result t ↔
      s.device.limits.maxBufferSize < params.size ∨
        max params.size.toNat 4 ≤ s.device.limits.maxBufferSize.toNat / 4 * 4 := by
  rw [← paddedSize_le_iff]
  constructor
  · rintro (⟨cause, isLimit, same⟩ | ⟨n, asked, -, -, -, inLimit⟩)
    · cases request with
      | refused past => exact .inl past
      | overflowed | declined => cases isLimit
      | made inLimit => exact .inr inLimit
    · obtain rfl := request.of_askedFor asked
      exact .inr inLimit
  · have room := max_le_paddedSize params.size
    intro allowed
    cases request with
    | refused => exact .inl ⟨_, rfl, rfl⟩
    | overflowed within long =>
      have inLimit := allowed.resolve_left (UInt64.not_lt.2 within)
      have word := s.device.limits.maxBufferSize.toNat_lt
      simp only [maxWord, UInt64.size] at long
      omega
    | declined within past =>
      have inLimit := allowed.resolve_left (UInt64.not_lt.2 within)
      exact absurd inLimit (Nat.not_le.2 past)
    | made inLimit buffer log =>
      exact .inr ⟨_, .inl ⟨buffer, log⟩, mod_paddedSize _, by omega, by omega, inLimit⟩

end NativeRequest

/-- What registered devices make of requests for memory, for any limit. Each native size is of whole
groups, of one group at least, and has room for what was asked for. The law of the limit holds
for the requests that are refused and for those that lie, with one group at least, within the whole
groups of the limit. So it holds for all requests only if the limit is some number of groups. -/
theorem allocate_keepsLimit_iff (registered : s.device.id ≠ .unassigned) :
    let limit := s.device.limits.maxBufferSize
    (∀ params : AllocParams,
      let o := (allocate params).outcome s
      NativeRequest params s o.1 o.2 ∧
        (∀ n, AskedFor n s o.1 o.2 → n % 4 = 0 ∧ 4 ≤ n ∧ params.size.toNat ≤ n) ∧
        (KeepsLimit params s o.1 o.2 ↔
          limit < params.size ∨ max params.size.toNat 4 ≤ limit.toNat / 4 * 4)) ∧
      ((∀ params : AllocParams,
          let o := (allocate params).outcome s
          KeepsLimit params s o.1 o.2) ↔
        limit.toNat % 4 = 0 ∧ 4 ≤ limit.toNat) := by
  intro limit
  have request := allocate_nativeRequest registered
  refine ⟨fun params => ⟨request params, fun n asked => ?_, (request params).keepsLimit_iff⟩,
    fun keeps => ?_, fun ⟨groups, least⟩ params => ?_⟩
  · obtain rfl := (request params).of_askedFor asked
    have room := max_le_paddedSize params.size
    exact ⟨mod_paddedSize _, by omega, by omega⟩
  · -- The largest request that is not refused.
    have largest := (request (.deviceLocal limit)).keepsLimit_iff.1 (keeps (.deviceLocal limit))
    have inGroups : max limit.toNat 4 ≤ limit.toNat / 4 * 4 :=
      largest.resolve_left (UInt64.lt_irrefl limit)
    omega
  · refine (request params).keepsLimit_iff.2 ?_
    rcases UInt64.lt_or_le limit params.size with past | within
    · exact .inl past
    · have small := UInt64.le_iff_toNat_le.1 within
      have inGroups : max params.size.toNat 4 ≤ limit.toNat / 4 * 4 := by omega
      exact .inr inGroups

/-- A registered graphics processor whose limit ends inside a group of bytes. -/
def limited : Live Gpu :=
  let connection : Connection := ⟨0, { maxBufferSize := 0x7FFFFFFF }⟩
  let made := Platform.makeBuffer connection .placeholder placeholderSize
    (Platform.connect connection.limits {}).2
  ⟨made.2, { assigned := some ⟨0⟩, connection, adapter := .discrete, placeholder := made.1 }⟩

/-- Ten bytes are given twelve, and not all requests keep the limit. -/
theorem allocate_keepsLimit_iff_limited :
    let params : AllocParams := .hostVisible 10
    let o := (allocate params).outcome limited
    limited.device.id ≠ .unassigned ∧ KeepsLimit params limited o.1 o.2 ∧
      ¬∀ params : AllocParams,
        let o := (allocate params).outcome limited
        KeepsLimit params limited o.1 o.2 := by
  have registered : limited.device.id ≠ .unassigned := by decide
  obtain ⟨each, all⟩ := allocate_keepsLimit_iff registered
  exact ⟨registered, (each (.hostVisible 10)).2.2.2 (.inr (by decide)),
    fun keeps => absurd (all.1 keeps) (by decide)⟩

/-- The last bytes within the limit begin a group that ends behind it. They are not refused by the
device, and the library makes no buffer for them. -/
theorem not_keepsLimit_limited :
    let params : AllocParams := .hostVisible 0x7FFFFFFD
    let o := (allocate params).outcome limited
    limited.device.id ≠ .unassigned ∧
      o.1 = .error (.native (.buffer "strata host-shared" 0x80000000 0x7FFFFFFF)) ∧
      ¬KeepsLimit params limited o.1 o.2 := by
  intro params o
  have registered : limited.device.id ≠ .unassigned := by decide
  have request := allocate_nativeRequest registered params
  have declined : o.1 = .error (.native (.buffer "strata host-shared" 0x80000000 0x7FFFFFFF)) := by
    decide +kernel
  refine ⟨registered, declined, fun keeps => ?_⟩
  exact absurd (request.keepsLimit_iff.1 keeps) (by decide)

end Gpu

end DeviceLayer
