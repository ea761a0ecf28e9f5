import DeviceLayer.CommandList.Recording
import Mathlib.Data.List.Forall2

/-!
# What actions do

An action ends well or with a fault, and both ends matter, since a fault does not undo. Three ways
to speak about the ends:

* `Action.wp` — what has to hold before an action for a property to hold at its ends. Its lemmas
  walk through an action from front to back, so `simp` runs straight-line code.
* `Action.Evolves` — a relation between the state before and the state at either end. It composes
  along binds and loops, so what every step keeps is kept by the whole.
* `Action.Spares` — a relation between the state before and the state that a failure leaves.
-/

namespace DeviceLayer

/-! ## Lists of computations that may fail -/

theorem mapM_eq_ok_iff {ε α β : Type} {f : α → Except ε β} {xs : List α} {ys : List β} :
    xs.mapM f = .ok ys ↔ List.Forall₂ (fun x y => f x = .ok y) xs ys := by
  induction xs generalizing ys with
  | nil => simp [pure, Except.pure, eq_comm]
  | cons x xs ih =>
    rw [List.mapM_cons, List.forall₂_cons_left_iff]
    simp only [← ih]
    cases f x with
    | error e => simp [bind, Except.bind]
    | ok y => cases xs.mapM f <;> simp [bind, Except.bind, pure, Except.pure, eq_comm]

/-- Where a list fails, one of its elements does. -/
theorem exists_of_mapM_eq_error {ε α β : Type} {f : α → Except ε β} {xs : List α} {e : ε}
    (failed : xs.mapM f = .error e) : ∃ x ∈ xs, f x = .error e := by
  induction xs with
  | nil => cases failed
  | cons x xs ih =>
    rw [List.mapM_cons] at failed
    cases first : f x with
    | error e' =>
      rw [first] at failed
      cases failed
      exact ⟨x, List.mem_cons_self, first⟩
    | ok y =>
      rw [first] at failed
      cases rest : xs.mapM f with
      | error e' =>
        rw [rest] at failed
        cases failed
        obtain ⟨x', member, failed⟩ := ih rest
        exact ⟨x', List.mem_cons_of_mem x member, failed⟩
      | ok ys =>
        rw [rest] at failed
        cases failed

/-! ## Ends of actions -/

namespace Action

variable {σ τ α β : Type}

theorem outcome_bind (a : Action σ β) (f : β → Action σ α) (s : σ) :
    (a >>= f).outcome s =
      match a.outcome s with
      | (.ok x, t) => (f x).outcome t
      | (.error e, t) => (.error e, t) := by
  unfold outcome
  simp only [bind, EStateM.bind]
  cases a s <;> rfl

/-- Only the effect of the first action counts. -/
theorem discard_bind (a : Action σ β) (f : PUnit → Action σ α) :
    discard a >>= f = a >>= fun _ => f ⟨⟩ := by
  funext s
  simp only [discard, Functor.discard, Functor.mapConst, Function.comp, Function.const, EStateM.map,
    bind, EStateM.bind]
  cases a s <;> rfl

theorem outcome_discard (a : Action σ α) (s : σ) :
    ((discard a).outcome s).2 = (a.outcome s).2 := by
  simp only [outcome, discard, Functor.discard, Functor.mapConst, Function.comp, Function.const,
    EStateM.map]
  cases a s <;> rfl

theorem outcome_map (a : Action σ β) (f : β → α) (s : σ) :
    (f <$> a).outcome s = ((a.outcome s).1.map f, (a.outcome s).2) := by
  simp only [outcome, Functor.map, EStateM.map]
  cases a s <;> rfl

theorem outcome_modify (f : σ → σ) (s : σ) :
    (modify f : Action σ PUnit).outcome s = (.ok ⟨⟩, f s) := rfl

/-! ## Weakest preconditions -/

/-- Run from `s`, the action ends well with `Q` or with a fault and `E`. -/
def wp (a : Action σ α) (Q : α → σ → Prop) (E : Fault → σ → Prop) (s : σ) : Prop :=
  match a s with
  | .ok x t => Q x t
  | .error e t => E e t

variable {Q Q' : α → σ → Prop} {E E' : Fault → σ → Prop} {s : σ}

theorem wp.mono {a : Action σ α} (h : a.wp Q E s) (ok : ∀ x t, Q x t → Q' x t)
    (fault : ∀ e t, E e t → E' e t) : a.wp Q' E' s := by
  unfold wp at *
  cases ended : a s with
  | ok x t =>
    rw [ended] at h
    exact ok x t h
  | error e t =>
    rw [ended] at h
    exact fault e t h

/-- What comes of an action if it ends well. -/
theorem wp.ok {a : Action σ α} (h : a.wp Q E s) (ok : ∀ x t, Q x t → Q' x t) :
    a.wp Q' (fun _ _ => True) s :=
  h.mono ok fun _ _ _ => trivial

theorem wp.and {a : Action σ α} (h : a.wp Q E s) (h' : a.wp Q' E' s) :
    a.wp (fun x t => Q x t ∧ Q' x t) (fun e t => E e t ∧ E' e t) s := by
  unfold wp at *
  cases ended : a s with
  | ok x t =>
    rw [ended] at h h'
    exact ⟨h, h'⟩
  | error e t =>
    rw [ended] at h h'
    exact ⟨h, h'⟩

theorem wp.outcome {a : Action σ α} {P : Except Fault α × σ → Prop}
    (h : a.wp (fun x t => P (.ok x, t)) (fun e t => P (.error e, t)) s) : P (a.outcome s) := by
  unfold wp at h
  unfold Action.outcome
  cases ended : a s with
  | ok x t =>
    rw [ended] at h
    exact h
  | error e t =>
    rw [ended] at h
    exact h

/-- What an action that ended well has come to. -/
theorem wp.ended {a : Action σ α} {x : α} {t : σ} (h : a.wp Q E s)
    (ended : a.outcome s = (.ok x, t)) : Q x t := by
  unfold wp at h
  unfold Action.outcome at ended
  cases ran : a s with
  | ok y u =>
    rw [ran] at h ended
    cases ended
    exact h
  | error e u =>
    rw [ran] at ended
    cases ended

/-- What an action that failed has come to. -/
theorem wp.failed {a : Action σ α} {e : Fault} {t : σ} (h : a.wp Q E s)
    (failed : a.outcome s = (.error e, t)) : E e t := by
  unfold wp at h
  unfold Action.outcome at failed
  cases ran : a s with
  | ok y u =>
    rw [ran] at failed
    cases failed
  | error e u =>
    rw [ran] at h failed
    cases failed
    exact h

/-- An action comes to its outcome. -/
theorem wp_outcome (a : Action σ α) (s : σ) :
    a.wp (fun x t => a.outcome s = (.ok x, t)) (fun e t => a.outcome s = (.error e, t)) s := by
  unfold wp outcome
  cases a s <;> rfl

theorem outcome_of_isOk {a : Action σ Unit} {s : σ} (succeeds : (a.outcome s).1.isOk = true) :
    a.outcome s = (.ok (), (a.outcome s).2) := by
  cases ended : a.outcome s with
  | mk result t =>
    rw [ended] at succeeds
    cases result with
    | error e => cases succeeds
    | ok => rfl

@[simp] theorem wp_pure (x : α) : wp (pure x) Q E s ↔ Q x s := Iff.rfl

@[simp] theorem wp_throw (e : Fault) : wp (throw e : Action σ α) Q E s ↔ E e s := Iff.rfl

@[simp] theorem wp_bind (a : Action σ β) (f : β → Action σ α) :
    wp (a >>= f) Q E s ↔ a.wp (fun x t => (f x).wp Q E t) E s := by
  unfold wp
  simp only [bind, EStateM.bind]
  cases a s <;> rfl

@[simp] theorem wp_map (a : Action σ β) (f : β → α) :
    wp (f <$> a) Q E s ↔ a.wp (fun x t => Q (f x) t) E s := by
  unfold wp
  simp only [Functor.map, EStateM.map]
  cases a s <;> rfl

@[simp] theorem wp_discard (a : Action σ β) {Q : PUnit → σ → Prop} :
    wp (discard a) Q E s ↔ a.wp (fun _ t => Q () t) E s :=
  wp_map a _

@[simp] theorem wp_get {Q : σ → σ → Prop} : wp (get : Action σ σ) Q E s ↔ Q s s := Iff.rfl

@[simp] theorem wp_modify {Q : PUnit → σ → Prop} (f : σ → σ) :
    wp (modify f : Action σ PUnit) Q E s ↔ Q () (f s) := Iff.rfl

@[simp] theorem wp_set {Q : PUnit → σ → Prop} (t : σ) :
    wp (set t : Action σ PUnit) Q E s ↔ Q () t := Iff.rfl

@[simp] theorem wp_modifyGet (f : σ → α × σ) :
    wp (modifyGet f : Action σ α) Q E s ↔ Q (f s).1 (f s).2 := Iff.rfl

theorem wp_ite {p : Prop} [Decidable p] (a b : Action σ α) :
    wp (if p then a else b) Q E s ↔ (p → a.wp Q E s) ∧ (¬p → b.wp Q E s) := by
  by_cases h : p <;> simp [h]

@[simp] theorem wp_refuse (cause : Precondition) :
    wp (refuse cause : Action σ α) Q E s ↔ E (.device (.precondition cause)) s := Iff.rfl

@[simp] theorem wp_require {Q : Unit → σ → Prop} (holds : Bool) (cause : Precondition) :
    wp (require holds cause) Q E s ↔
      (holds = true → Q () s) ∧ (holds = false → E (.device (.precondition cause)) s) := by
  cases holds <;> simp [require]

@[simp] theorem wp_assert {Q : Unit → σ → Prop} (holds : Bool) (failed : Assertion) :
    wp (assert holds failed) Q E s ↔
      (holds = true → Q () s) ∧ (holds = false → E (.assertion failed) s) := by
  cases holds <;> simp [assert]

@[simp] theorem wp_orRefuse (value : Option α) (cause : Precondition) :
    wp (orRefuse value cause) Q E s ↔
      (∀ x, value = some x → Q x s) ∧
        (value = none → E (.device (.precondition cause)) s) := by
  cases value <;> simp [orRefuse]

@[simp] theorem wp_orRefuse_some (x : α) (cause : Precondition) :
    wp (orRefuse (some x) cause) Q E s ↔ Q x s := Iff.rfl

@[simp] theorem wp_orRefuse_none (cause : Precondition) :
    wp (orRefuse none cause : Action σ α) Q E s ↔ E (.device (.precondition cause)) s := Iff.rfl

@[simp] theorem wp_check (result : Except Fault α) :
    wp (check result) Q E s ↔
      (∀ x, result = .ok x → Q x s) ∧ (∀ e, result = .error e → E e s) := by
  cases result <;> simp [check]

@[simp] theorem wp_check_ok (x : α) : wp (check (.ok x)) Q E s ↔ Q x s := Iff.rfl

@[simp] theorem wp_checked (result : Except DeviceError α) :
    wp (checked result) Q E s ↔
      (∀ x, result = .ok x → Q x s) ∧ (∀ e, result = .error e → E (.device e) s) := by
  cases result <;> simp [checked]

@[simp] theorem wp_within (part : σ → τ) (put : τ → σ → σ) (a : Action τ α) :
    wp (within part put a) Q E s ↔
      a.wp (fun x t => Q x (put t s)) (fun e t => E e (put t s)) (part s) := by
  unfold wp within
  cases a (part s) <;> rfl

/-- A loop whose every turn succeeds, as long as it is told what to expect. -/
theorem outcome_forM {I : σ → Prop} {f : β → Action σ PUnit} {g : σ → β → σ}
    (each : ∀ s x, I s → (f x).outcome s = (.ok ⟨⟩, g s x) ∧ I (g s x)) {s : σ} (holds : I s)
    (xs : List β) : (xs.forM f).outcome s = (.ok ⟨⟩, xs.foldl g s) ∧ I (xs.foldl g s) := by
  induction xs generalizing s with
  | nil => exact ⟨rfl, holds⟩
  | cons x xs ih =>
    obtain ⟨ended, still⟩ := each s x holds
    have first : ((x :: xs).forM f).outcome s = (xs.forM f).outcome (g s x) := by
      rw [show (x :: xs).forM f = f x >>= fun _ => xs.forM f from rfl, outcome_bind, ended]
    rw [first]
    exact ih still

/-! ## What an action keeps -/

/-- A relation between earlier and later states that can be followed step by step. -/
class Evolution (R : σ → σ → Prop) : Prop where
  refl : ∀ s, R s s
  trans : ∀ {s t u}, R s t → R t u → R s u

/-- Nothing changes. -/
instance : Evolution (Eq : σ → σ → Prop) := ⟨fun _ => rfl, Eq.trans⟩

/-- The relation holds from the state the action starts in to the one it ends in, well or not. -/
def Evolves (R : σ → σ → Prop) (a : Action σ α) : Prop :=
  ∀ s, a.wp (fun _ t => R s t) (fun _ t => R s t) s

namespace Evolves

variable {R : σ → σ → Prop}

theorem outcome {a : Action σ α} (h : Evolves R a) (s : σ) : R s (a.outcome s).2 :=
  wp.outcome (P := fun o => R s o.2) (h s)

theorem mono {R' : σ → σ → Prop} {a : Action σ α} (h : Evolves R a)
    (weaker : ∀ s t, R s t → R' s t) : Evolves R' a :=
  fun s => (h s).mono (fun _ t => weaker s t) fun _ t => weaker s t

theorem any (a : Action σ α) : Evolves (fun _ _ => True) a := by
  intro s
  unfold wp
  split <;> trivial

theorem map {a : Action σ β} (h : Evolves R a) (f : β → α) : Evolves R (f <$> a) :=
  fun s => (wp_map a f).2 (h s)

theorem discard {a : Action σ β} (h : Evolves R a) : Evolves R (discard a) := h.map _

theorem ite {p : Prop} [Decidable p] {a b : Action σ α} (yes : Evolves R a) (no : Evolves R b) :
    Evolves R (if p then a else b) := by
  split
  · exact yes
  · exact no

theorem within {S : τ → τ → Prop} {part : σ → τ} {put : τ → σ → σ} {a : Action τ α}
    (h : Evolves S a) (lift : ∀ s t, S (part s) t → R s (put t s)) :
    Evolves R (within part put a) := by
  intro s
  rw [wp_within]
  exact (h (part s)).mono (fun _ t => lift s t) (fun _ t => lift s t)

variable [Evolution R]

theorem pure (x : α) : Evolves R (Pure.pure x : Action σ α) := fun s => Evolution.refl s

theorem throw (e : Fault) : Evolves R (throw e : Action σ α) := fun s => Evolution.refl s

theorem get : Evolves R (MonadState.get : Action σ σ) := fun s => Evolution.refl s

theorem bind {a : Action σ β} {f : β → Action σ α} (first : Evolves R a)
    (second : ∀ x, Evolves R (f x)) : Evolves R (a >>= f) := by
  intro s
  rw [wp_bind]
  -- After a fault the second action does not run, and the first step is the whole one.
  refine (first s).mono (fun x t step => ?_) fun _ _ step => step
  exact (second x t).mono (fun _ _ => Evolution.trans step) fun _ _ => Evolution.trans step

/-- An early stop, after which the rest does not run. -/
theorem stopIf {p : Prop} [Decidable p] {stop : Action σ PUnit} {rest : PUnit → Action σ α}
    (stops : Evolves R stop) (goes : ∀ u, Evolves R (rest u)) :
    Evolves R (if p then stop >>= rest else rest ⟨⟩) :=
  (stops.bind goes).ite (goes _)

theorem refuse (cause : Precondition) : Evolves R (refuse cause : Action σ α) :=
  Evolves.throw _

/-- Nothing runs after a refusal. -/
theorem refuse_bind (cause : Precondition) (f : β → Action σ α) :
    Evolves R (Action.refuse cause >>= f) := fun s => Evolution.refl s

theorem require (holds : Bool) (cause : Precondition) : Evolves R (require holds cause) :=
  (Evolves.pure _).ite (Evolves.refuse _)

theorem assert (holds : Bool) (failed : Assertion) : Evolves R (assert holds failed) :=
  (Evolves.pure _).ite (Evolves.throw _)

theorem orRefuse (value : Option α) (cause : Precondition) : Evolves R (orRefuse value cause) := by
  cases value with
  | none => exact Evolves.refuse _
  | some x => exact Evolves.pure _

theorem check (result : Except Fault α) : Evolves R (check result) := by
  cases result with
  | ok x => exact Evolves.pure _
  | error e => exact Evolves.throw _

theorem checked (result : Except DeviceError α) : Evolves R (checked result) := by
  cases result with
  | ok x => exact Evolves.pure _
  | error e => exact Evolves.throw _

theorem forM {xs : List β} {f : β → Action σ PUnit} (each : ∀ x, Evolves R (f x)) :
    Evolves R (xs.forM f) := by
  induction xs with
  | nil => exact Evolves.pure _
  | cons x xs ih => exact (each x).bind fun _ => ih

theorem mapM {xs : List β} {f : β → Action σ α} (each : ∀ x, Evolves R (f x)) :
    Evolves R (xs.mapM f) := by
  induction xs with
  | nil => exact Evolves.pure _
  | cons x xs ih =>
    rw [List.mapM_cons]
    exact (each x).bind fun _ => ih.bind fun _ => Evolves.pure _

theorem foldlM {xs : List β} {f : α → β → Action σ α} (each : ∀ a x, Evolves R (f a x)) (a : α) :
    Evolves R (xs.foldlM f a) := by
  induction xs generalizing a with
  | nil => exact Evolves.pure _
  | cons x xs ih =>
    rw [List.foldlM_cons]
    exact (each a x).bind ih

end Evolves

/-- An action that changes nothing, before another one. -/
theorem wp_lookUp {Q : α → σ → Prop} {E : Fault → σ → Prop} {s : σ} {a : Action σ β}
    {f : β → Action σ α} (lookUp : Evolves Eq a) (found : ∀ x, (f x).wp Q E s)
    (missing : ∀ e, E e s) : wp (a >>= f) Q E s := by
  refine (wp_bind a f).2 ((lookUp s).mono ?_ ?_)
  · rintro x _ rfl
    exact found x
  · rintro e _ rfl
    exact missing e

/-- What a list comes to, element by element, if what one has come to lasts. -/
theorem wp_mapM {R : σ → σ → Prop} [Evolution R] {P : β → α → σ → Prop}
    {f : β → Action σ α} (lasts : ∀ {x y t u}, R t u → P x y t → P x y u) {s : σ}
    (each : ∀ x t, R s t → (f x).wp (fun y u => R t u ∧ P x y u) (fun _ _ => True) t)
    (xs : List β) :
    (xs.mapM f).wp (fun ys t => R s t ∧ List.Forall₂ (P · · t) xs ys) (fun _ _ => True) s := by
  suffices all : ∀ t, R s t → (xs.mapM f).wp
      (fun ys u => R t u ∧ List.Forall₂ (P · · u) xs ys) (fun _ _ => True) t from
    all s (Evolution.refl s)
  induction xs with
  | nil => exact fun t _ => ⟨Evolution.refl t, .nil⟩
  | cons x xs ih =>
    intro t reached
    rw [List.mapM_cons, wp_bind]
    refine (each x t reached).mono (fun y u first => ?_) fun _ _ _ => trivial
    obtain ⟨step, here⟩ := first
    rw [wp_bind]
    refine (ih u (Evolution.trans reached step)).mono (fun ys v rest => ?_) fun _ _ _ => trivial
    exact ⟨Evolution.trans step rest.1, .cons (lasts rest.1 here) rest.2⟩

/-! ## What a failure leaves -/

/-- The action cannot fail. -/
def Sure (a : Action σ α) : Prop := ∀ s, a.wp (fun _ _ => True) (fun _ _ => False) s

/-- If the action fails, the relation holds from the state that it starts in to the one that it
leaves. -/
def Spares (R : σ → σ → Prop) (a : Action σ α) : Prop :=
  ∀ s, a.wp (fun _ _ => True) (fun _ t => R s t) s

theorem Sure.bind {a : Action σ β} {f : β → Action σ α} (first : Sure a)
    (second : ∀ x, Sure (f x)) : Sure (a >>= f) :=
  fun s => (wp_bind _ _).2 ((first s).mono (fun x t _ => second x t) fun _ _ failed => failed)

theorem Sure.spares {R : σ → σ → Prop} {a : Action σ α} (h : Sure a) : Spares R a :=
  fun s => (h s).mono (fun _ _ _ => trivial) fun _ _ failed => failed.elim

theorem Evolves.spares {R : σ → σ → Prop} {a : Action σ α} (h : Evolves R a) : Spares R a :=
  fun s => (h s).mono (fun _ _ _ => trivial) fun _ _ left => left

namespace Spares

variable {R : σ → σ → Prop}

theorem pure (x : α) : Spares R (Pure.pure x : Action σ α) := fun _ => trivial

theorem ite {p : Prop} [Decidable p] {a b : Action σ α} (yes : Spares R a) (no : Spares R b) :
    Spares R (if p then a else b) := by
  split
  · exact yes
  · exact no

theorem within {S : τ → τ → Prop} {part : σ → τ} {put : τ → σ → σ} {a : Action τ α}
    (h : Spares S a) (lift : ∀ s t, S (part s) t → R s (put t s)) :
    Spares R (within part put a) := by
  intro s
  rw [wp_within]
  exact (h (part s)).mono (fun _ _ _ => trivial) fun _ t => lift s t

/-- An action that keeps the relation also where it succeeds, before one that spares it. -/
theorem after [Evolution R] {a : Action σ β} {f : β → Action σ α} (first : Evolves R a)
    (second : ∀ x, Spares R (f x)) : Spares R (a >>= f) := by
  intro s
  refine (wp_bind _ _).2 ((first s).mono (fun x t step => ?_) fun _ _ step => step)
  exact (second x t).mono (fun _ _ _ => trivial) fun _ _ left => Evolution.trans step left

end Spares

end Action

namespace Live

variable {δ α : Type} {R : Live δ → Live δ → Prop} {E : Fault → Live δ → Prop} {s : Live δ}

@[simp] theorem wp_onPlatform {Q : α → Live δ → Prop} (a : Action Platform α) :
    (onPlatform a).wp Q E s ↔
      a.wp (fun x p => Q x { s with platform := p }) (fun e p => E e { s with platform := p })
        s.platform :=
  Action.wp_within _ _ _

@[simp] theorem wp_request {Q : α → Live δ → Prop} (f : Platform → α × Platform) :
    (request f).wp Q E s ↔ Q (f s.platform).1 { s with platform := (f s.platform).2 } := Iff.rfl

@[simp] theorem wp_self {Q : δ → Live δ → Prop} : self.wp Q E s ↔ Q s.device s := Iff.rfl

@[simp] theorem wp_update {Q : Unit → Live δ → Prop} (f : δ → δ) :
    (update f).wp Q E s ↔ Q () { s with device := f s.device } := Iff.rfl

@[simp] theorem wp_record {Q : Unit → Live δ → Prop} (e : Event) :
    (record e).wp Q E s ↔ Q () { s with platform := s.platform.record e } := Iff.rfl

theorem evolves_self [Action.Evolution R] : self.Evolves R := fun s => Action.Evolution.refl s

theorem evolves_update {f : δ → δ} (h : ∀ s, R s { s with device := f s.device }) :
    (update f).Evolves R := h

theorem evolves_request {f : Platform → α × Platform}
    (h : ∀ s, R s { s with platform := (f s.platform).2 }) : (request f).Evolves R := h

theorem evolves_record {e : Event} (h : ∀ s, R s { s with platform := s.platform.record e }) :
    (record e).Evolves R := h

theorem evolves_onPlatform {S : Platform → Platform → Prop} {a : Action Platform α}
    (h : a.Evolves S) (lift : ∀ s p, S s.platform p → R s { s with platform := p }) :
    (onPlatform a).Evolves R := h.within lift

end Live

namespace Recording

variable {α : Type} {R : Recording → Recording → Prop} {E : Fault → Recording → Prop}
  {r : Recording}

@[simp] theorem wp_onDevice {Q : α → Recording → Prop} (a : Action (Live Gpu) α) :
    (onDevice a).wp Q E r ↔
      a.wp (fun x t => Q x { r with live := t }) (fun e t => E e { r with live := t }) r.live :=
  Action.wp_within _ _ _

@[simp] theorem wp_current {Q : CommandList → Recording → Prop} :
    current.wp Q E r ↔ Q r.list r := Iff.rfl

@[simp] theorem wp_updateList {Q : Unit → Recording → Prop} (f : CommandList → CommandList) :
    (updateList f).wp Q E r ↔ Q () { r with list := f r.list } := Iff.rfl

@[simp] theorem wp_push {Q : Unit → Recording → Prop} (command : Recorded) :
    (push command).wp Q E r ↔
      Q () { r with list := { r.list with commands := r.list.commands.push command } } := Iff.rfl

@[simp] theorem wp_checkRecording {Q : Unit → Recording → Prop} :
    checkRecording.wp Q E r ↔
      (r.list.finalized = false → Q () r) ∧
        (r.list.finalized = true → E (.assertion .listFinalized) r) := by
  simp [checkRecording]

@[simp] theorem wp_checkOutsidePass {Q : Unit → Recording → Prop} (what : String) :
    (checkOutsidePass what).wp Q E r ↔
      (r.list.target = none → Q () r) ∧
        (r.list.target ≠ none → E (.device (.precondition (.insidePass what))) r) := by
  cases h : r.list.target <;> simp [checkOutsidePass, h]

theorem evolves_onDevice {S : Live Gpu → Live Gpu → Prop} {a : Action (Live Gpu) α}
    (h : a.Evolves S) (lift : ∀ r t, S r.live t → R r { r with live := t }) :
    (onDevice a).Evolves R := h.within lift

theorem evolves_updateList {f : CommandList → CommandList}
    (h : ∀ r, R r { r with list := f r.list }) : (updateList f).Evolves R := h

variable [Action.Evolution R]

theorem evolves_current : current.Evolves R := fun r => Action.Evolution.refl r

theorem evolves_checkRecording : checkRecording.Evolves R :=
  evolves_current.bind fun _ => .assert _ _

theorem evolves_checkOutsidePass (what : String) : (checkOutsidePass what).Evolves R :=
  evolves_current.bind fun _ => .require _ _

/-- Binding geometry only looks up slices of buffers and records commands that bind them. -/
theorem evolves_bindGeometry (binder : Binder)
    (slice : ∀ pointer, (onDevice (Gpu.bufferSlice pointer)).Evolves R)
    (index : ∀ buffer offset format, (push (.indexBuffer buffer offset format)).Evolves R)
    (vertex : ∀ slot buffer offset, (push (.vertexBuffer slot buffer offset)).Evolves R) :
    (bindGeometry binder).Evolves R := by
  unfold bindGeometry
  split
  · refine (slice _).bind fun _ => (index _ _ _).bind fun _ => ?_
    exact .forM fun _ => (slice _).bind fun _ => vertex _ _ _
  · exact .forM fun _ => (slice _).bind fun _ => vertex _ _ _

end Recording

end DeviceLayer
