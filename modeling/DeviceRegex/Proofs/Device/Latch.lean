import DeviceRegex.Device.Context
import Mathlib.Data.List.Infix

/-!
# Contexts latch their first fatal failure

A context does what checked calls on the bare runtime do, up to and including the first
one that is fatal. From then on it repeats that failure, and what happens to the runtime
has ended: no call is issued and no request is made.

## Main definitions

* `CheckedOperation` — one use of a context or of a bare runtime.
* `perform act state ops` — what a sequence of operations answers, and the state after it.
* `Follows` — after these operations a context is where the bare runtime is.
* `Latched` — a context stays where the first fatal failure left it.
-/
namespace DeviceRegex

/-- A checked operation at its call site. -/
inductive CheckedOperation (σ : Type) where
  /-- A call of the user's own, which may do anything to the device. -/
  | call (issue : σ → Status × σ) (site : CallSite)
  /-- The status of a call made elsewhere. -/
  | check (status : Status) (site : CallSite)
  | sync (stream : StreamHandle) (site : CallSite)

/-- What an operation or a sequence of operations answers. -/
abbrev Answer := Except Failure Unit

/-- The operation found the device context lost. -/
def Answer.IsFatal (answer : Answer) : Prop := ∃ e, answer = .error (.fatalDevice e)

namespace CheckedOperation
variable {σ : Type}

/-- An operation on the bare runtime. -/
def onRuntime (rt : Runtime σ) (mode : CheckMode) (s : Session σ) :
    CheckedOperation σ → Answer × Session σ
  | call issue site => (s.issue issue).2.checkStatus rt (s.issue issue).1 site
  | check status site => s.checkStatus rt status site
  | sync stream site => s.checkStream rt stream mode site

/-- An operation on a context. -/
def onContext (ctx : DeviceContext σ) : CheckedOperation σ → Answer × DeviceContext σ
  | call issue site => ctx.call issue site
  | check status site => ctx.check status site
  | sync stream site => ctx.sync stream site

end CheckedOperation

section
variable {σ α : Type} (act : α → CheckedOperation σ → Answer × α)

/-- What operations answer one after the other, and the state after them. -/
def perform (state : α) : List (CheckedOperation σ) → List Answer × α
  | [] => ([], state)
  | op :: ops =>
    let (answer, next) := act state op
    let (answers, last) := perform next ops
    (answer :: answers, last)

@[simp] theorem perform_nil (state : α) : perform act state [] = ([], state) := rfl

@[simp] theorem perform_cons (state : α) (op : CheckedOperation σ)
    (ops : List (CheckedOperation σ)) :
    perform act state (op :: ops) =
      ((act state op).1 :: (perform act (act state op).2 ops).1,
        (perform act (act state op).2 ops).2) := rfl

theorem perform_append (state : α) (ops later : List (CheckedOperation σ)) :
    perform act state (ops ++ later) =
      ((perform act state ops).1 ++ (perform act (perform act state ops).2 later).1,
        (perform act (perform act state ops).2 later).2) := by
  induction ops generalizing state with
  | nil => rfl
  | cons op ops ih => simp [ih]

end

/-! ## One operation -/

namespace DeviceContext
variable {σ : Type} {ctx : DeviceContext σ}

/-- A context keeps what is known after bare work: the session, and a failure if it is
the first fatal one. -/
def settle (ctx : DeviceContext σ) (done : Answer × Session σ) : Answer × DeviceContext σ :=
  match done.1 with
  | .ok () => (.ok (), ctx.resume done.2)
  | .error failure => (.error failure, (ctx.resume done.2).record failure)

/-- The context checks a status as it is checked on the bare runtime. -/
theorem checkAt_eq_settle (ctx : DeviceContext σ) (status : Status) (site : CallSite) :
    ctx.checkAt status site = ctx.settle (ctx.session.checkStatus ctx.runtime status site) := by
  unfold checkAt Session.checkStatus
  rcases ctx.session.judge ctx.runtime status with ⟨verdict, s⟩
  cases verdict <;> rfl

theorem guarded_of_usable (h : ctx.poison? = none)
    (work : DeviceContext σ → Answer × DeviceContext σ) : ctx.guarded work = work ctx := by
  simp [guarded, ensureUsable, h]

/-- A poisoned context refuses work with its first fatal failure, and stays as it is. -/
theorem guarded_of_poisoned {e : DeviceError} (h : ctx.poison? = some e)
    (work : DeviceContext σ → Answer × DeviceContext σ) :
    ctx.guarded work = (.error (.fatalDevice e), ctx) := by
  simp [guarded, ensureUsable, h]

/-- A context that is not poisoned does what is done on the bare runtime. -/
theorem onContext_of_usable (h : ctx.poison? = none) (op : CheckedOperation σ) :
    op.onContext ctx = ctx.settle (op.onRuntime ctx.runtime ctx.mode ctx.session) := by
  cases op with
  | call issue site =>
    simp only [CheckedOperation.onContext, call, guarded_of_usable h]
    exact checkAt_eq_settle _ _ _
  | check status site =>
    simp only [CheckedOperation.onContext, check, guarded_of_usable h]
    exact checkAt_eq_settle ctx status site
  | sync stream site =>
    simp only [CheckedOperation.onContext, CheckedOperation.onRuntime, sync, guarded_of_usable h]
    rcases ctx.session.checkStream ctx.runtime stream ctx.mode site with ⟨answer, s⟩
    cases answer <;> rfl

theorem onContext_of_poisoned {e : DeviceError} (h : ctx.poison? = some e)
    (op : CheckedOperation σ) : op.onContext ctx = (.error (.fatalDevice e), ctx) := by
  cases op with
  | call issue site => rw [CheckedOperation.onContext, call, guarded_of_poisoned h]
  | check status site => rw [CheckedOperation.onContext, check, guarded_of_poisoned h]
  | sync stream site => rw [CheckedOperation.onContext, sync, guarded_of_poisoned h]

/-- Only a fatal failure is kept. -/
theorem settle_of_not_isFatal {done : Answer × Session σ} (h : ¬done.1.IsFatal) :
    ctx.settle done = (done.1, ctx.resume done.2) := by
  rcases done with ⟨answer, s⟩
  cases answer with
  | ok => rfl
  | error failure =>
    cases failure with
    | precondition | device => rfl
    | fatalDevice e => exact absurd ⟨e, rfl⟩ h

/-- The first fatal failure is kept and logged. -/
theorem settle_of_fatal (hctx : ctx.poison? = none) {e : DeviceError} (s : Session σ) :
    ctx.settle (.error (.fatalDevice e), s) =
      (.error (.fatalDevice e),
        { ctx with poison? := some e, session := s.log (.poisoned e.status) }) := by
  simp [settle, record, resume, hctx]

/-! ## Sequences of operations -/

/-- As long as nothing is fatal, a context does what is done on the bare runtime. -/
theorem perform_of_not_isFatal (ctx : DeviceContext σ) (hctx : ctx.poison? = none)
    (ops : List (CheckedOperation σ))
    (h : ∀ answer ∈ (perform (CheckedOperation.onRuntime ctx.runtime ctx.mode) ctx.session ops).1,
      ¬answer.IsFatal) :
    perform CheckedOperation.onContext ctx ops =
      ((perform (CheckedOperation.onRuntime ctx.runtime ctx.mode) ctx.session ops).1,
        ctx.resume
          (perform (CheckedOperation.onRuntime ctx.runtime ctx.mode) ctx.session ops).2) := by
  induction ops generalizing ctx with
  | nil => rfl
  | cons op ops ih =>
    obtain ⟨hop, hops⟩ := List.forall_mem_cons.1 h
    have hstep : op.onContext ctx = _ :=
      (onContext_of_usable hctx op).trans (settle_of_not_isFatal hop)
    have hrest := ih (ctx.resume (op.onRuntime ctx.runtime ctx.mode ctx.session).2) hctx hops
    rw [perform_cons, hstep, hrest]
    rfl

/-- A poisoned context repeats its failure and stays as it is. -/
theorem perform_of_poisoned {e : DeviceError} (hctx : ctx.poison? = some e)
    (ops : List (CheckedOperation σ)) :
    perform CheckedOperation.onContext ctx ops =
      (List.replicate ops.length (.error (.fatalDevice e)), ctx) := by
  induction ops with
  | nil => rfl
  | cons op ops ih => rw [perform_cons, onContext_of_poisoned hctx, ih]; rfl

end DeviceContext

/-- In a sequence of operations nothing is fatal, or there is a first fatal one. -/
theorem forall_not_isFatal_or_exists_first {σ α : Type} (act : α → CheckedOperation σ → Answer × α)
    (state : α) (ops : List (CheckedOperation σ)) :
    (∀ answer ∈ (perform act state ops).1, ¬answer.IsFatal) ∨
      ∃ before op after e, ops = before ++ op :: after ∧
        (∀ answer ∈ (perform act state before).1, ¬answer.IsFatal) ∧
        (act (perform act state before).2 op).1 = .error (.fatalDevice e) := by
  induction ops generalizing state with
  | nil => simp
  | cons op ops ih =>
    by_cases hop : (act state op).1.IsFatal
    · obtain ⟨e, he⟩ := hop
      exact .inr ⟨[], op, ops, e, rfl, by simp, he⟩
    · rcases ih (act state op).2 with hops | ⟨before, op', after, e, rfl, hbefore, he⟩
      · exact .inl (List.forall_mem_cons.2 ⟨hop, hops⟩)
      · exact .inr ⟨op :: before, op', after, e, rfl, List.forall_mem_cons.2 ⟨hop, hbefore⟩, he⟩

/-! ## Contexts and bare runtimes -/

section
variable {σ : Type} (rt : Runtime σ) (mode : CheckMode) (device : σ)

/-- What operations do on the bare runtime. -/
def performBare (ops : List (CheckedOperation σ)) : List Answer × Session σ :=
  perform (CheckedOperation.onRuntime rt mode) (Session.start device) ops

/-- What operations do on a fresh context. -/
def performGuarded (ops : List (CheckedOperation σ)) : List Answer × DeviceContext σ :=
  perform CheckedOperation.onContext (DeviceContext.fresh rt mode device) ops

/-- After these operations the context has answered and done what the bare runtime has,
and is not poisoned. -/
structure Follows (ops : List (CheckedOperation σ)) : Prop where
  answers : (performGuarded rt mode device ops).1 = (performBare rt mode device ops).1
  /-- The state of the runtime, the requests made and the events logged. -/
  session : (performGuarded rt mode device ops).2.session = (performBare rt mode device ops).2
  usable : (performGuarded rt mode device ops).2.isPoisoned = false

/-- The last of these operations has failed with `e`, and the context has answered all
later ones with that failure without touching the runtime. -/
structure Latched (ops later : List (CheckedOperation σ)) (e : DeviceError) : Prop where
  answers : (performGuarded rt mode device (ops ++ later)).1 =
    (performBare rt mode device ops).1 ++ List.replicate later.length (.error (.fatalDevice e))
  state : (performGuarded rt mode device (ops ++ later)).2.session.device =
    (performBare rt mode device ops).2.device
  requests : (performGuarded rt mode device (ops ++ later)).2.session.requests =
    (performBare rt mode device ops).2.requests
  /-- That the context is poisoned is logged once. -/
  events : (performGuarded rt mode device (ops ++ later)).2.session.events =
    (performBare rt mode device ops).2.events ++ [.poisoned e.status]
  poison : (performGuarded rt mode device (ops ++ later)).2.poison? = some e

variable {rt mode device} {ops : List (CheckedOperation σ)}

theorem performGuarded_of_not_isFatal
    (h : ∀ answer ∈ (performBare rt mode device ops).1, ¬answer.IsFatal) :
    performGuarded rt mode device ops =
      ((performBare rt mode device ops).1,
        (DeviceContext.fresh rt mode device).resume (performBare rt mode device ops).2) :=
  DeviceContext.perform_of_not_isFatal (.fresh rt mode device) rfl ops h

theorem Follows.of_not_isFatal
    (h : ∀ answer ∈ (performBare rt mode device ops).1, ¬answer.IsFatal) :
    Follows rt mode device ops := by
  have hperform := performGuarded_of_not_isFatal h
  constructor <;> rw [hperform] <;> rfl

/-- What was answered to the first operations does not depend on later ones. -/
theorem performBare_mono {earlier : List (CheckedOperation σ)} (h : earlier <+: ops) :
    (performBare rt mode device earlier).1 <+: (performBare rt mode device ops).1 := by
  obtain ⟨later, rfl⟩ := h
  rw [performBare, performBare, perform_append]
  exact List.prefix_append _ _

theorem Latched.of_fatal {op : CheckedOperation σ} {e : DeviceError}
    (h : ∀ answer ∈ (performBare rt mode device ops).1, ¬answer.IsFatal)
    (he : (op.onRuntime rt mode (performBare rt mode device ops).2).1 = .error (.fatalDevice e))
    (later : List (CheckedOperation σ)) : Latched rt mode device (ops ++ [op]) later e := by
  let last := op.onRuntime rt mode (performBare rt mode device ops).2
  have hbare : performBare rt mode device (ops ++ [op]) =
      ((performBare rt mode device ops).1 ++ [.error (.fatalDevice e)], last.2) := by
    rw [performBare, perform_append, ← he]
    rfl
  let poisoned : DeviceContext σ := ⟨rt, mode, some e, last.2.log (.poisoned e.status)⟩
  have hop : op.onContext ((DeviceContext.fresh rt mode device).resume
      (performBare rt mode device ops).2) = (.error (.fatalDevice e), poisoned) := by
    rw [DeviceContext.onContext_of_usable rfl]
    have hlast : last = (.error (.fatalDevice e), last.2) := Prod.ext he rfl
    exact (congrArg _ hlast).trans (DeviceContext.settle_of_fatal rfl last.2)
  have hguarded : performGuarded rt mode device (ops ++ [op] ++ later) =
      ((performBare rt mode device (ops ++ [op])).1 ++
        List.replicate later.length (.error (.fatalDevice e)), poisoned) := by
    rw [List.append_assoc, performGuarded, perform_append]
    have hops := performGuarded_of_not_isFatal h
    rw [performGuarded] at hops
    rw [hops, List.singleton_append, perform_cons, hop,
      DeviceContext.perform_of_poisoned (e := e) rfl, hbare]
    simp
  exact
    { answers := by rw [hguarded]
      state := by rw [hguarded, hbare]; rfl
      requests := by rw [hguarded, hbare]; rfl
      events := by rw [hguarded, hbare]; rfl
      poison := by rw [hguarded] }

end

/-- **A context is checked calls up to the first fatal failure, then a latch.** Whatever
the runtime answers and however operations follow each other: unless an operation is
fatal on the bare runtime, the context follows it all the time. If there is a first fatal
operation, the context follows the bare runtime before it, gives the same failure, and is
latched at it from then on. -/
theorem latches_at_first_fatal {σ : Type} (rt : Runtime σ) (mode : CheckMode) (device : σ)
    (ops : List (CheckedOperation σ)) :
    ((∀ answer ∈ (performBare rt mode device ops).1, ¬answer.IsFatal) ∧
      ∀ earlier, earlier <+: ops → Follows rt mode device earlier) ∨
    ∃ before op after e, ops = before ++ op :: after ∧
      (∀ answer ∈ (performBare rt mode device before).1, ¬answer.IsFatal) ∧
      (op.onRuntime rt mode (performBare rt mode device before).2).1 = .error (.fatalDevice e) ∧
      (∀ earlier, earlier <+: before → Follows rt mode device earlier) ∧
      ∀ later, later <+: after → Latched rt mode device (before ++ [op]) later e := by
  have hfollows (before : List (CheckedOperation σ))
      (h : ∀ answer ∈ (performBare rt mode device before).1, ¬answer.IsFatal) :
      ∀ earlier, earlier <+: before → Follows rt mode device earlier := by
    intro earlier hearlier
    apply Follows.of_not_isFatal
    intro answer hanswer
    exact h answer ((performBare_mono hearlier).mem hanswer)
  rcases forall_not_isFatal_or_exists_first (CheckedOperation.onRuntime rt mode)
    (Session.start device) ops with hops | ⟨before, op, after, e, rfl, hbefore, he⟩
  · exact .inl ⟨hops, hfollows ops hops⟩
  · exact .inr ⟨before, op, after, e, rfl, hbefore, he, hfollows before hbefore,
      fun later _ => .of_fatal hbefore he later⟩

/-- A runtime that keeps its error: the second operation is fatal, and the call after it is
not issued. -/
example :
    let rt : Runtime Status := ⟨fun _ pending => (pending, pending), fun _ => "", fun _ => ""⟩
    let site := CallSite.named "launch"
    let breaks : CheckedOperation Status := .call (fun _ => (719, 719)) site
    let mends : CheckedOperation Status := .call (fun _ => (0, 0)) site
    let last := (performGuarded rt .deferred 0 [.sync 0 site, breaks, mends]).2
    last.poison?.map DeviceError.status = some 719 ∧ last.session.device = 719 := by
  decide

end DeviceRegex
