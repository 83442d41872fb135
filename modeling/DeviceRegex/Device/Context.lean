import DeviceRegex.Device.StatusCheck

/-!
# Device contexts

A context makes checked calls on a runtime until one of them is fatal. From then on it
is poisoned: it answers everything with that first fatal failure and leaves the runtime
alone.
-/
namespace DeviceRegex

/-- A device context. -/
structure DeviceContext (σ : Type) where
  runtime : Runtime σ
  /-- How the context checks streams. -/
  mode : CheckMode
  /-- The failure that poisoned the context. -/
  poison? : Option DeviceError
  session : Session σ

namespace DeviceContext

variable {σ : Type}

/-- A context that has made no call. -/
def fresh (runtime : Runtime σ) (mode : CheckMode) (device : σ) : DeviceContext σ :=
  ⟨runtime, mode, none, Session.start device⟩

/-- The context answers nothing but its first fatal failure. -/
def isPoisoned (ctx : DeviceContext σ) : Bool := ctx.poison?.isSome

/-- A poisoned context refuses work with the failure that poisoned it. -/
def ensureUsable (ctx : DeviceContext σ) : Except Failure Unit :=
  match ctx.poison? with
  | some e => .error (.fatalDevice e)
  | none => .ok ()

/-- The context goes on with a session. -/
def resume (ctx : DeviceContext σ) (session : Session σ) : DeviceContext σ :=
  { ctx with session := session }

/-- Take note of a failure. The first fatal one poisons the context; later ones do not
take its place. -/
def record (ctx : DeviceContext σ) (failure : Failure) : DeviceContext σ :=
  match failure, ctx.poison? with
  | .fatalDevice e, none =>
    { ctx with poison? := some e, session := ctx.session.log (.poisoned e.status) }
  | _, _ => ctx

/-- Find out what a status means, and report and note it unless it is success. -/
def checkAt (ctx : DeviceContext σ) (status : Status) (site : CallSite) :
    Except Failure Unit × DeviceContext σ :=
  match ctx.session.judge ctx.runtime status with
  | (.success, s) => (.ok (), ctx.resume s)
  | (v, s) =>
    let (failure, s) := s.report ctx.runtime status v site
    (.error failure, (ctx.resume s).record failure)

/-- Do work unless the context is poisoned. -/
def guarded (ctx : DeviceContext σ)
    (work : DeviceContext σ → Except Failure Unit × DeviceContext σ) :
    Except Failure Unit × DeviceContext σ :=
  match ctx.ensureUsable with
  | .error failure => (.error failure, ctx)
  | .ok () => work ctx

/-- Issue a call and check its status. -/
def call (ctx : DeviceContext σ) (issue : σ → Status × σ) (site : CallSite) :
    Except Failure Unit × DeviceContext σ :=
  ctx.guarded fun ctx =>
    let (status, s) := ctx.session.issue issue
    (ctx.resume s).checkAt status site

/-- Check the status of a call made elsewhere. -/
def check (ctx : DeviceContext σ) (status : Status) (site : CallSite) :
    Except Failure Unit × DeviceContext σ :=
  ctx.guarded fun ctx => ctx.checkAt status site

/-- Check a stream for errors, and take note of a failure. -/
def sync (ctx : DeviceContext σ) (stream : StreamHandle) (site : CallSite) :
    Except Failure Unit × DeviceContext σ :=
  ctx.guarded fun ctx =>
    match ctx.session.checkStream ctx.runtime stream ctx.mode site with
    | (.ok (), s) => (.ok (), ctx.resume s)
    | (.error failure, s) => (.error failure, (ctx.resume s).record failure)

end DeviceContext
end DeviceRegex
