import DeviceRegex.Device.StatusCheck

/-!
# Failing statuses are checked twice

What is asked of a runtime depends on its own answers. A check is described by its
transcript, which has every request made together with its answer: an error counts as
fatal only if it is pending again after it was cleared, and waiting for the device
reports it as well.

## Main definitions

* `Transcript` — requests in their order, with their answers.
* `Session.Exchanges rt s t s'` — the session goes from `s` to `s'` by exactly the
  requests of `t`, answered by the runtime as `t` says.
* `Judged`, `StatusChecked`, `Observes` — the transcripts of the checks.
-/
namespace DeviceRegex

/-- Requests in the order in which they are made, with their answers. -/
abbrev Transcript := List (Request × Status)

/-- The first answer that is not success, or success if there is none. -/
def Transcript.firstFailure (t : Transcript) : Status :=
  ((t.map Prod.snd).find? (· ≠ 0)).getD 0

/-- What a runtime answers to requests one after the other, and its state after them. -/
def Runtime.answers {σ : Type} (rt : Runtime σ) (device : σ) : List Request → Transcript × σ
  | [] => ([], device)
  | r :: rs =>
    let (t, last) := answers rt (rt.answer r device).2 rs
    ((r, (rt.answer r device).1) :: t, last)

theorem Runtime.answers_append {σ : Type} (rt : Runtime σ) (device : σ) (rs rs' : List Request) :
    rt.answers device (rs ++ rs') =
      ((rt.answers device rs).1 ++ (rt.answers (rt.answers device rs).2 rs').1,
        (rt.answers (rt.answers device rs).2 rs').2) := by
  induction rs generalizing device with
  | nil => rfl
  | cons r rs ih => simp [answers, ih]

/-! ## Sessions -/

/-- Between the two sessions exactly the requests of the transcript were made, and the
runtime gave its answers to them. -/
structure Session.Exchanges {σ : Type} (rt : Runtime σ) (s : Session σ) (t : Transcript)
    (s' : Session σ) : Prop where
  requests : s'.requests = s.requests ++ t.map Prod.fst
  answers : rt.answers s.device (t.map Prod.fst) = (t, s'.device)

namespace Session.Exchanges
variable {σ : Type} {rt : Runtime σ} {s s' s'' : Session σ} {t t' : Transcript}

theorem refl (rt : Runtime σ) (s : Session σ) : s.Exchanges rt [] s := ⟨by simp, rfl⟩

theorem ask (rt : Runtime σ) (s : Session σ) (r : Request) :
    s.Exchanges rt [(r, (s.ask rt r).1)] (s.ask rt r).2 := ⟨rfl, rfl⟩

/-- Logging an event asks nothing. -/
theorem log (h : s.Exchanges rt t s') (e : Event) : s.Exchanges rt t (s'.log e) :=
  ⟨h.requests, h.answers⟩

theorem trans (h : s.Exchanges rt t s') (h' : s'.Exchanges rt t' s'') :
    s.Exchanges rt (t ++ t') s'' := by
  constructor
  · rw [h'.requests, h.requests, List.map_append, List.append_assoc]
  · rw [List.map_append, Runtime.answers_append, h.answers]
    simp only
    rw [h'.answers]

end Session.Exchanges

/-! ## Verdicts -/

/-- What is asked to find out what a status means, and the verdict. -/
inductive Judged (status : Status) : Transcript → Verdict → Prop where
  /-- Success is taken as it is. -/
  | success (h : status = 0) : Judged status [] .success
  /-- After it was cleared, the error is not pending again. -/
  | cleared {drained last : Status} (h : status ≠ 0) (hlast : last ≠ status) :
      Judged status [(.lastError, drained), (.lastError, last)] .recoverable
  /-- The error is pending again, but waiting for the device does not report it. -/
  | passed {drained waited : Status} (h : status ≠ 0) (hwaited : waited ≠ status) :
      Judged status [(.lastError, drained), (.lastError, status), (.synchronizeDevice, waited)]
        .recoverable
  /-- The error is pending again, and waiting for the device reports it as well. -/
  | lost {drained : Status} (h : status ≠ 0) :
      Judged status [(.lastError, drained), (.lastError, status), (.synchronizeDevice, status)]
        .fatal

section
variable {status : Status} {t : Transcript} {v : Verdict}

theorem Judged.success_iff (h : Judged status t v) : v = .success ↔ status = 0 := by
  cases h with
  | success h => simp [h]
  | cleared h | passed h | lost h => simp [h]

theorem Judged.silent_iff (h : Judged status t v) : t = [] ↔ status = 0 := by
  cases h with
  | success h => simp [h]
  | cleared h | passed h | lost h => simp [h]

end

/-- The verdict on a status follows the double check, whatever the runtime answers. -/
theorem Session.exists_judged {σ : Type} (rt : Runtime σ) (s : Session σ) (status : Status) :
    ∃ t, s.Exchanges rt t (s.judge rt status).2 ∧ Judged status t (s.judge rt status).1 := by
  by_cases hstatus : status = 0
  · simp only [judge, if_pos hstatus]
    exact ⟨[], .refl rt s, .success hstatus⟩
  let cleared := (s.ask rt .lastError).2
  let last := (cleared.ask rt .lastError).1
  let read := (cleared.ask rt .lastError).2.log (.drained status last)
  have hread : s.Exchanges rt [(.lastError, (s.ask rt .lastError).1), (.lastError, last)] read :=
    (Exchanges.ask rt s .lastError).trans ((Exchanges.ask rt cleared .lastError).log _)
  by_cases hlast : last = status
  · have hwait := hread.trans (Exchanges.ask rt read .synchronizeDevice)
    have hjudge : s.judge rt status =
        (if (read.ask rt .synchronizeDevice).1 = status then .fatal else .recoverable,
          (read.ask rt .synchronizeDevice).2) := by
      simp only [judge, if_neg hstatus]
      exact if_pos hlast
    rw [hjudge]
    rw [hlast] at hwait
    refine ⟨_, hwait, ?_⟩
    by_cases hwaited : (read.ask rt .synchronizeDevice).1 = status
    · rw [if_pos hwaited, hwaited]
      exact .lost hstatus
    · rw [if_neg hwaited]
      exact .passed hstatus hwaited
  · have hjudge : s.judge rt status = (.recoverable, read) := by
      simp only [judge, if_neg hstatus]
      exact if_neg hlast
    rw [hjudge]
    exact ⟨_, hread, .cleared hstatus hlast⟩

/-! ## Checks of a status -/

/-- The failure names the status and the call site, in the words of the runtime. -/
structure Failure.Reports {σ : Type} (rt : Runtime σ) (status : Status) (site : CallSite)
    (f : Failure) : Prop where
  status_eq : f.status? = some status
  site_eq : f.site = site
  message_eq : f.message = (if f.isFatal then "Fatal " else "") ++
    "Device error encountered at: " ++ site.text ++ ": " ++ toString status.toInt ++ " " ++
    rt.name status ++ " " ++ rt.description status

/-- What the check of a status asks, and its answer. -/
inductive StatusChecked {σ : Type} (rt : Runtime σ) (status : Status) (site : CallSite) :
    Transcript → Except Failure Unit → Prop where
  | ok {t : Transcript} (h : Judged status t .success) : StatusChecked rt status site t (.ok ())
  | error {t : Transcript} {v : Verdict} {f : Failure} (h : Judged status t v)
      (hv : v ≠ .success) (hfatal : f.isFatal ↔ v = .fatal) (hreports : f.Reports rt status site) :
      StatusChecked rt status site t (.error f)

section
variable {σ : Type} {rt : Runtime σ} {status : Status} {site : CallSite} {t : Transcript}
  {answer : Except Failure Unit}

/-- Success passes, and nothing else does. -/
theorem StatusChecked.ok_iff (h : StatusChecked rt status site t answer) :
    answer = .ok () ↔ status = 0 := by
  cases h with
  | ok h => simp [h.success_iff.1 rfl]
  | error h hv => simp [mt h.success_iff.2 hv]

/-- Success is checked without any request, and nothing else is. -/
theorem StatusChecked.silent_iff (h : StatusChecked rt status site t answer) :
    t = [] ↔ status = 0 := by
  cases h with
  | ok h => exact h.silent_iff
  | error h => exact h.silent_iff

end

namespace Session
variable {σ : Type} (rt : Runtime σ) (s : Session σ) (status : Status) (site : CallSite)

/-- A failure is reported in the words of the runtime, and as fatal only if it is. -/
theorem report_reports (v : Verdict) :
    (s.report rt status v site).1.Reports rt status site ∧
      ((s.report rt status v site).1.isFatal ↔ v = .fatal) := by
  have hdevice : (Failure.device ⟨status, deviceMessage rt status site, site⟩).Reports rt status
      site := by
    refine ⟨rfl, rfl, ?_⟩
    change deviceMessage rt status site = _
    rw [Failure.isFatal, if_neg Bool.false_ne_true, String.empty_append]
    unfold deviceMessage
    with_reducible rfl
  have hlost : (Failure.fatalDevice ⟨status, "Fatal " ++ deviceMessage rt status site,
      site⟩).Reports rt status site := by
    refine ⟨rfl, rfl, ?_⟩
    change "Fatal " ++ deviceMessage rt status site = _
    unfold deviceMessage
    simp only [Failure.isFatal, if_true, String.append_assoc]
  cases v with
  | success => exact ⟨hdevice, by simp [report, Failure.isFatal]⟩
  | recoverable => exact ⟨hdevice, by simp [report, Failure.isFatal]⟩
  | fatal => exact ⟨hlost, by simp [report, Failure.isFatal]⟩

/-- Making a failure asks nothing. -/
theorem Exchanges.report {s₀ : Session σ} {t : Transcript} (h : s₀.Exchanges rt t s)
    (v : Verdict) : s₀.Exchanges rt t (s.report rt status v site).2 := by
  cases v <;> exact h.log _

/-- The answer to the check of a status is the verdict of the double check. -/
theorem exists_statusChecked :
    ∃ t, s.Exchanges rt t (s.checkStatus rt status site).2 ∧
      StatusChecked rt status site t (s.checkStatus rt status site).1 := by
  obtain ⟨t, hexchanges, hjudged⟩ := s.exists_judged rt status
  unfold checkStatus
  generalize s.judge rt status = judged at hexchanges hjudged
  obtain ⟨v, s'⟩ := judged
  obtain ⟨hreports, hfatal⟩ := s'.report_reports rt status site v
  cases v with
  | success => exact ⟨t, hexchanges, .ok hjudged⟩
  | recoverable => exact ⟨t, hexchanges.report .., .error hjudged (by simp) hfatal hreports⟩
  | fatal => exact ⟨t, hexchanges.report .., .error hjudged (by simp) hfatal hreports⟩

end Session

/-! ## Checks of a stream -/

/-- The requests by which the check of a stream looks for a failing status. -/
inductive Observes (stream : StreamHandle) : CheckMode → Transcript → Prop where
  /-- Waiting for the stream fails, and the pending error is not looked at. -/
  | waitFailed {waited : Status} (h : waited ≠ 0) :
      Observes stream .synchronous [(.synchronizeStream stream, waited)]
  | waitPassed {pending : Status} :
      Observes stream .synchronous [(.synchronizeStream stream, 0), (.peekError, pending)]
  | pendingOnly {pending : Status} : Observes stream .deferred [(.peekError, pending)]

namespace Transcript

@[simp] theorem firstFailure_cons_zero (r : Request) (t : Transcript) :
    firstFailure ((r, 0) :: t) = firstFailure t := by
  simp [firstFailure]

@[simp] theorem firstFailure_singleton (r : Request) (status : Status) :
    firstFailure [(r, status)] = status := by
  by_cases h : status = 0 <;> simp [firstFailure, h]

/-- There is no first failure exactly if all answers are success. -/
theorem firstFailure_eq_zero_iff (t : Transcript) :
    t.firstFailure = 0 ↔ ∀ x ∈ t, x.2 = 0 := by
  induction t with
  | nil => simp [firstFailure]
  | cons x t ih =>
    obtain ⟨r, status⟩ := x
    by_cases h : status = 0
    · simp [h, ih]
    · simp [firstFailure, h]

end Transcript

namespace Session
variable {σ : Type} (rt : Runtime σ) (s : Session σ) (site : CallSite)

theorem exists_checkPending :
    ∃ pending t, s.Exchanges rt ((.peekError, pending) :: t) (s.checkPending rt site).2 ∧
      StatusChecked rt pending site t (s.checkPending rt site).1 := by
  obtain ⟨t, hexchanges, hchecked⟩ :=
    (s.ask rt .peekError).2.exists_statusChecked rt (s.ask rt .peekError).1 site
  exact ⟨_, t, (Exchanges.ask rt s .peekError).trans hexchanges, hchecked⟩

/-- The check of a stream is the check of the first failing status that it observes. -/
theorem exists_observes (stream : StreamHandle) (mode : CheckMode) :
    ∃ observed t, Observes stream mode observed ∧
      s.Exchanges rt (observed ++ t) (s.checkStream rt stream mode site).2 ∧
      StatusChecked rt observed.firstFailure site t (s.checkStream rt stream mode site).1 := by
  cases mode with
  | deferred =>
    obtain ⟨pending, t, hexchanges, hchecked⟩ := s.exists_checkPending rt site
    refine ⟨[(.peekError, pending)], t, .pendingOnly, hexchanges, ?_⟩
    rw [Transcript.firstFailure_singleton]
    exact hchecked
  | synchronous =>
    let s₁ := (s.ask rt (.synchronizeStream stream)).2
    let waited := (s.ask rt (.synchronizeStream stream)).1
    have hwait : s.Exchanges rt [(.synchronizeStream stream, waited)] s₁ := .ask rt s _
    by_cases hwaited : waited = 0
    · have hpass : s₁.checkStatus rt waited site = (.ok (), s₁) := by
        simp [checkStatus, judge, hwaited]
      have hcheck : s.checkStream rt stream .synchronous site = s₁.checkPending rt site := by
        simp only [checkStream]
        rw [show (s₁.checkStatus rt waited site) = _ from hpass]
      obtain ⟨pending, t, hexchanges, hchecked⟩ := s₁.exists_checkPending rt site
      rw [hwaited] at hwait
      rw [hcheck]
      refine ⟨[(.synchronizeStream stream, 0), (.peekError, pending)], t, .waitPassed,
        hwait.trans hexchanges, ?_⟩
      rw [Transcript.firstFailure_cons_zero, Transcript.firstFailure_singleton]
      exact hchecked
    · obtain ⟨t, hexchanges, hchecked⟩ := s₁.exists_statusChecked rt waited site
      have hcheck : s.checkStream rt stream .synchronous site = s₁.checkStatus rt waited site := by
        obtain ⟨answer, s₂, hdone⟩ :
            ∃ answer s₂, s₁.checkStatus rt waited site = (answer, s₂) := ⟨_, _, rfl⟩
        rw [hdone] at hchecked ⊢
        simp only [checkStream]
        rw [show s₁.checkStatus rt waited site = _ from hdone]
        cases answer with
        | ok => exact absurd (hchecked.ok_iff.1 rfl) hwaited
        | error failure => rfl
      rw [hcheck]
      refine ⟨[(.synchronizeStream stream, waited)], t, .waitFailed hwaited,
        hwait.trans hexchanges, ?_⟩
      rw [Transcript.firstFailure_singleton]
      exact hchecked

end Session

/-- **Failing statuses are checked twice, on every runtime.** A status that is success
passes without any request. For any other one the pending error is read twice, and the
device is waited for only if the second answer is the status again; the failure is fatal
exactly if that answer and the wait both give the status. The check of a stream asks for
the statuses that its mode says, up to the first failing one, and does with that one what
the check of a status does. A failure names the status that was checked. -/
theorem checks_follow_double_check {σ : Type} (rt : Runtime σ) (s : Session σ) (site : CallSite) :
    (∀ status, ∃ t, s.Exchanges rt t (s.judge rt status).2 ∧
      Judged status t (s.judge rt status).1) ∧
    (∀ status, ∃ t, s.Exchanges rt t (s.checkStatus rt status site).2 ∧
      StatusChecked rt status site t (s.checkStatus rt status site).1 ∧
      ((s.checkStatus rt status site).1 = .ok () ↔ status = 0) ∧ (t = [] ↔ status = 0)) ∧
    ∀ stream mode, ∃ observed t, Observes stream mode observed ∧
      s.Exchanges rt (observed ++ t) (s.checkStream rt stream mode site).2 ∧
      StatusChecked rt observed.firstFailure site t (s.checkStream rt stream mode site).1 ∧
      ((s.checkStream rt stream mode site).1 = .ok () ↔ ∀ x ∈ observed, x.2 = 0) ∧
      (t = [] ↔ ∀ x ∈ observed, x.2 = 0) := by
  refine ⟨fun status => s.exists_judged rt status, ?_, ?_⟩
  · intro status
    obtain ⟨t, hexchanges, hchecked⟩ := s.exists_statusChecked rt status site
    exact ⟨t, hexchanges, hchecked, hchecked.ok_iff, hchecked.silent_iff⟩
  · intro stream mode
    obtain ⟨observed, t, hobserves, hexchanges, hchecked⟩ := s.exists_observes rt site stream mode
    refine ⟨observed, t, hobserves, hexchanges, hchecked, ?_, ?_⟩
    · rw [← observed.firstFailure_eq_zero_iff]
      exact hchecked.ok_iff
    · rw [← observed.firstFailure_eq_zero_iff]
      exact hchecked.silent_iff

end DeviceRegex
