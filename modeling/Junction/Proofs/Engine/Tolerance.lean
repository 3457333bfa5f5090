import Junction.Proofs.Engine.Attempt
import Junction.Proofs.Engine.CallOrder
import Junction.Proofs.Engine.Omission

/-!
The two policies for changes that fail. `attempt` is a run in which none ends it. Under a policy that goes on every run
is this one, and under the other every run that no change ends (`handle_eq_attempt`).
-/

namespace Junction
open Outcome

/-! ## Runs -/

namespace Run

variable {transport : Transport} {context : Context} {endpoint : Config.Endpoint} {backend : Config.Backend}
  {run : Run}

/-- The snapshot that a backend is sent at a host. -/
def attemptSnapshot (run : Run) (requestId : String) (backend : Config.Backend) (host : String) (request : Request) :
    Snapshot :=
  let draft := (backend.forwarded request).attemptRules (some request) run.response (backend.modifiers.onRequest false)
  .of host (draft.params.fill backend.path) draft.method (draft.header.set Header.requestId requestId) draft.query
    draft.params draft.body

/-- The entry of a reply as the run keeps it: in its shape, or as it came if shaping is put off. -/
def attemptKept (run : Run) (entry : Entry) : Entry :=
  match entry.backend.response.apply with
  | .early => entry.attemptShape run.request (run.response.append entry)
  | .late => entry

/-- What comes of one backend, if no change ends the run: the run that has called it, and its response or why there is
none. -/
def attemptCall (run : Run) (transport : Transport) (requestId : String) (endpoint : Config.Endpoint)
    (backend : Config.Backend) : Run × Except Failure Response :=
  let request := run.request.attemptRules none run.response (backend.modifiers.onRequest true)
  match backend.hosts.getLast? with
  | none => ({ run with request := request }, .error (.noHost backend.name))
  | some host =>
    let snapshot := run.attemptSnapshot requestId backend host request
    let called := run.called request snapshot
    match transport run.calls snapshot.call with
    | .error error => (called, .error error.failure)
    | .ok reply =>
      let entry := called.attemptKept (reply.entry backend)
      (called, .ok (if endpoint.aborts entry.status then run.response.abortWith entry else run.response.append entry))

/-- The run after one backend, no change of which ends it. -/
def attemptBackend (run : Run) (transport : Transport) (requestId : String) (stamp : Failure.Stamp)
    (endpoint : Config.Endpoint) (backend : Config.Backend) : Run :=
  match run.attemptCall transport requestId endpoint backend with
  | (called, .error failure) => { called with response := called.response.fail stamp endpoint.path failure }
  | (called, .ok response) => { called with response := response }

/-- The run after backends, one after another until its response is terminal. -/
def attemptBackends (transport : Transport) (requestId : String) (stamp : Failure.Stamp) (endpoint : Config.Endpoint) :
    List Config.Backend → Run → Run
  | [], run => run
  | next :: rest, run =>
    let run := run.attemptBackend transport requestId stamp endpoint next
    if run.response.isTerminal then run else attemptBackends transport requestId stamp endpoint rest run

/-- The run tells of a change that has ended it. -/
def EndsWithChange (run : Run) (policy : Change.Policy) : Prop :=
  ∃ failure, IsChange policy failure ∧ run.response.failure? = some failure ∧ run.response.isTerminal = true

theorem fail_endsWithChange {failure : Failure} (going : run.response.isTerminal = false)
    (change : IsChange context.policy failure) : (run.fail context endpoint failure).EndsWithChange context.policy :=
  ⟨failure, change, Response.failure_fail going .., Response.isTerminal_fail ..⟩

theorem snapshot_error {request : Request} {response : Response} {failure : Failure}
    (failed : backend.snapshot context request response = .error failure) :
    (backend.hosts.getLast? = none ∧ failure = .noHost backend.name) ∨ IsChange context.policy failure := by
  unfold Config.Backend.snapshot at failed
  split at failed
  · rename_i none
    cases failed
    exact .inl ⟨none, rfl⟩
  · split at failed
    · rename_i left refused
      cases failed
      exact .inr (Request.applyRules_error refused).2
    · cases failed

theorem eq_attemptSnapshot {request : Request} {snapshot : Snapshot}
    (taken : backend.snapshot context request run.response = .ok snapshot) :
    ∃ host, backend.hosts.getLast? = some host ∧ snapshot = run.attemptSnapshot context.requestId backend host request := by
  unfold Config.Backend.snapshot at taken
  split at taken
  · cases taken
  · rename_i host last
    split at taken
    · cases taken
    · rename_i draft drafted
      cases taken
      refine ⟨host, last, ?_⟩
      rw [Request.eq_attemptRules drafted]
      rfl

theorem eq_attemptKept {entry changed : Entry} (kept : run.kept context entry = .ok changed) :
    changed = run.attemptKept entry := by
  cases moment : entry.backend.response.apply with
  | early =>
    simp only [Run.kept, moment] at kept
    simp only [attemptKept, moment]
    exact Entry.eq_attemptShape kept
  | late =>
    simp only [Run.kept, moment, Except.ok.injEq] at kept
    simp only [attemptKept, moment]
    exact kept.symm

/-- A backend leaves the run as if no change could end it, or a change ends it. -/
theorem backend_eq_attemptBackend (going : run.response.isTerminal = false) (transport : Transport) (context : Context)
    (endpoint : Config.Endpoint) (backend : Config.Backend) :
    run.backend transport context endpoint backend =
        run.attemptBackend transport context.requestId context.stamp endpoint backend ∨
      (run.backend transport context endpoint backend).EndsWithChange context.policy := by
  have step : Step transport context endpoint backend run (run.backend transport context endpoint backend) := step_backend
  -- Of the five ways only those that fail at a change part from the attempt; a missing host fails in both.
  generalize run.backend transport context endpoint backend = after at step
  cases step with
  | @withheld request failure withholds =>
    have going' : ({ run with request := request } : Run).response.isTerminal = false := going
    cases withholds with
    | propagating failed => exact .inr (fail_endsWithChange going' (Request.applyRules_error failed).2)
    | sending propagated failed =>
      rcases snapshot_error failed with ⟨none, rfl⟩ | change
      · left
        simp only [attemptBackend, attemptCall, none, ← Request.eq_attemptRules propagated]
        rfl
      · exact .inr (fail_endsWithChange going' change)
  | @unanswered request snapshot error sends failed =>
    left
    obtain ⟨host, last, same⟩ := eq_attemptSnapshot sends.taken
    simp only [attemptBackend, attemptCall, last, ← Request.eq_attemptRules sends.propagated, ← same, failed]
    rfl
  | @unshaped request snapshot reply failure sends replied failed =>
    have going' : (run.called request snapshot).response.isTerminal = false := going
    exact .inr (fail_endsWithChange going' (kept_error failed).2)
  | @aborting request snapshot reply entry sends replied kept aborts =>
    left
    obtain ⟨host, last, same⟩ := eq_attemptSnapshot sends.taken
    simp only [attemptBackend, attemptCall, last, ← Request.eq_attemptRules sends.propagated, ← same, replied,
      ← eq_attemptKept kept, aborts, if_true]
  | @answered request snapshot reply entry sends replied kept goesOn =>
    left
    obtain ⟨host, last, same⟩ := eq_attemptSnapshot sends.taken
    simp only [attemptBackend, attemptCall, last, ← Request.eq_attemptRules sends.propagated, ← same, replied,
      ← eq_attemptKept kept, goesOn, Bool.false_eq_true, if_false]

theorem backends_eq_attemptBackends (going : run.response.isTerminal = false) (transport : Transport) (context : Context)
    (endpoint : Config.Endpoint) (stages : List Config.Backend) :
    backends transport context endpoint stages run =
        attemptBackends transport context.requestId context.stamp endpoint stages run ∨
      (backends transport context endpoint stages run).EndsWithChange context.policy := by
  induction stages generalizing run with
  | nil => exact .inl rfl
  | cons next rest ih =>
    simp only [backends, attemptBackends]
    rcases backend_eq_attemptBackend going transport context endpoint next with same | change
    · rw [← same]
      cases stopped : (run.backend transport context endpoint next).response.isTerminal with
      | true => exact .inl rfl
      | false =>
        simp only [Bool.false_eq_true, if_false]
        exact ih stopped
    · right
      obtain ⟨failure, failed, told, ended⟩ := change
      rw [if_pos ended]
      exact ⟨failure, failed, told, ended⟩

end Run

/-! ## Time -/

/-- The response with another stamp on the body of its failure, if it tells of one. -/
def Response.restamped (stamp : Failure.Stamp) (endpoint : String) (response : Response) : Response :=
  match response.failure? with
  | some failure => { response with body := some (failure.body stamp endpoint) }
  | none => response

/-- The run with another stamp on the body of its failure, if it tells of one. -/
def Run.restamped (stamp : Failure.Stamp) (endpoint : Config.Endpoint) (run : Run) : Run :=
  { run with response := run.response.restamped stamp endpoint.path }

namespace Response

variable {response : Response} {stamp stamp' : Failure.Stamp} {path : String}

theorem restamped_of_sound (sound : response.failure? = none) : response.restamped stamp path = response := by
  rw [restamped, sound]

theorem restamped_fail (going : response.isTerminal = false) (failure : Failure) :
    (response.fail stamp path failure).restamped stamp' path = response.fail stamp' path failure := by
  rw [restamped, failure_fail going]
  simp [fail, unwritten_of_going going]

@[simp] theorem isTerminal_restamped (response : Response) :
    (response.restamped stamp path).isTerminal = response.isTerminal := by
  unfold restamped
  split
  · rfl
  · rfl

end Response

namespace Run

variable {transport : Transport} {requestId : String} {endpoint : Config.Endpoint} {backend : Config.Backend}
  {run : Run}

theorem attemptCall_response (run : Run) (transport : Transport) (requestId : String) (endpoint : Config.Endpoint)
    (backend : Config.Backend) : (run.attemptCall transport requestId endpoint backend).1.response = run.response := by
  unfold attemptCall
  dsimp only
  split
  · rfl
  · split
    · rfl
    · rfl

/-- What still ends a run is the lack of a host or of a reply. -/
theorem ne_change_of_attemptCall {failure : Failure}
    (failed : (run.attemptCall transport requestId endpoint backend).2 = .error failure) (cause : BodyError) :
    failure ≠ .change cause := by
  unfold attemptCall at failed
  dsimp only at failed
  split at failed
  · cases failed
    intro same
    cases same
  · split at failed
    · rename_i error _
      cases failed
      intro same
      cases error <;> cases same
    · cases failed

theorem failure_of_attemptCall {response : Response}
    (answered : (run.attemptCall transport requestId endpoint backend).2 = .ok response) :
    response.failure? = run.response.failure? := by
  unfold attemptCall at answered
  dsimp only at answered
  split at answered
  · cases answered
  · split at answered
    · cases answered
    · cases answered
      split
      · exact Response.failure_abortWith ..
      · exact Response.failure_append ..

/-- A run that no change has ended; with other stamps it has another one on the body of its failure alone. -/
structure Unended (run restamped : Run) (stamp : Failure.Stamp) (endpoint : Config.Endpoint) : Prop where
  sound : run.response.isTerminal = false → run.response.failure? = none
  unchanged : ∀ cause, run.response.failure? ≠ some (.change cause)
  restamped : restamped = run.restamped stamp endpoint

theorem unended_of_sound (sound : run.response.failure? = none) (stamp : Failure.Stamp) (endpoint : Config.Endpoint) :
    run.Unended run stamp endpoint := by
  refine ⟨fun _ => sound, ?_, ?_⟩
  · intro cause told
    cases sound.symm.trans told
  · rw [Run.restamped, Response.restamped_of_sound sound]

theorem attemptBackend_unended (going : run.response.isTerminal = false) (sound : run.response.failure? = none)
    (transport : Transport) (requestId : String) (stamp stamp' : Failure.Stamp) (endpoint : Config.Endpoint)
    (backend : Config.Backend) :
    (run.attemptBackend transport requestId stamp endpoint backend).Unended
      (run.attemptBackend transport requestId stamp' endpoint backend) stamp' endpoint := by
  have responses := attemptCall_response run transport requestId endpoint backend
  unfold attemptBackend
  cases outcome : run.attemptCall transport requestId endpoint backend with
  | mk called result =>
    rw [outcome] at responses
    cases result with
    | error failure =>
      have kind := ne_change_of_attemptCall (congrArg Prod.snd outcome)
      have going' : called.response.isTerminal = false := by rw [responses]; exact going
      refine ⟨?_, ?_, ?_⟩
      · intro goes
        cases goes.symm.trans (Response.isTerminal_fail ..)
      · intro cause told
        have same := (Response.failure_fail going' stamp endpoint.path failure).symm.trans told
        exact kind cause (Option.some.inj same)
      · simp only [Run.restamped, Response.restamped_fail going']
    | ok response =>
      have kept : response.failure? = none := (failure_of_attemptCall (congrArg Prod.snd outcome)).trans sound
      exact unended_of_sound kept stamp' endpoint

theorem attemptBackends_unended (going : run.response.isTerminal = false) (sound : run.response.failure? = none)
    (transport : Transport) (requestId : String) (stamp stamp' : Failure.Stamp) (endpoint : Config.Endpoint)
    (stages : List Config.Backend) :
    (attemptBackends transport requestId stamp endpoint stages run).Unended
      (attemptBackends transport requestId stamp' endpoint stages run) stamp' endpoint := by
  induction stages generalizing run with
  | nil => exact unended_of_sound sound stamp' endpoint
  | cons next rest ih =>
    have step := attemptBackend_unended going sound transport requestId stamp stamp' endpoint next
    simp only [attemptBackends, step.restamped]
    cases stopped : (run.attemptBackend transport requestId stamp endpoint next).response.isTerminal with
    | true =>
      -- Both runs are over here, and the stamp is all that they may differ in.
      simp only [restamped, Response.isTerminal_restamped, stopped, if_true]
      exact ⟨step.sound, step.unchanged, rfl⟩
    | false =>
      -- A run that goes on tells of no failure, so that there is no stamp in it yet.
      have kept := step.sound stopped
      rw [Run.restamped, Response.restamped_of_sound kept, stopped]
      exact ih stopped kept

end Run

open Run

/-- The run of an endpoint on a request, with its final response, no change of which ends it. -/
def Config.Gateway.attempt (gateway : Gateway) (transport : Transport) (requestId : String) (stamp : Failure.Stamp)
    (endpoint : Endpoint) (request : Request) : Run :=
  let run := attemptBackends transport requestId stamp endpoint (gateway.stages endpoint) { request := request }
  { run with response := run.response.attemptWrite stamp endpoint run.request }

namespace Response

variable {response : Response}

theorem attemptWrite_restamped (sound : response.isTerminal = false → response.failure? = none)
    (stamp stamp' : Failure.Stamp) (endpoint : Config.Endpoint) (request : Request) :
    (response.restamped stamp' endpoint.path).attemptWrite stamp' endpoint request =
      (response.attemptWrite stamp endpoint request).restamped stamp' endpoint.path := by
  cases going : response.isTerminal with
  | true => rw [attemptWrite, attemptWrite, isTerminal_restamped, if_pos going, if_pos going]
  | false =>
    have kept := sound going
    have going' : (response.mapEntries (Entry.attemptShape request response)).isTerminal = false := going
    rw [restamped_of_sound kept]
    simp only [attemptWrite, going, Bool.false_eq_true, if_false]
    split
    · exact (restamped_fail going' .respondedNothing).symm
    · refine (restamped_of_sound ?_).symm
      rw [failure_finish]
      exact kept

theorem ne_change_of_attemptWrite (sound : response.isTerminal = false → response.failure? = none)
    (unchanged : ∀ cause, response.failure? ≠ some (.change cause)) (stamp : Failure.Stamp)
    (endpoint : Config.Endpoint) (request : Request) (cause : BodyError) :
    (response.attemptWrite stamp endpoint request).failure? ≠ some (.change cause) := by
  cases going : response.isTerminal with
  | true =>
    rw [attemptWrite, if_pos going]
    exact unchanged cause
  | false =>
    have going' : (response.mapEntries (Entry.attemptShape request response)).isTerminal = false := going
    simp only [attemptWrite, going, Bool.false_eq_true, if_false]
    split
    · rw [failure_fail going']
      intro same
      cases same
    · rw [failure_finish]
      change response.failure? ≠ _
      rw [sound going]
      intro same
      cases same

end Response

/-- The same context under a policy. -/
def Context.under (context : Context) (policy : Change.Policy) : Context := { context with policy := policy }

namespace Config.Gateway

/-- Every run is one that no change ends, or tells of the change that has ended it. -/
theorem handle_eq_attempt (gateway : Gateway) (transport : Transport) (context : Context) (endpoint : Endpoint)
    (request : Request) :
    gateway.handle transport context endpoint request =
        gateway.attempt transport context.requestId context.stamp endpoint request ∨
      ∃ failure, IsChange context.policy failure ∧
        (gateway.handle transport context endpoint request).response.failure? = some failure := by
  have fresh : ({ request := request } : Run).response.isTerminal = false := rfl
  simp only [handle, attempt, Gateway.run]
  rcases backends_eq_attemptBackends fresh transport context endpoint (gateway.stages endpoint) with same | ⟨failure, change, told, ended⟩
  · rw [← same]
    rcases Response.write_eq_attemptWrite context endpoint
      (Run.backends transport context endpoint (gateway.stages endpoint) { request := request }).request
      (Run.backends transport context endpoint (gateway.stages endpoint) { request := request }).response with
      written | changed
    · left
      rw [← written]
    · exact .inr changed
  · right
    rw [Response.write_terminal ended]
    exact ⟨failure, change, told⟩

theorem ne_change_of_attempt (gateway : Gateway) (transport : Transport) (requestId : String) (stamp : Failure.Stamp)
    (endpoint : Endpoint) (request : Request) (cause : BodyError) :
    (gateway.attempt transport requestId stamp endpoint request).response.failure? ≠ some (.change cause) := by
  have fresh : ({ request := request } : Run).response.isTerminal = false := rfl
  have run := attemptBackends_unended fresh rfl transport requestId stamp stamp endpoint (gateway.stages endpoint)
  exact Response.ne_change_of_attemptWrite run.sound run.unchanged stamp endpoint _ cause

theorem attempt_restamped (gateway : Gateway) (transport : Transport) (requestId : String) (stamp stamp' : Failure.Stamp)
    (endpoint : Endpoint) (request : Request) :
    gateway.attempt transport requestId stamp' endpoint request =
      (gateway.attempt transport requestId stamp endpoint request).restamped stamp' endpoint := by
  have fresh : ({ request := request } : Run).response.isTerminal = false := rfl
  have run := attemptBackends_unended fresh rfl transport requestId stamp stamp' endpoint (gateway.stages endpoint)
  simp only [attempt, run.restamped, restamped, Response.attemptWrite_restamped run.sound stamp stamp']

/-- Policies differ only in what they make of a change that fails. Where none ends the strict run, the lenient one makes
the same calls and leaves the same request and the same response, but for the time that an error body tells. No change
ends the lenient run: each is tried on what those before it have left, and passed over where it fails. -/
theorem handle_policies (gateway : Gateway) (transport : Transport) (context : Context) (endpoint : Endpoint)
    (request : Request) (time : String) :
    let strict := gateway.handle transport (context.under .failClosed) endpoint request
    let lenient := gateway.handle transport ((context.under .failOpen).atTime time) endpoint request
    ((∀ cause, strict.response.failure? ≠ some (.change cause)) →
        lenient.calls = strict.calls ∧ lenient.request = strict.request ∧
          lenient.response = strict.response.restamped (context.atTime time).stamp endpoint.path) ∧
      (∀ cause, lenient.response.failure? ≠ some (.change cause)) ∧
      lenient = gateway.attempt transport context.requestId (context.atTime time).stamp endpoint request := by
  intro strict lenient
  have goesOn : lenient = gateway.attempt transport context.requestId (context.atTime time).stamp endpoint request := by
    rcases handle_eq_attempt gateway transport ((context.under .failOpen).atTime time) endpoint request with
      same | ⟨failure, ⟨closed, _⟩, _⟩
    · exact same
    · cases closed
  refine ⟨?_, ?_, goesOn⟩
  · intro unchanged
    have unended : strict = gateway.attempt transport context.requestId context.stamp endpoint request := by
      rcases handle_eq_attempt gateway transport (context.under .failClosed) endpoint request with
        same | ⟨failure, ⟨_, cause, rfl⟩, told⟩
      · exact same
      · exact absurd told (unchanged cause)
    have retimed : lenient = strict.restamped (context.atTime time).stamp endpoint := by
      rw [goesOn, unended]
      exact attempt_restamped ..
    rw [retimed]
    exact ⟨rfl, rfl, rfl⟩
  · intro cause
    rw [goesOn]
    exact ne_change_of_attempt gateway transport _ _ endpoint request cause

/-- A reply whose body the rule of `ruledEndpoint` can change. -/
def plainReply : Reply := ⟨200, Header.empty.set Header.contentType "application/json", "\x7b\x7d".toUTF8⟩

theorem handle_policies_plain :
    (({} : Gateway).handle (fun _ _ => .ok plainReply) ((strictContext.under .failOpen).atTime "later") ruledEndpoint
        {}).calls =
      (({} : Gateway).handle (fun _ _ => .ok plainReply) (strictContext.under .failClosed) ruledEndpoint {}).calls := by
  have sound : (({} : Gateway).handle (fun _ _ => .ok plainReply) (strictContext.under .failClosed) ruledEndpoint
      {}).response.failure? = none := by decide +kernel
  refine ((handle_policies {} (fun _ _ => .ok plainReply) strictContext ruledEndpoint {} "later").1 ?_).1
  intro cause told
  cases sound.symm.trans told

end Config.Gateway
end Junction
