import Junction.Engine.Run
import Junction.Proofs.Data.Outcome
import Junction.Proofs.Exchange.Response

/-!
What one backend does to a run. `step_backend` lists the five ways: nothing is sent, the call brings no reply,
the reply cannot be shaped, its status ends the run, or its entry joins the response and the run goes on. What
is said of whole runs comes from this list.
-/

namespace Junction
open Outcome

/-! ## Changes that fail -/

/-- A failure that only a policy which does not go on lets through. -/
def IsChange (policy : Change.Policy) (failure : Failure) : Prop :=
  policy = .failClosed ∧ ∃ cause, failure = .change cause

theorem isChange_of_recovered {α : Type} {policy : Change.Policy} {result : Except BodyError α} {before : α}
    {failure : Failure} (failed : recovered policy result before = .error failure) : IsChange policy failure := by
  cases result with
  | ok value => cases failed
  | error cause =>
    cases policy with
    | failOpen => cases failed
    | failClosed =>
      cases failed
      exact ⟨rfl, cause, rfl⟩

/-- Under a policy that goes on, no change ends a run. -/
theorem recovered_failOpen {α : Type} (result : Except BodyError α) (before : α) :
    ∃ value, recovered .failOpen result before = .ok value := by
  cases result with
  | ok value => exact ⟨value, rfl⟩
  | error cause => exact ⟨before, rfl⟩

namespace Request

variable {policy : Change.Policy} {seen : Option Request} {response : Response} {value : String}
  {rule : Config.Surface × Config.Modifier} {rules : List (Config.Surface × Config.Modifier)}
  {request changed left : Request} {failure : Failure}

theorem applyRule_history (done : request.applyRule policy rule value = .ok changed) :
    changed.history = request.history := by
  obtain ⟨surface, modifier⟩ := rule
  cases surface with
  | header => cases done; rfl
  | query => cases done; rfl
  | params => cases done; rfl
  | body =>
    obtain ⟨body, _, same⟩ := map_eq_ok.mp done
    rw [← same]

theorem applyRule_error (failed : request.applyRule policy rule value = .error failure) :
    IsChange policy failure := by
  obtain ⟨surface, modifier⟩ := rule
  cases surface with
  | header => cases failed
  | query => cases failed
  | params => cases failed
  | body => exact isChange_of_recovered (map_eq_error.mp failed)

/-- Rules leave the history of a request as it is. -/
theorem applyRules_history (done : request.applyRules policy seen response rules = .ok changed) :
    changed.history = request.history := by
  induction rules generalizing request with
  | nil => cases done; rfl
  | cons rule rules ih =>
    simp only [applyRules] at done
    split at done
    · rename_i next applied
      exact (ih done).trans (applyRule_history applied)
    · cases done

theorem applyRules_error (failed : request.applyRules policy seen response rules = .error (left, failure)) :
    left.history = request.history ∧ IsChange policy failure := by
  induction rules generalizing request with
  | nil => cases failed
  | cons rule rules ih =>
    simp only [applyRules] at failed
    split at failed
    · rename_i next applied
      obtain ⟨same, change⟩ := ih failed
      exact ⟨same.trans (applyRule_history applied), change⟩
    · rename_i refused
      cases failed
      exact ⟨rfl, applyRule_error refused⟩

end Request

namespace Entry

variable {policy : Change.Policy} {request : Request} {seen : Response} {value : String}
  {rule : Config.Surface × Config.Modifier} {rules : List (Config.Surface × Config.Modifier)}
  {entry changed : Entry} {failure : Failure}

/-- Entries of one backend with one status. -/
def SameReply (one other : Entry) : Prop := one.backend = other.backend ∧ one.status = other.status

theorem applyRule_sameReply (done : entry.applyRule policy rule value = .ok changed) :
    changed.SameReply entry := by
  obtain ⟨surface, modifier⟩ := rule
  cases surface with
  | header => cases done; exact ⟨rfl, rfl⟩
  | query => cases done; exact ⟨rfl, rfl⟩
  | params => cases done; exact ⟨rfl, rfl⟩
  | body =>
    obtain ⟨body, _, same⟩ := map_eq_ok.mp done
    rw [← same]
    exact ⟨rfl, rfl⟩

theorem applyRule_error (failed : entry.applyRule policy rule value = .error failure) :
    IsChange policy failure := by
  obtain ⟨surface, modifier⟩ := rule
  cases surface with
  | header => cases failed
  | query => cases failed
  | params => cases failed
  | body => exact isChange_of_recovered (map_eq_error.mp failed)

theorem applyRules_nil : entry.applyRules policy request seen [] = .ok entry := rfl

theorem applyRules_cons : entry.applyRules policy request seen (rule :: rules) =
    (entry.applyRule policy rule (Placeholder.resolve rule.2.value request seen)).bind
      fun next => next.applyRules policy request seen rules := rfl

theorem applyRules_sameReply (done : entry.applyRules policy request seen rules = .ok changed) :
    changed.SameReply entry := by
  induction rules generalizing entry with
  | nil => cases done; exact ⟨rfl, rfl⟩
  | cons rule rules ih =>
    rw [applyRules_cons] at done
    obtain ⟨next, applied, rest⟩ := bind_eq_ok.mp done
    obtain ⟨backend, status⟩ := ih rest
    obtain ⟨backend', status'⟩ := applyRule_sameReply applied
    exact ⟨backend.trans backend', status.trans status'⟩

theorem applyRules_error (failed : entry.applyRules policy request seen rules = .error failure) :
    IsChange policy failure := by
  induction rules generalizing entry with
  | nil => cases failed
  | cons rule rules ih =>
    rw [applyRules_cons] at failed
    rcases bind_eq_error.mp failed with refused | ⟨next, _, rest⟩
    · exact applyRule_error refused
    · exact ih rest

theorem shapeBody_error {shaping : Config.Shaping} {body : Body}
    (failed : shapeBody policy shaping body = .error failure) : IsChange policy failure := by
  rcases bind_eq_error.mp failed with refused | ⟨renamed, _, rest⟩
  · exact isChange_of_recovered refused
  · exact isChange_of_recovered rest

/-- Shaping keeps the backend and the status of an entry. -/
theorem shape_sameReply (done : entry.shape policy request seen = .ok changed) : changed.SameReply entry := by
  unfold shape at done
  split at done
  · cases done; exact ⟨rfl, rfl⟩
  · obtain ⟨ruled, applied, rest⟩ := bind_eq_ok.mp done
    have same := applyRules_sameReply applied
    split at rest
    · obtain ⟨body, _, omitted⟩ := map_eq_ok.mp rest
      rw [← omitted]
      exact same
    · cases rest
      exact same

theorem shape_error (failed : entry.shape policy request seen = .error failure) : IsChange policy failure := by
  unfold shape at failed
  split at failed
  · cases failed
  · rcases bind_eq_error.mp failed with refused | ⟨ruled, _, rest⟩
    · exact applyRules_error refused
    · split at rest
      · exact shapeBody_error (map_eq_error.mp rest)
      · cases rest

end Entry

/-! ## One backend -/

namespace Run

/-- The run in which a snapshot has been sent, after the rules of its backend have left `request`. -/
def called (run : Run) (request : Request) (snapshot : Snapshot) : Run :=
  { run with
    request := request.record snapshot
    calls := run.calls ++ [snapshot.call] }

/-- The entry of a reply as the run keeps it: shaped, or as it came if shaping is put off. -/
def kept (run : Run) (context : Context) (entry : Entry) : Except Failure Entry :=
  match entry.backend.response.apply with
  | .early => entry.shape context.policy run.request (run.response.append entry)
  | .late => .ok entry

/-- The rules of a backend that propagate leave `request`, and of it the backend is sent `snapshot`. -/
structure Sends (context : Context) (backend : Config.Backend) (run : Run) (request : Request)
    (snapshot : Snapshot) : Prop where
  propagated : run.request.applyRules context.policy none run.response (backend.modifiers.onRequest true) = .ok request
  taken : backend.snapshot context request run.response = .ok snapshot

/-- Nothing is sent to a backend: a rule fails, or there is no host. `request` is what is left of the request. -/
inductive Withholds (context : Context) (backend : Config.Backend) (run : Run) (request : Request)
    (failure : Failure) : Prop where
  | propagating (failed : run.request.applyRules context.policy none run.response
      (backend.modifiers.onRequest true) = .error (request, failure))
  | sending (propagated : run.request.applyRules context.policy none run.response
      (backend.modifiers.onRequest true) = .ok request)
      (failed : backend.snapshot context request run.response = .error failure)

/-- The five ways in which a run leaves a backend. -/
inductive Step (transport : Transport) (context : Context) (endpoint : Config.Endpoint)
    (backend : Config.Backend) (run : Run) : Run → Prop where
  | withheld {request : Request} {failure : Failure} (withholds : Withholds context backend run request failure) :
      Step transport context endpoint backend run (({ run with request := request } : Run).fail context endpoint failure)
  | unanswered {request : Request} {snapshot : Snapshot} {error : CallError}
      (sends : Sends context backend run request snapshot)
      (failed : transport run.calls snapshot.call = .error error) :
      Step transport context endpoint backend run ((run.called request snapshot).fail context endpoint error.failure)
  | unshaped {request : Request} {snapshot : Snapshot} {reply : Reply} {failure : Failure}
      (sends : Sends context backend run request snapshot)
      (replied : transport run.calls snapshot.call = .ok reply)
      (failed : (run.called request snapshot).kept context (reply.entry backend) = .error failure) :
      Step transport context endpoint backend run ((run.called request snapshot).fail context endpoint failure)
  | aborting {request : Request} {snapshot : Snapshot} {reply : Reply} {entry : Entry}
      (sends : Sends context backend run request snapshot)
      (replied : transport run.calls snapshot.call = .ok reply)
      (kept : (run.called request snapshot).kept context (reply.entry backend) = .ok entry)
      (aborts : endpoint.aborts entry.status = true) :
      Step transport context endpoint backend run
        { run.called request snapshot with response := run.response.abortWith entry }
  | answered {request : Request} {snapshot : Snapshot} {reply : Reply} {entry : Entry}
      (sends : Sends context backend run request snapshot)
      (replied : transport run.calls snapshot.call = .ok reply)
      (kept : (run.called request snapshot).kept context (reply.entry backend) = .ok entry)
      (goesOn : endpoint.aborts entry.status = false) :
      Step transport context endpoint backend run
        { run.called request snapshot with response := run.response.append entry }

variable {transport : Transport} {context : Context} {endpoint : Config.Endpoint} {backend : Config.Backend}
  {run : Run} {request : Request} {snapshot : Snapshot}

theorem kept_error {entry : Entry} {failure : Failure} (failed : run.kept context entry = .error failure) :
    entry.backend.response.apply = .early ∧ IsChange context.policy failure := by
  unfold Run.kept at failed
  split at failed
  · rename_i early
    exact ⟨early, Entry.shape_error failed⟩
  · cases failed

theorem kept_sameReply {entry changed : Entry} (kept : run.kept context entry = .ok changed) :
    changed.SameReply entry := by
  unfold Run.kept at kept
  split at kept
  · exact Entry.shape_sameReply kept
  · cases kept
    exact ⟨rfl, rfl⟩

/-- Receiving an entry: it ends the run if its status does, else it joins the response. -/
theorem receive_eq (run : Run) (context : Context) (endpoint : Config.Endpoint) (entry : Entry) :
    run.receive context endpoint entry =
      match run.kept context entry with
      | .error failure => run.fail context endpoint failure
      | .ok entry =>
        { run with
          response := if endpoint.aborts entry.status then run.response.abortWith entry
            else run.response.append entry } := rfl

theorem receive_calls (run : Run) (entry : Entry) : (run.receive context endpoint entry).calls = run.calls := by
  rw [receive_eq]
  cases run.kept context entry with
  | error failure => rfl
  | ok changed => rfl

theorem step_receive {reply : Reply} (sends : Sends context backend run request snapshot)
    (replied : transport run.calls snapshot.call = .ok reply) :
    Step transport context endpoint backend run
      ((run.called request snapshot).receive context endpoint (reply.entry backend)) := by
  rw [receive_eq]
  cases shaped : (run.called request snapshot).kept context (reply.entry backend) with
  | error failure => exact .unshaped sends replied shaped
  | ok entry =>
    by_cases aborts : endpoint.aborts entry.status = true
    · simp only [aborts, if_true]
      exact .aborting sends replied shaped aborts
    · have goesOn : endpoint.aborts entry.status = false := by simpa using aborts
      simp only [goesOn, Bool.false_eq_true, if_false]
      exact .answered sends replied shaped goesOn

theorem backend_withholds {failure : Failure} (withholds : Withholds context backend run request failure) :
    run.backend transport context endpoint backend =
      ({ run with request := request } : Run).fail context endpoint failure := by
  cases withholds with
  | propagating failed => simp only [Run.backend, failed]
  | sending propagated failed => simp only [Run.backend, propagated, failed]

theorem backend_sends (sends : Sends context backend run request snapshot) :
    run.backend transport context endpoint backend =
      match transport run.calls snapshot.call with
      | .error error => (run.called request snapshot).fail context endpoint error.failure
      | .ok reply => (run.called request snapshot).receive context endpoint (reply.entry backend) := by
  simp only [Run.backend, sends.propagated, sends.taken]
  rfl

theorem calls_of_sends (sends : Sends context backend run request snapshot) :
    (run.backend transport context endpoint backend).calls = run.calls ++ [snapshot.call] := by
  rw [backend_sends sends]
  cases transport run.calls snapshot.call with
  | error error => rfl
  | ok reply => exact receive_calls ..

/-- Every backend leaves a run in one of the five ways. -/
theorem step_backend : Step transport context endpoint backend run
    (run.backend transport context endpoint backend) := by
  cases propagated : run.request.applyRules context.policy none run.response (backend.modifiers.onRequest true) with
  | error left =>
    obtain ⟨request, failure⟩ := left
    have withholds : Withholds context backend run request failure := .propagating propagated
    rw [backend_withholds withholds]
    exact .withheld withholds
  | ok request =>
    cases taken : backend.snapshot context request run.response with
    | error failure =>
      have withholds : Withholds context backend run request failure := .sending propagated taken
      rw [backend_withholds withholds]
      exact .withheld withholds
    | ok snapshot =>
      have sends : Sends context backend run request snapshot := ⟨propagated, taken⟩
      rw [backend_sends sends]
      cases replied : transport run.calls snapshot.call with
      | error error => exact .unanswered sends replied
      | ok reply => exact step_receive sends replied

/-- A run goes on only after a reply that does not end it, the entry of which has joined the response. -/
theorem answered_of_going {after : Run} (step : Step transport context endpoint backend run after)
    (goes : after.response.isTerminal = false) :
    ∃ request snapshot reply entry, Sends context backend run request snapshot ∧
      transport run.calls snapshot.call = .ok reply ∧
      (run.called request snapshot).kept context (reply.entry backend) = .ok entry ∧
      endpoint.aborts entry.status = false ∧
      after = { run.called request snapshot with response := run.response.append entry } := by
  cases step with
  | withheld withholds => cases (Response.isTerminal_fail ..).symm.trans goes
  | unanswered sends failed => cases (Response.isTerminal_fail ..).symm.trans goes
  | unshaped sends replied failed => cases (Response.isTerminal_fail ..).symm.trans goes
  | aborting sends replied kept aborts => cases (Response.isTerminal_abortWith ..).symm.trans goes
  | @answered request snapshot reply entry sends replied kept goesOn =>
    exact ⟨request, snapshot, reply, entry, sends, replied, kept, goesOn, rfl⟩

/-- A run that goes on has made one call more. -/
theorem calls_of_going {after : Run} (step : Step transport context endpoint backend run after)
    (goes : after.response.isTerminal = false) : after.calls.length = run.calls.length + 1 := by
  obtain ⟨request, snapshot, reply, entry, _, _, _, _, rfl⟩ := answered_of_going step goes
  simp [called]

/-- The entries of a run come from the backends that it has called. -/
theorem entries_of_step {after : Run} (step : Step transport context endpoint backend run after) :
    ∀ entry ∈ after.response.history, entry ∈ run.response.history ∨ entry.backend = backend := by
  intro entry member
  cases step with
  | withheld withholds => exact .inl (by simpa [Run.fail] using member)
  | unanswered sends failed => exact .inl (by simpa [Run.fail, called] using member)
  | unshaped sends replied failed => exact .inl (by simpa [Run.fail, called] using member)
  | aborting sends replied kept aborts => exact .inl (by simpa using member)
  | @answered request snapshot reply added sends replied kept goesOn =>
    rcases Response.mem_history_append member with earlier | same
    · exact .inl earlier
    · rw [same]
      exact .inr (kept_sameReply kept).1

theorem entries_of_backends {stages : List Config.Backend} :
    ∀ entry ∈ (backends transport context endpoint stages run).response.history,
      entry ∈ run.response.history ∨ entry.backend ∈ stages := by
  induction stages generalizing run with
  | nil =>
    intro entry member
    exact .inl member
  | cons next stages ih =>
    intro entry member
    have step : Step transport context endpoint next run (run.backend transport context endpoint next) := step_backend
    have here : entry ∈ (run.backend transport context endpoint next).response.history →
        entry ∈ run.response.history ∨ entry.backend ∈ next :: stages := by
      intro listed
      rcases entries_of_step step entry listed with earlier | same
      · exact .inl earlier
      · exact .inr (same ▸ List.mem_cons_self)
    simp only [backends] at member
    split at member
    · exact here member
    · rcases ih entry member with listed | later
      · exact here listed
      · exact .inr (List.mem_cons_of_mem _ later)

end Run
end Junction
