import Junction.Proofs.Engine.Completeness
import Junction.Proofs.Engine.Tolerance

/-!
The hosts that runs call. A configuration that is read has a host for every stage, so that no run fails for want of one;
the call goes to the last one, whatever the others are.
-/

namespace Junction

namespace Config.Backend

/-- The last host of a backend. -/
def IsLastHost (backend : Backend) (host : String) : Prop := backend.hosts.getLast? = some host

/-- A host of a backend that is not blank. -/
def IsNamedHost (backend : Backend) (host : String) : Prop := host ∈ backend.hosts ∧ Text.isBlank host = false

end Config.Backend

open Config.Backend

namespace Response

variable {response : Response}

/-- The response is that of a run which has ended for want of a host. -/
def LacksHost (response : Response) : Prop := ∃ name, response.failure? = some (.noHost name)

theorem not_lacksHost_of_change {policy : Change.Policy} {failure : Failure} (change : IsChange policy failure)
    (told : response.failure? = some failure) : ¬ response.LacksHost := by
  obtain ⟨_, cause, rfl⟩ := change
  rintro ⟨name, lacks⟩
  cases told.symm.trans lacks

/-- Making the final response takes no host. -/
theorem lacksHost_of_write {context : Context} {endpoint : Config.Endpoint} {request : Request}
    (lacks : (response.write context endpoint request).LacksHost) : response.LacksHost := by
  rcases write_eq_attemptWrite context endpoint request response with same | ⟨failure, change, told⟩
  · rw [same, attemptWrite] at lacks
    split at lacks
    · exact lacks
    · rename_i going
      have going' : (response.mapEntries (Entry.attemptShape request response)).isTerminal = false :=
        Bool.eq_false_iff.mpr going
      obtain ⟨name, lacks⟩ := lacks
      dsimp only at lacks
      split at lacks
      · rw [failure_fail going'] at lacks
        cases lacks
      · rw [failure_finish] at lacks
        exact ⟨name, lacks⟩
  · exact absurd lacks (not_lacksHost_of_change change told)

end Response

namespace Run

variable {transport : Transport} {context : Context} {endpoint : Config.Endpoint} {backend : Config.Backend}
  {stages : List Config.Backend} {run start after : Run} {request : Request}
  {relation relation' : Config.Backend → String → Prop}

/-! ## Where calls go -/

/-- Since `start` a run has called the first of the stages, one after another, each at a host that stands in a relation
to it. -/
def CallsAt (relation : Config.Backend → String → Prop) (stages : List Config.Backend) (start run : Run) : Prop :=
  ∃ called sent, called <+: stages ∧ run.calls = start.calls ++ sent.map Snapshot.call ∧
    run.request.history = start.request.history ++ sent ∧
    List.Forall₂ (fun backend snapshot => relation backend snapshot.host) called sent

theorem CallsAt.mono (calls : CallsAt relation stages start run)
    (implies : ∀ backend ∈ stages, ∀ host, relation backend host → relation' backend host) :
    CallsAt relation' stages start run := by
  obtain ⟨called, sent, first, recorded, history, hosts⟩ := calls
  refine ⟨called, sent, first, recorded, history, ?_⟩
  refine List.forall₂_iff_get.mpr ⟨hosts.length_eq, ?_⟩
  intro place inCalled inSent
  exact implies _ (first.subset (List.get_mem ..)) _ ((List.forall₂_iff_get.mp hosts).2 place inCalled inSent)

/-- Every backend that is called is called at its last host. -/
theorem callsAt_backends (transport : Transport) (context : Context) (endpoint : Config.Endpoint)
    (stages : List Config.Backend) (run : Run) :
    CallsAt IsLastHost stages run (backends transport context endpoint stages run) := by
  induction stages generalizing run with
  | nil => exact ⟨[], [], List.nil_prefix, (List.append_nil _).symm, (List.append_nil _).symm, .nil⟩
  | cons next rest ih =>
    have step : Step transport context endpoint next run (run.backend transport context endpoint next) := step_backend
    simp only [backends]
    rcases step_calls step with ⟨calls, history⟩ | ⟨request, snapshot, sends, calls, history⟩
    · -- A backend that is not called has ended the run, so that none is called after it.
      have stopped : (run.backend transport context endpoint next).response.isTerminal = true := by
        cases goes : (run.backend transport context endpoint next).response.isTerminal with
        | true => rfl
        | false =>
          have more := calls_of_going step goes
          rw [calls] at more
          omega
      rw [if_pos stopped]
      exact ⟨[], [], List.nil_prefix, by rw [calls]; simp, by rw [history]; simp, .nil⟩
    · split
      · exact ⟨[next], [snapshot], ⟨rest, rfl⟩, calls, history, .cons sends.host .nil⟩
      · obtain ⟨called, sent, first, calls', history', hosts⟩ := ih (run.backend transport context endpoint next)
        refine ⟨next :: called, snapshot :: sent, List.cons_prefix_cons.mpr ⟨rfl, first⟩, ?_, ?_, ?_⟩
        · rw [calls', calls, List.append_assoc]
          rfl
        · rw [history', history, List.append_assoc]
          rfl
        · exact .cons sends.host hosts

/-! ## Runs that are not short of a host -/

/-- Where there is a host, nothing but a change keeps a backend from being called. -/
theorem isChange_of_withholds {failure : Failure} (hosts : backend.hosts ≠ [])
    (withholds : Withholds context backend run request failure) : IsChange context.policy failure := by
  cases withholds with
  | propagating failed => exact (Request.applyRules_error failed).2
  | sending propagated failed =>
    rcases snapshot_error failed with ⟨none, _⟩ | change
    · exact absurd (List.getLast?_eq_none_iff.mp none) hosts
    · exact change

theorem lacksHost_of_step (hosts : backend.hosts ≠ []) (going : run.response.isTerminal = false)
    (step : Step transport context endpoint backend run after) (lacks : after.response.LacksHost) :
    run.response.LacksHost := by
  cases step with
  | @withheld request failure withholds =>
    have told := Response.failure_fail going context.stamp endpoint.path failure
    exact absurd lacks (Response.not_lacksHost_of_change (isChange_of_withholds hosts withholds) told)
  | @unanswered request snapshot error sends failed =>
    obtain ⟨name, lacks⟩ := lacks
    have told := (Response.failure_fail going context.stamp endpoint.path error.failure).symm.trans lacks
    cases error <;> cases told
  | @unshaped request snapshot reply failure sends replied failed =>
    have told := Response.failure_fail going context.stamp endpoint.path failure
    exact absurd lacks (Response.not_lacksHost_of_change (kept_error failed).2 told)
  | aborting sends replied kept aborts =>
    obtain ⟨name, lacks⟩ := lacks
    exact ⟨name, (Response.failure_abortWith _).symm.trans lacks⟩
  | answered sends replied kept goesOn =>
    obtain ⟨name, lacks⟩ := lacks
    exact ⟨name, (Response.failure_append _).symm.trans lacks⟩

theorem lacksHost_of_backends (hosts : ∀ backend ∈ stages, backend.hosts ≠ []) (going : run.response.isTerminal = false)
    (lacks : (backends transport context endpoint stages run).response.LacksHost) : run.response.LacksHost := by
  induction stages generalizing run with
  | nil => exact lacks
  | cons next rest ih =>
    have here : (run.backend transport context endpoint next).response.LacksHost → run.response.LacksHost :=
      lacksHost_of_step (hosts next List.mem_cons_self) going step_backend
    simp only [backends] at lacks
    split at lacks
    · exact here lacks
    · rename_i running
      exact here (ih (fun backend later => hosts backend (List.mem_cons_of_mem _ later)) (by simpa using running) lacks)

/-! ## Runs that call all stages -/

/-- Every call is answered with a status that does not end a run of the endpoint. -/
def GoesOn (transport : Transport) (endpoint : Config.Endpoint) : Prop :=
  ∀ earlier call, ∃ reply, transport earlier call = .ok reply ∧ endpoint.aborts reply.status = false

theorem going_of_step (lenient : context.policy = .failOpen) (answers : GoesOn transport endpoint)
    (hosts : backend.hosts ≠ []) (going : run.response.isTerminal = false)
    (step : Step transport context endpoint backend run after) : after.response.isTerminal = false := by
  have unchanged : ∀ failure, ¬ IsChange context.policy failure := by
    rintro failure ⟨closed, _⟩
    cases lenient.symm.trans closed
  cases step with
  | withheld withholds => exact absurd (isChange_of_withholds hosts withholds) (unchanged _)
  | unanswered sends failed =>
    obtain ⟨reply, replied, _⟩ := answers run.calls _
    cases replied.symm.trans failed
  | unshaped sends replied failed => exact absurd (kept_error failed).2 (unchanged _)
  | @aborting request snapshot reply entry sends replied kept aborts =>
    obtain ⟨reply', replied', goesOn⟩ := answers run.calls snapshot.call
    cases replied.symm.trans replied'
    have status : entry.status = reply.status := (kept_sameReply kept).2
    rw [status] at aborts
    cases aborts.symm.trans goesOn
  | answered sends replied kept goesOn => exact (Response.isTerminal_append _).trans going

theorem going_of_backends (lenient : context.policy = .failOpen) (answers : GoesOn transport endpoint)
    (hosts : ∀ backend ∈ stages, backend.hosts ≠ []) (going : run.response.isTerminal = false) :
    (backends transport context endpoint stages run).response.isTerminal = false := by
  induction stages generalizing run with
  | nil => exact going
  | cons next rest ih =>
    have running : (run.backend transport context endpoint next).response.isTerminal = false :=
      going_of_step lenient answers (hosts next List.mem_cons_self) going step_backend
    simp only [backends, running, Bool.false_eq_true, if_false]
    exact ih (fun backend later => hosts backend (List.mem_cons_of_mem _ later)) running

/-- A run that has called as many backends as there are stages has called them all. -/
theorem CallsAt.whole (calls : CallsAt relation stages start run)
    (all : run.calls.length = start.calls.length + stages.length) :
    ∃ sent, run.request.history = start.request.history ++ sent ∧
      List.Forall₂ (fun backend snapshot => relation backend snapshot.host) stages sent := by
  obtain ⟨called, sent, first, recorded, history, hosts⟩ := calls
  have length : called.length = stages.length := by
    rw [recorded, List.length_append, List.length_map, ← hosts.length_eq] at all
    omega
  rw [← first.eq_of_length length]
  exact ⟨sent, history, hosts⟩

end Run

namespace Config.Gateway

open Run

variable {gateway : Gateway} {endpoint : Endpoint}

/-- Where the runs of an endpoint call its stages. -/
structure CallsHosts (gateway : Gateway) (endpoint : Endpoint) : Prop where
  /-- Every stage that a run calls, it calls at its last host. -/
  last : ∀ transport context request, CallsAt IsLastHost (gateway.stages endpoint) (initial request)
    (gateway.handle transport context endpoint request)
  /-- No run ends for want of a host. -/
  hosted : ∀ transport context request, ¬ (gateway.handle transport context endpoint request).response.LacksHost
  /-- Every stage has a host that is not blank. -/
  named : ∀ backend ∈ gateway.stages endpoint, ∃ host, backend.IsNamedHost host
  /-- If the last host of every stage is one of these, runs call no others. -/
  namedOnly : (∀ backend ∈ gateway.stages endpoint, ∀ host, backend.IsLastHost host → backend.IsNamedHost host) →
    ∀ transport context request, CallsAt IsNamedHost (gateway.stages endpoint) (initial request)
      (gateway.handle transport context endpoint request)
  /-- If not, some run does, unless the endpoint lets no status pass. -/
  lastNamed : (∃ status, endpoint.aborts status = false) →
    (∀ transport context request, CallsAt IsNamedHost (gateway.stages endpoint) (initial request)
      (gateway.handle transport context endpoint request)) →
    ∀ backend ∈ gateway.stages endpoint, ∀ host, backend.IsLastHost host → backend.IsNamedHost host

theorem callsAt_handle (gateway : Gateway) (transport : Transport) (context : Context) (endpoint : Endpoint)
    (request : Request) : CallsAt IsLastHost (gateway.stages endpoint) (initial request)
      (gateway.handle transport context endpoint request) :=
  callsAt_backends transport context endpoint (gateway.stages endpoint) (initial request)

/-- A transport that answers every call with a status and nothing else. -/
def replyingWith (status : Nat) : Transport := fun _ _ => .ok ⟨status, ∅, .empty⟩

/-- Some run calls all stages, if there is a status that lets it go on. -/
theorem exists_wholeRun (hosts : ∀ backend ∈ gateway.stages endpoint, backend.hosts ≠ []) {status : Nat}
    (goesOn : endpoint.aborts status = false) : ∃ transport context,
      (gateway.handle transport context endpoint {}).calls.length = (gateway.stages endpoint).length := by
  have lenient : (Context.under default .failOpen).policy = .failOpen := rfl
  have answers : GoesOn (replyingWith status) endpoint := fun _ _ => ⟨_, rfl, goesOn⟩
  have fresh : ({} : Request).history = [] := rfl
  refine ⟨replyingWith status, Context.under default .failOpen, ?_⟩
  have going := going_of_backends lenient answers hosts (initial_going {})
  rcases run_ends (replyingWith status) (Context.under default .failOpen) endpoint fresh (gateway.stages endpoint) with
    whole | ⟨_, _, _, _, _, _, stopped⟩
  · exact (going_count whole).1
  · cases going.symm.trans stopped

/-- A run that calls all stages at hosts that are not blank shows that their last hosts are not. -/
theorem named_of_wholeRun {transport : Transport} {context : Context} {request : Request}
    (calls : CallsAt IsNamedHost (gateway.stages endpoint) (initial request)
      (gateway.handle transport context endpoint request))
    (all : (gateway.handle transport context endpoint request).calls.length = (gateway.stages endpoint).length) :
    ∀ backend ∈ gateway.stages endpoint, ∀ host, backend.IsLastHost host → backend.IsNamedHost host := by
  intro backend stage host last
  have all' := all.trans (Nat.zero_add _).symm
  obtain ⟨sent, history, named⟩ := calls.whole all'
  obtain ⟨sent', history', lasts⟩ := (callsAt_handle gateway transport context endpoint request).whole all'
  cases List.append_cancel_left (history.symm.trans history')
  obtain ⟨place, inStages, rfl⟩ := List.getElem_of_mem stage
  have inSent : place < sent.length := lasts.length_eq ▸ inStages
  have here := (List.forall₂_iff_get.mp lasts).2 place inStages inSent
  have same : sent[place].host = host := Option.some.inj (here.symm.trans last)
  exact same ▸ (List.forall₂_iff_get.mp named).2 place inStages inSent

/-- Validation looks for one host that is not blank, and execution takes the last one. No run of a configuration that is
read is short of a host, and the host is blank only where the last one of a backend is. -/
theorem callsHosts_of_parse {format : FileFormat} {text : String} (parsed : parse format text = .ok gateway)
    (listed : endpoint ∈ gateway.endpoints) : CallsHosts gateway endpoint := by
  have faultless := faults_of_parse parsed
  have hosts := hosts_of_faults faultless listed
  refine ⟨?_, ?_, ?_, ?_, ?_⟩
  · intro transport context request
    exact callsAt_handle ..
  · intro transport context request lacks
    obtain ⟨name, told⟩ := lacksHost_of_backends hosts (initial_going request) (Response.lacksHost_of_write lacks)
    cases told
  · intro backend stage
    obtain ⟨host, there, named⟩ := (isSound_of_faults faultless listed stage).hosts
    exact ⟨host, there, Bool.eq_false_iff.mpr fun blank => named (Text.isBlank_iff.mp blank)⟩
  · intro lastNamed transport context request
    exact (callsAt_handle ..).mono lastNamed
  · rintro ⟨status, goesOn⟩ calls
    obtain ⟨transport, context, all⟩ := exists_wholeRun hosts goesOn
    exact named_of_wholeRun (calls transport context {}) all

/-- A gateway one backend of which has a blank host before its last one. -/
def blankFirstText : String :=
  "\x7b\"middlewares\":\x7b\"auth\":\x7b\"hosts\":[\"a\"]\x7d\x7d,\"endpoints\":[\x7b\"path\":\"/e\"," ++
    "\"beforewares\":[\"auth\"],\"backends\":[\x7b\"hosts\":[\" \",\"b\"]\x7d]\x7d]\x7d"

/-- The gateway has one endpoint. -/
def hasOneEndpoint (gateway : Gateway) : Bool := gateway.endpoints.length == 1

theorem callsHosts_of_parse_blankFirst : ∃ gateway, parse .json blankFirstText = .ok gateway ∧
    ∃ endpoint ∈ gateway.endpoints, CallsHosts gateway endpoint := by
  have checked : ((parse .json blankFirstText).toOption.map hasOneEndpoint) = some true := by decide +kernel
  obtain ⟨gateway, parsed, one⟩ := parse_of_checked checked
  obtain ⟨endpoint, same⟩ := List.length_eq_one_iff.mp (beq_iff_eq.mp one)
  have listed : endpoint ∈ gateway.endpoints := same ▸ List.mem_singleton_self endpoint
  exact ⟨gateway, parsed, endpoint, listed, callsHosts_of_parse parsed listed⟩

/-- A gateway one backend of which has a blank host after another one. -/
def blankLastText : String :=
  "\x7b\"endpoints\":[\x7b\"path\":\"/e\",\"backends\":[\x7b\"name\":\"svc\",\"hosts\":[\"svc\",\"\"]\x7d]\x7d]\x7d"

/-- A run of the gateway calls one backend, at a blank host. -/
def callsBlank (gateway : Gateway) : Bool :=
  gateway.endpoints.any fun endpoint =>
    (gateway.handle answering default endpoint {}).request.history.map (·.host) == [""]

/-- One host that is not blank is enough for a backend to be accepted, and a blank one after it is called. -/
theorem blankLast_called : ∃ gateway, parse .json blankLastText = .ok gateway ∧ ∃ endpoint ∈ gateway.endpoints,
    ¬ CallsAt IsNamedHost (gateway.stages endpoint) (initial {}) (gateway.handle answering default endpoint {}) := by
  have checked : ((parse .json blankLastText).toOption.map callsBlank) = some true := by decide +kernel
  obtain ⟨gateway, parsed, blank⟩ := parse_of_checked checked
  obtain ⟨endpoint, listed, here⟩ := List.any_eq_true.mp blank
  refine ⟨gateway, parsed, endpoint, listed, ?_⟩
  rintro ⟨called, sent, _, _, history, hosts⟩
  have sentTo : sent.map (·.host) = [""] := (congrArg (List.map (·.host)) history).symm.trans (beq_iff_eq.mp here)
  cases hosts with
  | nil => cases sentTo
  | @cons backend snapshot _ _ named _ =>
    have empty : snapshot.host = "" := (List.cons.inj sentTo).1
    have isBlank : Text.isBlank "" = true := by decide +kernel
    have notBlank := named.2
    rw [empty, isBlank] at notBlank
    cases notBlank

end Config.Gateway
end Junction
