import Junction.Proofs.Engine.InStep

/-!
The moment at which a backend shapes its responses makes no difference to a run in which no call fails and no
status aborts: the calls and the final response are the same. What can still end such a run is a backend without a host
(`history_of_accepted`). A final response that was not ended has all its entries in their shapes, and one that was ended
has them as the run has kept them, which is where the moment counts.
-/

namespace Junction
open Config

/-- Runs that have made the same calls and show the same response. -/
structure Run.SameOutcome (one other : Run) : Prop where
  calls : one.calls = other.calls
  shown : one.response.shown = other.response.shown

/-- Runs whose entries are all shaped, and show the same one by one. -/
structure Run.SameEntries (one other : Run) : Prop where
  shaped : ∀ entry ∈ one.response.history ++ other.response.history, entry.shaped = true
  shown : one.response.history.map Entry.shown = other.response.history.map Entry.shown

namespace Run

variable {context : Context} {endpoint : Endpoint} {stages stages' : List Backend}
  {answers : Nat → Except CallError Reply} {run after : Run} {backend : Backend}

/-- The stages that a run can call: those before the first one without a host. -/
def callable (stages : List Backend) : List Backend := stages.takeWhile fun backend => !backend.hosts.isEmpty

/-- A backend without a host ends a run, and nothing else comes of it. -/
theorem step_hostless (hostless : backend.hosts = [])
    (step : Step (.byPosition answers) context endpoint backend run after) :
    after.response.isTerminal = true ∧ after.response.history = run.response.history := by
  have unsent : ∀ request snapshot, ¬ Sends context backend run request snapshot := by
    rintro request snapshot ⟨_, taken⟩
    simp [Backend.snapshot, hostless] at taken
  cases step with
  | withheld withholds => exact ⟨Response.isTerminal_fail .., Response.history_fail ..⟩
  | unanswered sends failed => exact absurd sends (unsent _ _)
  | unshaped sends replied failed => exact absurd sends (unsent _ _)
  | aborting sends replied kept aborts => exact absurd sends (unsent _ _)
  | answered sends replied kept goesOn => exact absurd sends (unsent _ _)

/-- A run goes on past a backend that has a host and replies with a status that does not abort. -/
theorem step_goesOn (goesOn : context.policy = .failOpen) (host : backend.hosts ≠ [])
    (step : Step (.byPosition answers) context endpoint backend run after)
    (accepted : ∀ i < after.calls.length, ∃ reply, answers i = .ok reply ∧ endpoint.aborts reply.status = false)
    (going : run.response.isTerminal = false) : after.response.isTerminal = false := by
  have latest (request : Request) (snapshot : Snapshot) : run.calls.length < (run.called request snapshot).calls.length := by
    simp [called]
  cases step with
  | @withheld request failure withholds =>
    cases withholds with
    | propagating failed =>
      obtain ⟨closed, _⟩ := (Request.applyRules_error failed).2
      cases goesOn.symm.trans closed
    | sending propagated failed =>
      rcases backend.snapshot_failOpen goesOn request run.response with ⟨none, _⟩ | ⟨_, snapshot, _, taken⟩
      · exact absurd (List.getLast?_eq_none_iff.mp none) host
      · cases taken.symm.trans failed
  | @unanswered request snapshot error sends failed =>
    obtain ⟨reply, replied, _⟩ := accepted run.calls.length (latest request snapshot)
    cases replied.symm.trans failed
  | unshaped sends replied failed =>
    obtain ⟨_, closed, _⟩ := kept_error failed
    cases goesOn.symm.trans closed
  | @aborting request snapshot reply entry sends replied kept aborts =>
    obtain ⟨answer, answered, goes⟩ := accepted run.calls.length (latest request snapshot)
    cases answered.symm.trans replied
    rw [(kept_sameReply kept).2] at aborts
    cases aborts.symm.trans goes
  | @answered request snapshot reply entry sends replied kept goes =>
    exact (Response.isTerminal_append entry).trans going

/-- A run keeps the entry of a reply in its shape if and only if its backend shapes early. -/
theorem shaped_of_kept {reply : Reply} {entry : Entry} (kept : run.kept context (reply.entry backend) = .ok entry) :
    entry.shaped = decide (backend.response.apply = .early) := by
  have moment : (reply.entry backend).backend.response.apply = backend.response.apply := rfl
  rw [Run.kept, moment] at kept
  cases early : backend.response.apply with
  | early =>
    rw [early] at kept
    exact Entry.shaped_of_shape kept
  | late =>
    rw [early] at kept
    cases kept
    rfl

/-- The entries that a run leaves are those of the stages it can call, and it is ended if that is not all of them. -/
theorem history_of_accepted (goesOn : context.policy = .failOpen) (going : run.response.isTerminal = false)
    (accepted : ∀ i < (backends (.byPosition answers) context endpoint stages run).calls.length,
      ∃ reply, answers i = .ok reply ∧ endpoint.aborts reply.status = false) :
    ((backends (.byPosition answers) context endpoint stages run).response.isTerminal = false ↔
        ∀ backend ∈ stages, backend.hosts ≠ []) ∧
      ∃ entries, (backends (.byPosition answers) context endpoint stages run).response.history =
          run.response.history ++ entries ∧
        entries.map Entry.shaped = (callable stages).map fun backend => decide (backend.response.apply = .early) := by
  induction stages generalizing run with
  | nil => exact ⟨iff_of_true going nofun, [], (List.append_nil _).symm, rfl⟩
  | cons next stages ih =>
    have step : Step (.byPosition answers) context endpoint next run
        (run.backend (.byPosition answers) context endpoint next) := step_backend
    by_cases hostless : next.hosts = []
    · obtain ⟨stopped, same⟩ := step_hostless hostless step
      simp only [backends, stopped, if_true]
      refine ⟨?_, [], same.trans (List.append_nil _).symm, by simp [callable, hostless]⟩
      simp [hostless]
    · cases stopped : (run.backend (.byPosition answers) context endpoint next).response.isTerminal with
      | true =>
        simp only [backends, stopped, if_true] at accepted
        cases stopped.symm.trans (step_goesOn goesOn hostless step accepted going)
      | false =>
        simp only [backends, stopped, Bool.false_eq_true, if_false] at accepted ⊢
        obtain ⟨request, snapshot, reply, entry, _, _, kept, _, after⟩ := answered_of_going step stopped
        have added : (run.backend (.byPosition answers) context endpoint next).response.history =
            run.response.history ++ [entry] := by
          rw [after]
          exact Response.history_append going entry
        obtain ⟨ended, entries, history, shapes⟩ := ih stopped accepted
        refine ⟨?_, entry :: entries, ?_, ?_⟩
        · rw [ended, List.forall_mem_cons, and_iff_right hostless]
        · rw [history, added, List.append_assoc, List.singleton_append]
        · have head : callable (next :: stages) = next :: callable stages := by simp [callable, hostless]
          rw [head, List.map_cons, List.map_cons, shaped_of_kept kept, shapes]

/-- All entries that a run leaves are in their shapes if and only if all stages that it can call shape early. -/
theorem shaped_of_backends (goesOn : context.policy = .failOpen) (going : run.response.isTerminal = false)
    (empty : run.response.history = [])
    (accepted : ∀ i < (backends (.byPosition answers) context endpoint stages run).calls.length,
      ∃ reply, answers i = .ok reply ∧ endpoint.aborts reply.status = false) :
    (∀ entry ∈ (backends (.byPosition answers) context endpoint stages run).response.history, entry.shaped = true) ↔
      ∀ backend ∈ callable stages, backend.response.apply = .early := by
  obtain ⟨_, entries, history, shapes⟩ := history_of_accepted goesOn going accepted
  have each : (∀ shaped ∈ entries.map Entry.shaped, shaped = true) ↔
      ∀ backend ∈ callable stages, backend.response.apply = .early := by
    rw [shapes, List.forall_mem_map]
    simp only [decide_eq_true_eq]
  rw [history, empty, List.nil_append, ← each, List.forall_mem_map]

theorem shown_settled_of_shaped {history : List Entry} (shaped : ∀ entry ∈ history, entry.shaped = true) :
    (history.map Entry.settled).map Entry.shown = history.map Entry.shown := by
  rw [List.map_map]
  refine List.map_congr_left fun entry member => ?_
  rw [Function.comp_apply, Entry.shown_settled, Entry.formed_of_shaped (shaped entry member)]

/-- Runs in step have the same entries as soon as all of them are in their shapes. -/
theorem InStep.sameEntries_iff {one other : Run} (inStep : one.InStep other) : one.SameEntries other ↔
    ∀ entry ∈ one.response.history ++ other.response.history, entry.shaped = true := by
  constructor
  · exact SameEntries.shaped
  · intro shaped
    refine ⟨shaped, ?_⟩
    obtain ⟨here, there⟩ := List.forall_mem_append.mp shaped
    rw [← shown_settled_of_shaped here, ← shown_settled_of_shaped there, Response.history_of_settled inStep.response]

theorem accepted_of_timeless {endpoint' : Endpoint} {calls calls' : List Call}
    (endpoints : endpoint.timeless = endpoint'.timeless) (same : calls = calls')
    (accepted : ∀ i < calls.length, ∃ reply, answers i = .ok reply ∧ endpoint.aborts reply.status = false) :
    ∀ i < calls'.length, ∃ reply, answers i = .ok reply ∧ endpoint'.aborts reply.status = false := by
  intro i below
  obtain ⟨reply, answered, goes⟩ := accepted i (same ▸ below)
  have aborts : endpoint.timeless.aborts reply.status = endpoint'.timeless.aborts reply.status := by rw [endpoints]
  exact ⟨reply, answered, aborts.symm.trans goes⟩

theorem literal_of_timeless (same : stages.map Backend.timeless = stages'.map Backend.timeless)
    (literal : ∀ backend ∈ stages, backend.modifiers.Literal) : ∀ backend ∈ stages', backend.modifiers.Literal := by
  intro backend member
  have listed : backend.timeless ∈ stages.map Backend.timeless := same ▸ List.mem_map_of_mem member
  obtain ⟨found, inside, alike⟩ := List.mem_map.mp listed
  rw [← Backend.modifiers_of_timeless alike]
  exact literal found inside

end Run

open Run

namespace Config.Gateway

variable {one other gateway : Gateway} {endpoint endpoint' : Endpoint} {transport : Transport} {context : Context}
  {request : Request} {answers : Nat → Except CallError Reply}

theorem handle_of_terminal (ended : (gateway.run transport context endpoint request).response.isTerminal = true) :
    gateway.handle transport context endpoint request = gateway.run transport context endpoint request := by
  rw [handle, Response.write_terminal ended]

/-- Runs of gateways that differ in moments alone are in step, if no call and no status ends them. -/
theorem run_inStep (gateways : one.timeless = other.timeless) (endpoints : endpoint.timeless = endpoint'.timeless)
    (literal : ∀ backend ∈ one.stages endpoint, backend.modifiers.Literal) (goesOn : context.policy = .failOpen)
    (accepted : ∀ i < (one.run (.byPosition answers) context endpoint request).calls.length,
      ∃ reply, answers i = .ok reply ∧ endpoint.aborts reply.status = false) :
    (one.run (.byPosition answers) context endpoint request).InStep
      (other.run (.byPosition answers) context endpoint' request) := by
  have stages := stages_of_timeless gateways endpoints
  have alike : ∀ (i : Nat) (backend backend' : Backend), (one.stages endpoint)[i]? = some backend →
      (other.stages endpoint')[i]? = some backend' → AnswersAlike backend backend' (answers i) (answers i) := by
    intro i backend backend' stage stage'
    exact answersAlike_of_timeless (Backend.timeless_of_getElem? stages stage stage') (answers i)
  cases run_paired goesOn endpoints stages literal alike request with
  | inStep inStep unaborted => exact inStep
  | @ended i backend backend' reply reply' stage stage' ends ends' calls =>
    obtain ⟨answer, answered, goes⟩ := accepted (0 + i) (ends.count ▸ Nat.lt_succ_self (0 + i))
    cases answered.symm.trans ends.replied
    cases goes.symm.trans ends.aborts

/-- Final responses of runs in step that were not ended before have the same entries, all in their shapes. -/
theorem sameEntries_of_going (inStep : (one.run transport context endpoint request).InStep
      (other.run transport context endpoint' request))
    (going : (one.run transport context endpoint request).response.isTerminal = false)
    (literal : ∀ backend ∈ one.stages endpoint, backend.modifiers.Literal)
    (literal' : ∀ backend ∈ other.stages endpoint', backend.modifiers.Literal) (goesOn : context.policy = .failOpen) :
    (one.handle transport context endpoint request).SameEntries (other.handle transport context endpoint' request) := by
  have going' := inStep.terminal.symm.trans going
  have entries : ∀ entry ∈ (one.run transport context endpoint request).response.history,
      entry.backend.modifiers.Literal := literal_entries literal transport request
  have entries' : ∀ entry ∈ (other.run transport context endpoint' request).response.history,
      entry.backend.modifiers.Literal := literal_entries literal' transport request
  refine ⟨?_, Response.history_write_settled inStep.response going entries entries' goesOn _ _⟩
  intro entry member
  rcases List.mem_append.mp member with here | there
  · exact Response.shaped_write going entries goesOn _ entry here
  · exact Response.shaped_write going' entries' goesOn _ entry there

/-- Whether backends shape their responses early or late, a run that no call and no status ends makes the same
calls and has the same final response. Its entries are the same and all in their shapes if every stage has a host. Else
that is so if and only if all stages before the first one without a host shape early. -/
theorem handle_sameOutcome_moments (gateways : one.timeless = other.timeless)
    (endpoints : endpoint.timeless = endpoint'.timeless)
    (literal : ∀ backend ∈ one.stages endpoint, backend.modifiers.Literal) (goesOn : context.policy = .failOpen)
    (answers : Nat → Except CallError Reply) (request : Request)
    (accepted : ∀ i < (one.handle (.byPosition answers) context endpoint request).calls.length,
      ∃ reply, answers i = .ok reply ∧ endpoint.aborts reply.status = false) :
    (one.handle (.byPosition answers) context endpoint request).SameOutcome
        (other.handle (.byPosition answers) context endpoint' request) ∧
      ((one.handle (.byPosition answers) context endpoint request).SameEntries
          (other.handle (.byPosition answers) context endpoint' request) ↔
        (∀ backend ∈ one.stages endpoint, backend.hosts ≠ []) ∨
          ∀ backend ∈ callable (one.stages endpoint) ++ callable (other.stages endpoint'),
            backend.response.apply = .early) := by
  have inStep := run_inStep gateways endpoints literal goesOn accepted
  have literal' := literal_of_timeless (stages_of_timeless gateways endpoints) literal
  have accepted' := accepted_of_timeless endpoints inStep.calls accepted
  refine ⟨⟨inStep.calls, Response.shown_write_settled inStep.response endpoints (literal_entries literal _ _)
    (literal_entries literal' _ _) goesOn _ _⟩, ?_⟩
  have fresh : ({ request := request } : Run).response.isTerminal = false := rfl
  have hosts := (history_of_accepted goesOn fresh accepted).1
  cases ended : (one.run (.byPosition answers) context endpoint request).response.isTerminal with
  | false => exact iff_of_true (sameEntries_of_going inStep ended literal literal' goesOn) (.inl (hosts.mp ended))
  | true =>
    have hostless : ¬ ∀ backend ∈ one.stages endpoint, backend.hosts ≠ [] :=
      fun every => Bool.false_ne_true ((hosts.mpr every).symm.trans ended)
    have ended' := inStep.terminal.symm.trans ended
    rw [handle_of_terminal ended, handle_of_terminal ended', inStep.sameEntries_iff, or_iff_right hostless,
      List.forall_mem_append, List.forall_mem_append]
    exact and_congr (shaped_of_backends goesOn fresh rfl accepted) (shaped_of_backends goesOn fresh rfl accepted')

/-- A backend that marks its responses, at a moment. -/
def marking (name : String) (moment : Moment) : Backend :=
  { name := name
    hosts := [name]
    modifiers := { header := [⟨.response, .add, "X-From", name, false⟩] }
    response := { apply := moment } }

/-- An endpoint with two backends that mark their responses, one middleware before them and one behind. -/
def markedEndpoint (first second : Moment) : Endpoint :=
  { path := "/users"
    beforewares := ["auth"]
    afterwares := ["audit"]
    backends := [marking "users" first, marking "orders" second]
    response := { aggregate := true }
    effective := { backendCount := 4 } }

/-- A gateway whose middlewares mark their responses too. -/
def markedGateway (first second : Moment) : Gateway :=
  { middlewares := .ofList [("auth", marking "auth" second), ("audit", marking "audit" first)]
    endpoints := [markedEndpoint first second] }

/-- What every backend replies. -/
def accountReply : Reply := ⟨200, Header.empty.set Header.contentType "application/json", "\x7b\"id\":1\x7d".toUTF8⟩

/-- Of four stages two shape early and two late, and then the other way round. -/
theorem handle_sameOutcome_marking :
    let run := (markedGateway .early .late).handle (.byPosition fun _ => .ok accountReply) ⟨"r", .failOpen, ⟨"", 0, ""⟩⟩
      (markedEndpoint .early .late) {}
    let other := (markedGateway .late .early).handle (.byPosition fun _ => .ok accountReply)
      ⟨"r", .failOpen, ⟨"", 0, ""⟩⟩ (markedEndpoint .late .early) {}
    run.calls.length = 4 ∧ run.SameOutcome other ∧ run.SameEntries other := by
  intro run other
  have literal : ∀ backend ∈ (markedGateway .early .late).stages (markedEndpoint .early .late),
      backend.modifiers.Literal := by decide +kernel
  have hosts : ∀ backend ∈ (markedGateway .early .late).stages (markedEndpoint .early .late), backend.hosts ≠ [] := by
    decide +kernel
  have accepted : ∀ i < run.calls.length, ∃ reply : Reply,
      (Except.ok accountReply : Except CallError Reply) = .ok reply ∧
        (markedEndpoint .early .late).aborts reply.status = false := by
    intro i _
    exact ⟨accountReply, rfl, by decide +kernel⟩
  have gateways : (markedGateway .early .late).timeless = (markedGateway .late .early).timeless := rfl
  have endpoints : (markedEndpoint .early .late).timeless = (markedEndpoint .late .early).timeless := rfl
  obtain ⟨outcome, entries⟩ := handle_sameOutcome_moments gateways endpoints literal rfl _ _ accepted
  exact ⟨by decide +kernel, outcome, entries.mpr (.inl hosts)⟩

/-- An endpoint that shapes the response of its first backend at a moment, and whose second backend has no host. -/
def hostlessEndpoint (moment : Moment) : Endpoint :=
  { path := "/users", backends := [marking "users" moment, { name := "orders" }] }

/-- The run is ended for want of a host, and its first entry is in its shape only if that was given to it early. -/
theorem not_sameEntries_hostless :
    let early : Gateway := { endpoints := [hostlessEndpoint .early] }
    let late : Gateway := { endpoints := [hostlessEndpoint .late] }
    let run := early.handle (.byPosition fun _ => .ok accountReply) ⟨"r", .failOpen, ⟨"", 0, ""⟩⟩
      (hostlessEndpoint .early) {}
    let other := late.handle (.byPosition fun _ => .ok accountReply) ⟨"r", .failOpen, ⟨"", 0, ""⟩⟩
      (hostlessEndpoint .late) {}
    early.timeless = late.timeless ∧ (hostlessEndpoint .early).timeless = (hostlessEndpoint .late).timeless ∧
      (∀ backend ∈ early.stages (hostlessEndpoint .early), backend.modifiers.Literal) ∧
      run.calls.length = 1 ∧ (hostlessEndpoint .early).aborts accountReply.status = false ∧
      run.response.history.map Entry.shaped = [true] ∧ other.response.history.map Entry.shaped = [false] ∧
      ¬ run.SameEntries other := by
  intro early late run other
  have kept : other.response.history.map Entry.shaped = [false] := by decide +kernel
  refine ⟨rfl, rfl, by decide +kernel, by decide +kernel, by decide +kernel, by decide +kernel, kept, ?_⟩
  rintro ⟨shaped, _⟩
  have each : ∀ mark ∈ other.response.history.map Entry.shaped, mark = true :=
    List.forall_mem_map.mpr fun entry member => shaped entry (List.mem_append_right _ member)
  rw [kept] at each
  cases each false List.mem_cons_self

end Config.Gateway
end Junction
