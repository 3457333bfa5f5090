import Junction.Proofs.Config.Layering
import Junction.Proofs.Engine.FinalHeader
import Junction.Proofs.Engine.Literal

/-!
Two counts of the backends of an endpoint that must be the same: how many are expected to answer, which is counted
from their names when a gateway is resolved, and how many entries a run leaves, which is counted call by call.
-/

namespace Junction

/-! ## Backends that are expected -/

namespace Config.Gateway

variable {gateway : Gateway} {endpoint : Endpoint}

theorem effective_of_mem_resolve (member : endpoint ∈ gateway.resolve.endpoints) :
    endpoint.effective = gateway.resolve.effective endpoint := by
  obtain ⟨raw, _, rfl⟩ := List.mem_map.mp member
  rfl

theorem length_known (gateway : Gateway) (names : List String) :
    (gateway.known names).length = (names.filter gateway.middlewares.contains).length := by
  rw [known, List.length_filterMap_eq_countP, List.countP_eq_length_filter]
  rfl

/-- As many backends run for an endpoint as are counted from their names: a name that occurs again counts again, one that
stands for no middleware counts for nothing. -/
theorem length_stages (gateway : Gateway) (endpoint : Endpoint) :
    (gateway.stages endpoint).length = gateway.backendCount endpoint := by
  simp only [stages, backendCount, List.length_append, List.filter_append, length_known]
  omega

end Config.Gateway

/-! ## Entries that are left -/

namespace Run

variable {transport : Transport} {context : Context} {endpoint : Config.Endpoint} {backend : Config.Backend}
  {run after : Run} {stages : List Config.Backend}

/-- A backend never writes the final response. -/
theorem written_of_step (step : Step transport context endpoint backend run after) :
    after.response.written = run.response.written := by
  cases step with
  | withheld withholds => exact Response.written_fail ..
  | unanswered sends failed => exact Response.written_fail ..
  | unshaped sends replied failed => exact Response.written_fail ..
  | aborting sends replied kept aborts => exact Response.written_abortWith ..
  | answered sends replied kept goesOn => exact Response.written_append ..

theorem history_of_backends (goes : (backends transport context endpoint stages run).response.isTerminal = false) :
    (backends transport context endpoint stages run).response.history.length =
        run.response.history.length + stages.length ∧
      (backends transport context endpoint stages run).response.failure? = run.response.failure? := by
  induction stages generalizing run with
  | nil => exact ⟨rfl, rfl⟩
  | cons next rest ih =>
    simp only [backends] at goes ⊢
    split at goes
    · rename_i stopped
      cases stopped.symm.trans goes
    · rename_i running
      have step : Step transport context endpoint next run (run.backend transport context endpoint next) := step_backend
      obtain ⟨request, snapshot, reply, entry, _, _, _, _, appended⟩ := answered_of_going step (by simpa using running)
      have going : run.response.isTerminal = false := by
        have still : (run.response.append entry).isTerminal = false := by simpa [appended] using running
        exact (Response.isTerminal_append entry).symm.trans still
      obtain ⟨length, sound⟩ := ih goes
      rw [if_neg running, length, sound, appended, Response.history_append going, Response.failure_append,
        List.length_append, List.length_singleton, List.length_cons]
      exact ⟨by omega, rfl⟩

theorem written_of_backends (stages : List Config.Backend) (run : Run) :
    (backends transport context endpoint stages run).response.written = run.response.written := by
  induction stages generalizing run with
  | nil => rfl
  | cons next rest ih =>
    have here : (run.backend transport context endpoint next).response.written = run.response.written :=
      written_of_step step_backend
    simp only [backends]
    split
    · exact here
    · exact (ih _).trans here

end Run

namespace Config.Gateway

/-- A response that is written is neither aborted nor that of a failure. -/
theorem handle_written {gateway : Gateway} {transport : Transport} {context : Context} {endpoint : Endpoint}
    {request : Request} (written : (gateway.handle transport context endpoint request).response.written = true) :
    (gateway.handle transport context endpoint request).response.aborted = false ∧
      (gateway.handle transport context endpoint request).response.failure? = none := by
  have unwritten : (gateway.run transport context endpoint request).response.written = false :=
    Run.written_of_backends (gateway.stages endpoint) { request := request }
  simp only [handle] at written ⊢
  cases going : (gateway.run transport context endpoint request).response.isTerminal with
  | true =>
    rw [Response.write_terminal going, unwritten] at written
    cases written
  | false =>
    obtain ⟨entries, made, _, _, final⟩ := Response.write_of_written going written
    rw [final]
    exact ⟨(Bool.or_eq_false_iff.mp going).1, (Run.history_of_backends going).2⟩

variable {format : FileFormat} {text : String} {gateway : Gateway}

theorem resolve_of_parse (parsed : parse format text = .ok gateway) : ∃ raw : Gateway, gateway = raw.resolve := by
  obtain ⟨raw, _, same⟩ := resolved_of_parse parsed
  exact ⟨raw, same⟩

/-- The backends of an endpoint are counted the same by its gateway and by its runs, as often as the gateway is
resolved. A run that is not over has an entry of each, and says so when it is written; one that is over is aborted and is
its own final response. -/
theorem parse_counts (parsed : parse format text = .ok gateway) :
    gateway.resolve = gateway ∧
      ∀ endpoint ∈ gateway.endpoints, ∀ (transport : Transport) (context : Context) (request : Request),
        let run := gateway.run transport context endpoint request
        let final := run.response.write context endpoint run.request
        (run.response.isTerminal = false →
          run.response.history.length = endpoint.effective.backendCount ∧
            (final.written = true → final.header.get? Header.complete = some "true")) ∧
        (run.response.isTerminal = true → run.response.aborted = true ∧ final = run.response) := by
  obtain ⟨raw, rfl⟩ := resolve_of_parse parsed
  refine ⟨resolve_resolve raw, ?_⟩
  intro endpoint member transport context request run final
  refine ⟨?_, ?_⟩
  · intro going
    have counted : run.response.history.length = endpoint.effective.backendCount := by
      calc run.response.history.length
          = (raw.resolve.stages endpoint).length := (Run.history_of_backends going).1.trans (Nat.zero_add _)
        _ = raw.resolve.backendCount endpoint := length_stages raw.resolve endpoint
        _ = endpoint.effective.backendCount := by rw [effective_of_mem_resolve member]; rfl
    refine ⟨counted, ?_⟩
    intro written
    obtain ⟨entries, made, shapes, assembled, same⟩ := Response.write_of_written going written
    have complete : Response.isComplete endpoint entries = true := by
      rw [Response.isComplete, ← shapes.length_eq, counted, beq_self_eq_true]
    have header : final.header = made.2.1 := congrArg Response.header same
    rw [header, Response.header_of_assemble assembled, (Response.headerTells_finalHeader endpoint entries).complete_first,
      complete]
    rfl
  · intro terminal
    have unwritten : run.response.written = false := Run.written_of_backends (raw.resolve.stages endpoint) { request := request }
    rw [Response.isTerminal, unwritten, Bool.or_false] at terminal
    exact ⟨terminal, Response.write_terminal (by rw [Response.isTerminal, terminal, Bool.true_or]) ..⟩

/-- A gateway one endpoint of which names a middleware twice. -/
def sharedText : String :=
  "\x7b\"middlewares\":\x7b\"auth\":\x7b\"hosts\":[\"a\"]\x7d\x7d,\"endpoints\":[\x7b\"path\":\"/e\"," ++
    "\"beforewares\":[\"auth\",\"auth\"],\"backends\":[\x7b\"hosts\":[\"b\"]\x7d]\x7d]\x7d"

/-- A transport that answers every call with an empty object. -/
def answering : Transport := fun _ _ => .ok ⟨200, Header.empty.set Header.contentType "application/json", "\x7b\x7d".toUTF8⟩

/-- The gateway has one endpoint, the runs of which go on to their end, and three backends are expected of it. -/
def runsThree (gateway : Gateway) : Bool :=
  gateway.endpoints.length == 1 && gateway.endpoints.all fun endpoint =>
    endpoint.effective.backendCount == 3 && !(gateway.run answering default endpoint {}).response.isTerminal

theorem parse_counts_shared : ∃ gateway, parse .json sharedText = .ok gateway ∧ gateway.resolve = gateway ∧
    gateway.endpoints.length = 1 ∧
    ∀ endpoint ∈ gateway.endpoints, (gateway.run answering default endpoint {}).response.history.length = 3 := by
  have checked : ((parse .json sharedText).toOption.map runsThree) = some true := by decide +kernel
  cases parsed : parse .json sharedText with
  | error error =>
    rw [parsed] at checked
    cases checked
  | ok gateway =>
    rw [parsed] at checked
    have three : runsThree gateway = true := Option.some.inj checked
    obtain ⟨one, whole⟩ := Bool.and_eq_true_iff.mp three
    obtain ⟨settled, counted⟩ := parse_counts parsed
    refine ⟨gateway, rfl, settled, beq_iff_eq.mp one, ?_⟩
    intro endpoint member
    obtain ⟨expected, going⟩ : endpoint.effective.backendCount = 3 ∧
        (gateway.run answering default endpoint {}).response.isTerminal = false := by
      simpa using List.all_eq_true.mp whole endpoint member
    exact ((counted endpoint member answering default {}).1 going).1.trans expected

end Config.Gateway
end Junction
