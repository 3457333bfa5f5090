import Junction.Proofs.Engine.Step
import Junction.Proofs.Exchange.Response
import Mathlib.Data.List.Induction

/-!
The calls of a run and their order. A run that goes on has called every backend so far and has an entry for
each of them (`Going`); a step keeps that (`going_concat`) or ends the run (`run_ends`).
-/

namespace Junction
open Outcome

/-- What came of calls, one after another; `earlier` are the calls before them. -/
def outcomes (transport : Transport) : (earlier : List Call) → List Call → List (Except CallError Reply)
  | _, [] => []
  | earlier, call :: later => transport earlier call :: outcomes transport (earlier ++ [call]) later

theorem outcomes_concat (transport : Transport) (earlier calls : List Call) (call : Call) :
    outcomes transport earlier (calls ++ [call]) =
      outcomes transport earlier calls ++ [transport (earlier ++ calls) call] := by
  induction calls generalizing earlier with
  | nil => simp [outcomes]
  | cons first rest ih => simp [outcomes, ih]

theorem outcomes_length (transport : Transport) (earlier calls : List Call) :
    (outcomes transport earlier calls).length = calls.length := by
  induction calls generalizing earlier with
  | nil => rfl
  | cons first rest ih => simp [outcomes, ih]

/-- Entries that answer calls to backends: one for each call, of its backend and with the status of its reply. -/
def Answers (entries : List Entry) (backends : List Config.Backend)
    (results : List (Except CallError Reply)) : Prop :=
  ∃ replies : List Reply, results = replies.map .ok ∧ entries.map (·.status) = replies.map (·.status) ∧
    entries.map (·.backend) = backends

theorem answers_concat {entries : List Entry} {backends : List Config.Backend}
    {results : List (Except CallError Reply)} (answers : Answers entries backends results) {entry : Entry}
    {reply : Reply} (status : entry.status = reply.status) :
    Answers (entries ++ [entry]) (backends ++ [entry.backend]) (results ++ [.ok reply]) := by
  obtain ⟨replies, replied, statuses, same⟩ := answers
  refine ⟨replies ++ [reply], ?_, ?_, ?_⟩
  · simp [replied]
  · simp [statuses, status]
  · simp [same]

theorem answers_length {entries : List Entry} {backends : List Config.Backend}
    {results : List (Except CallError Reply)} (answers : Answers entries backends results) :
    results.length = backends.length := by
  obtain ⟨replies, replied, statuses, same⟩ := answers
  have fromStatuses := congrArg List.length statuses
  simp only [List.length_map] at fromStatuses
  rw [replied, ← same, List.length_map, List.length_map, fromStatuses]

namespace Run

variable {transport : Transport} {context : Context} {endpoint : Config.Endpoint} {backend : Config.Backend}
  {run after : Run}

/-! ## Single steps -/

/-- A step makes at most one call, of what its backend is sent. -/
theorem step_calls (step : Step transport context endpoint backend run after) :
    (after.calls = run.calls ∧ after.request.history = run.request.history) ∨
      ∃ request snapshot, Sends context backend run request snapshot ∧
        after.calls = run.calls ++ [snapshot.call] ∧
        after.request.history = run.request.history ++ [snapshot] := by
  have called : ∀ {request : Request} {snapshot : Snapshot}, Sends context backend run request snapshot →
      (run.called request snapshot).request.history = run.request.history ++ [snapshot] := by
    intro request snapshot sends
    simp [Run.called, Request.record, Request.applyRules_history sends.propagated]
  cases step with
  | withheld withholds =>
    left
    refine ⟨rfl, ?_⟩
    cases withholds with
    | propagating failed => exact (Request.applyRules_error failed).1
    | sending propagated failed => exact Request.applyRules_history propagated
  | unanswered sends failed => exact .inr ⟨_, _, sends, rfl, called sends⟩
  | unshaped sends replied failed => exact .inr ⟨_, _, sends, rfl, called sends⟩
  | aborting sends replied kept aborts => exact .inr ⟨_, _, sends, rfl, called sends⟩
  | answered sends replied kept goesOn => exact .inr ⟨_, _, sends, rfl, called sends⟩

theorem Sends.host {request : Request} {snapshot : Snapshot} (sends : Sends context backend run request snapshot) :
    backend.hosts.getLast? = some snapshot.host := by
  have taken := sends.taken
  unfold Config.Backend.snapshot at taken
  split at taken
  · cases taken
  · rename_i host last
    split at taken
    · cases taken
    · cases taken
      exact last

/-! ## Runs that go on -/

/-- A run that goes on after the backends `done`: each of them was called once, in order, and has an entry. -/
structure Going (transport : Transport) (context : Context) (endpoint : Config.Endpoint) (start : Run)
    (done : List Config.Backend) (run : Run) : Prop where
  going : run.response.isTerminal = false
  sound : run.response.failure? = none
  recorded : run.calls = run.request.history.map Snapshot.call
  answers : Answers run.response.history done (outcomes transport [] run.calls)
  accepted : ∀ outcome ∈ outcomes transport [] run.calls,
    ∃ reply, outcome = .ok reply ∧ endpoint.aborts reply.status = false
  sent : ∀ before next later, done = before ++ next :: later →
    ∃ request snapshot, run.request.history[before.length]? = some snapshot ∧
      Sends context next (backends transport context endpoint before start) request snapshot

theorem going_count {start : Run} {done : List Config.Backend}
    (inv : Going transport context endpoint start done run) :
    run.calls.length = done.length ∧ run.request.history.length = done.length := by
  have count := answers_length inv.answers
  rw [outcomes_length] at count
  have recorded := congrArg List.length inv.recorded
  rw [List.length_map] at recorded
  exact ⟨count, recorded ▸ count⟩

theorem split_concat {α : Type} {xs before later : List α} {x y : α} (split : xs ++ [x] = before ++ y :: later) :
    (xs = before ∧ x = y) ∨ ∃ more, xs = before ++ y :: more := by
  rcases List.eq_nil_or_concat later with rfl | ⟨more, last, rfl⟩
  · left
    have parts := List.append_inj' split rfl
    exact ⟨parts.1, by simpa using parts.2⟩
  · right
    have regrouped : xs ++ [x] = (before ++ y :: more) ++ [last] := by simpa using split
    exact ⟨more, (List.append_inj' regrouped rfl).1⟩

/-- A step that does not end a run keeps it going: it has sent one snapshot and received one entry more. -/
theorem going_concat {start : Run} {done : List Config.Backend}
    (inv : Going transport context endpoint start done run)
    (place : run = backends transport context endpoint done start)
    (step : Step transport context endpoint backend run after) (goes : after.response.isTerminal = false) :
    Going transport context endpoint start (done ++ [backend]) after := by
  obtain ⟨request, snapshot, reply, entry, sends, replied, kept, goesOn, rfl⟩ := answered_of_going step goes
  obtain ⟨sameBackend, sameStatus⟩ := kept_sameReply kept
  have history : (run.called request snapshot).request.history = run.request.history ++ [snapshot] := by
    simp [Run.called, Request.record, Request.applyRules_history sends.propagated]
  have results : outcomes transport [] (run.calls ++ [snapshot.call]) =
      outcomes transport [] run.calls ++ [.ok reply] := by
    rw [outcomes_concat, List.nil_append, replied]
  refine ⟨goes, (Response.failure_append entry).trans inv.sound, ?_, ?_, ?_, ?_⟩
  · change run.calls ++ [snapshot.call] = _
    rw [history, List.map_append, ← inv.recorded]
    rfl
  · change Answers (run.response.append entry).history _ (outcomes transport [] (run.calls ++ [snapshot.call]))
    rw [Response.history_append inv.going, results]
    have status : entry.status = reply.status := sameStatus
    have grown := answers_concat inv.answers status
    rwa [sameBackend] at grown
  · change ∀ outcome ∈ outcomes transport [] (run.calls ++ [snapshot.call]), _
    rw [results]
    intro outcome member
    rcases List.mem_append.mp member with earlier | last
    · exact inv.accepted outcome earlier
    · refine ⟨reply, by simpa using last, ?_⟩
      have same : entry.status = reply.status := sameStatus
      rw [← same]
      exact goesOn
  · intro before next later split
    rw [history]
    rcases split_concat split with ⟨rfl, rfl⟩ | ⟨more, rfl⟩
    · refine ⟨request, snapshot, ?_, place ▸ sends⟩
      rw [← (going_count inv).2]
      simp
    · obtain ⟨left, sent, found, earlier⟩ := inv.sent before next more rfl
      refine ⟨left, sent, ?_, earlier⟩
      rw [List.getElem?_append_left (List.getElem?_eq_some_iff.mp found).1]
      exact found

/-! ## Whole runs -/

theorem backends_append (transport : Transport) (context : Context) (endpoint : Config.Endpoint) {start : Run}
    (going : start.response.isTerminal = false) (done rest : List Config.Backend) :
    backends transport context endpoint (done ++ rest) start =
      if (backends transport context endpoint done start).response.isTerminal then
        backends transport context endpoint done start
      else backends transport context endpoint rest (backends transport context endpoint done start) := by
  induction done generalizing start with
  | nil => simp [backends, going]
  | cons next done ih =>
    by_cases stopped : (start.backend transport context endpoint next).response.isTerminal = true
    · simp [backends, stopped]
    · have goes : (start.backend transport context endpoint next).response.isTerminal = false := by simpa using stopped
      simp [backends, goes, ih goes]

theorem backends_concat_of_going {start : Run} (going : start.response.isTerminal = false)
    {done : List Config.Backend} (goes : (backends transport context endpoint done start).response.isTerminal = false)
    (next : Config.Backend) :
    backends transport context endpoint (done ++ [next]) start =
      (backends transport context endpoint done start).backend transport context endpoint next := by
  rw [backends_append transport context endpoint going, goes]
  simp [backends]

/-- A run that has ended leaves out all backends that follow. -/
theorem backends_append_of_stopped {start : Run} (going : start.response.isTerminal = false)
    {done : List Config.Backend} (stopped : (backends transport context endpoint done start).response.isTerminal = true)
    (rest : List Config.Backend) :
    backends transport context endpoint (done ++ rest) start = backends transport context endpoint done start := by
  rw [backends_append transport context endpoint going, if_pos stopped]

/-- The run that an endpoint starts with. -/
def initial (request : Request) : Run := { request := request }

theorem initial_going (request : Request) : (initial request).response.isTerminal = false := rfl

/-- The run goes on through all backends, or ends at one of them. -/
theorem run_ends (transport : Transport) (context : Context) (endpoint : Config.Endpoint) {request : Request}
    (fresh : request.history = []) (stages : List Config.Backend) :
    Going transport context endpoint (initial request) stages
        (backends transport context endpoint stages (initial request)) ∨
      ∃ done next rest, stages = done ++ next :: rest ∧
        Going transport context endpoint (initial request) done
          (backends transport context endpoint done (initial request)) ∧
        Step transport context endpoint next (backends transport context endpoint done (initial request))
          (backends transport context endpoint stages (initial request)) ∧
        (backends transport context endpoint stages (initial request)).response.isTerminal = true := by
  induction stages using List.reverseRecOn with
  | nil =>
    left
    refine ⟨rfl, rfl, ?_, ⟨[], rfl, rfl, rfl⟩, ?_, ?_⟩
    · simp [backends, initial, fresh]
    · intro outcome member
      cases member
    · intro before next later split
      simp at split
  | append_singleton stages next ih =>
    rcases ih with inv | ⟨done, last, rest, rfl, inv, step, stopped⟩
    · rw [backends_concat_of_going (initial_going request) inv.going]
      have step : Step transport context endpoint next (backends transport context endpoint stages (initial request))
          ((backends transport context endpoint stages (initial request)).backend transport context endpoint next) :=
        step_backend
      cases goes : ((backends transport context endpoint stages (initial request)).backend transport context
          endpoint next).response.isTerminal with
      | false => exact .inl (going_concat inv rfl step goes)
      | true => exact .inr ⟨stages, next, [], rfl, inv, step, rfl⟩
    · right
      rw [backends_append_of_stopped (initial_going request) stopped]
      exact ⟨done, last, rest ++ [next], by simp, inv, step, stopped⟩

/-! ## Changes that end a run -/

/-- The reply of a backend comes, and shaping it fails. -/
structure Unshaped (transport : Transport) (context : Context) (backend : Config.Backend) (run : Run)
    (reply : Reply) (failure : Failure) (request : Request) (snapshot : Snapshot) : Prop where
  sends : Sends context backend run request snapshot
  replied : transport run.calls snapshot.call = .ok reply
  failed : (run.called request snapshot).kept context (reply.entry backend) = .error failure

/-- A change fails at a backend in a way that ends the run: a rule of its request, or the shaping of its reply. -/
inductive ChangeFails (transport : Transport) (context : Context) (backend : Config.Backend) (run : Run)
    (cause : BodyError) : Prop where
  | rule {request : Request} (withholds : Withholds context backend run request (.change cause))
  | shaping {reply : Reply} {request : Request} {snapshot : Snapshot}
      (unshaped : Unshaped transport context backend run reply (.change cause) request snapshot)

theorem receive_unshaped {entry : Entry} {failure : Failure} (failed : run.kept context entry = .error failure) :
    run.receive context endpoint entry = run.fail context endpoint failure := by
  rw [receive_eq, failed]

theorem backend_changeFails (endpoint : Config.Endpoint) {cause : BodyError} (going : run.response.isTerminal = false)
    (fails : ChangeFails transport context backend run cause) :
    (run.backend transport context endpoint backend).response.isTerminal = true ∧
      (run.backend transport context endpoint backend).response.status = 500 ∧
      (run.backend transport context endpoint backend).response.failure? = some (.change cause) := by
  cases fails with
  | rule withholds =>
    rw [backend_withholds withholds]
    obtain ⟨aborted, status, failure⟩ := Response.fail_going going context.stamp endpoint.path (.change cause)
    exact ⟨Response.isTerminal_fail .., status, failure⟩
  | shaping unshaped =>
    rw [backend_sends unshaped.sends, unshaped.replied]
    dsimp only
    rw [receive_unshaped unshaped.failed]
    obtain ⟨aborted, status, failure⟩ := Response.fail_going going context.stamp endpoint.path (.change cause)
    exact ⟨Response.isTerminal_fail .., status, failure⟩

/-! ## The calls of a run -/

/-- What the calls of a run are. `stages` are the backends in their order, `reached` the run after the first of
them. -/
structure CallsInOrder (transport : Transport) (context : Context) (endpoint : Config.Endpoint)
    (stages : List Config.Backend) (reached : List Config.Backend → Run) (run : Run) : Prop where
  /-- The history of the request is what was sent. -/
  recorded : run.calls = run.request.history.map Snapshot.call
  /-- Calls go to the first backends, to each the snapshot that the run before it takes for it. -/
  addressed : ∃ called, called <+: stages ∧ called.length = run.calls.length ∧
    ∀ before next later, called = before ++ next :: later → ∃ request snapshot,
      run.request.history[before.length]? = some snapshot ∧ next.hosts.getLast? = some snapshot.host ∧
        Sends context next (reached before) request snapshot
  /-- No call follows one without a reply, or with a reply that ends the run. -/
  stopsAtCall : ∀ outcome ∈ (outcomes transport [] run.calls).dropLast,
    ∃ reply, outcome = .ok reply ∧ endpoint.aborts reply.status = false
  /-- No call follows a change that ends the run. -/
  stopsAtChange : ∀ done next rest cause, stages = done ++ next :: rest →
    (reached done).response.isTerminal = false → ChangeFails transport context next (reached done) cause →
    run = reached (done ++ [next]) ∧ run.response.isTerminal = true ∧ run.response.status = 500 ∧
      run.response.failure? = some (.change cause)
  /-- A run that goes on has called all backends and has an entry of each reply. -/
  complete : run.response.isTerminal = false → run.calls.length = stages.length ∧
    Answers run.response.history stages (outcomes transport [] run.calls)
  /-- A last reply that aborts is the response, unless shaping it ends the run first. -/
  aborting : ∀ earlier reply, outcomes transport [] run.calls = earlier ++ [.ok reply] →
    endpoint.aborts reply.status = true →
    run.response.aborted = true ∧ ∃ done next rest, stages = done ++ next :: rest ∧
      (reached done).response.isTerminal = false ∧ run.response.history = (reached done).response.history ∧
      Answers run.response.history done earlier ∧
      ((run.response.status = reply.status ∧ run.response.failure? = none) ∨
        ∃ cause request snapshot, context.policy = .failClosed ∧ next.response.apply = .early ∧
          Unshaped transport context next (reached done) reply (.change cause) request snapshot ∧
          run.response.status = 500 ∧ run.response.failure? = some (.change cause))

variable {done : List Config.Backend} {next : Config.Backend} {start : Run}

theorem sent_of_going (inv : Going transport context endpoint start done run) {before later : List Config.Backend}
    (split : done = before ++ next :: later) : ∃ request snapshot,
      run.request.history[before.length]? = some snapshot ∧ next.hosts.getLast? = some snapshot.host ∧
        Sends context next (backends transport context endpoint before start) request snapshot := by
  obtain ⟨request, snapshot, found, sends⟩ := inv.sent before next later split
  exact ⟨request, snapshot, found, sends.host, sends⟩

/-- A run that ends at a backend has called those before it, and this one at most. -/
theorem addressed_of_step (rest : List Config.Backend)
    (inv : Going transport context endpoint start done (backends transport context endpoint done start))
    (step : Step transport context endpoint next (backends transport context endpoint done start) after) :
    after.calls = after.request.history.map Snapshot.call ∧
      ∃ called, called <+: done ++ next :: rest ∧ called.length = after.calls.length ∧
        ∀ before next later, called = before ++ next :: later → ∃ request snapshot,
          after.request.history[before.length]? = some snapshot ∧ next.hosts.getLast? = some snapshot.host ∧
            Sends context next (backends transport context endpoint before start) request snapshot := by
  have counts := going_count inv
  rcases step_calls step with ⟨calls, history⟩ | ⟨request, snapshot, sends, calls, history⟩
  · rw [calls, history]
    refine ⟨inv.recorded, done, ⟨next :: rest, rfl⟩, counts.1.symm, ?_⟩
    intro before last later split
    exact sent_of_going inv split
  · rw [calls, history]
    refine ⟨?_, done ++ [next], ⟨rest, by simp⟩, ?_, ?_⟩
    · rw [List.map_append, ← inv.recorded]
      rfl
    · simp [counts.1]
    · intro before last later split
      rcases split_concat split with ⟨rfl, rfl⟩ | ⟨more, split⟩
      · refine ⟨request, snapshot, ?_, sends.host, sends⟩
        rw [← counts.2]
        simp
      · obtain ⟨left, sent, found, host, earlier⟩ := sent_of_going inv split
        refine ⟨left, sent, ?_, host, earlier⟩
        rw [List.getElem?_append_left (List.getElem?_eq_some_iff.mp found).1]
        exact found

/-- All outcomes but the last are replies that do not end the run. -/
theorem accepted_of_step (inv : Going transport context endpoint start done run)
    (step : Step transport context endpoint next run after) :
    ∀ outcome ∈ (outcomes transport [] after.calls).dropLast,
      ∃ reply, outcome = .ok reply ∧ endpoint.aborts reply.status = false := by
  intro outcome member
  rcases step_calls step with ⟨calls, history⟩ | ⟨request, snapshot, sends, calls, history⟩
  · rw [calls] at member
    exact inv.accepted outcome (List.dropLast_subset _ member)
  · rw [calls, outcomes_concat, List.dropLast_concat] at member
    exact inv.accepted outcome member

/-- The calls of a run that goes on do not end with a reply that aborts. -/
theorem not_aborts_of_going (inv : Going transport context endpoint start done run)
    {earlier : List (Except CallError Reply)} {reply : Reply}
    (results : outcomes transport [] run.calls = earlier ++ [.ok reply]) : endpoint.aborts reply.status = false := by
  obtain ⟨same, replied, accepted⟩ := inv.accepted (.ok reply) (by simp [results])
  cases replied
  exact accepted

/-- A run that ends with a reply that aborts has its status, unless shaping the reply fails. -/
theorem aborting_of_step (inv : Going transport context endpoint start done run)
    (step : Step transport context endpoint next run after) {earlier : List (Except CallError Reply)} {reply : Reply}
    (results : outcomes transport [] after.calls = earlier ++ [.ok reply])
    (aborts : endpoint.aborts reply.status = true) :
    after.response.aborted = true ∧ after.response.history = run.response.history ∧
      outcomes transport [] run.calls = earlier ∧
      ((after.response.status = reply.status ∧ after.response.failure? = none) ∨
        ∃ cause request snapshot, context.policy = .failClosed ∧ next.response.apply = .early ∧
          Unshaped transport context next run reply (.change cause) request snapshot ∧
          after.response.status = 500 ∧ after.response.failure? = some (.change cause)) := by
  have latest : ∀ {snapshot : Snapshot}, outcomes transport [] (run.calls ++ [snapshot.call]) = earlier ++ [.ok reply] →
      outcomes transport [] run.calls = earlier ∧ transport run.calls snapshot.call = .ok reply := by
    intro snapshot same
    rw [outcomes_concat] at same
    have parts := List.append_inj' same rfl
    exact ⟨parts.1, by simpa using parts.2⟩
  cases step with
  | withheld withholds =>
    rw [not_aborts_of_going inv results] at aborts
    cases aborts
  | unanswered sends failed =>
    rw [(latest results).2] at failed
    cases failed
  | @unshaped request snapshot answer failure sends replied failed =>
    obtain ⟨same, last⟩ := latest results
    rw [last] at replied
    cases replied
    obtain ⟨early, closed, cause, rfl⟩ := kept_error failed
    obtain ⟨aborted, status, failure⟩ :=
      Response.fail_going inv.going context.stamp endpoint.path (.change cause)
    exact ⟨aborted, Response.history_fail .., same,
      .inr ⟨cause, request, snapshot, closed, early, ⟨sends, last, failed⟩, status, failure⟩⟩
  | @aborting request snapshot answer entry sends replied kept aborts =>
    obtain ⟨same, last⟩ := latest results
    rw [last] at replied
    cases replied
    obtain ⟨aborted, status, failure⟩ := Response.abortWith_going inv.going entry
    exact ⟨aborted, Response.history_abortWith .., same,
      .inl ⟨status.trans (kept_sameReply kept).2, failure.trans inv.sound⟩⟩
  | @answered request snapshot answer entry sends replied kept goesOn =>
    obtain ⟨same, last⟩ := latest results
    rw [last] at replied
    cases replied
    rw [(kept_sameReply kept).2] at goesOn
    cases goesOn.symm.trans aborts

theorem stopsAtChange (transport : Transport) (context : Context) (endpoint : Config.Endpoint) (request : Request)
    (done rest : List Config.Backend) (next : Config.Backend) (cause : BodyError)
    (going : (backends transport context endpoint done (initial request)).response.isTerminal = false)
    (fails : ChangeFails transport context next (backends transport context endpoint done (initial request)) cause) :
    backends transport context endpoint (done ++ next :: rest) (initial request) =
        backends transport context endpoint (done ++ [next]) (initial request) ∧
      (backends transport context endpoint (done ++ [next]) (initial request)).response.isTerminal = true ∧
      (backends transport context endpoint (done ++ [next]) (initial request)).response.status = 500 ∧
      (backends transport context endpoint (done ++ [next]) (initial request)).response.failure? =
        some (.change cause) := by
  have ended := backend_changeFails endpoint going fails
  rw [← backends_concat_of_going (initial_going request) going next] at ended
  refine ⟨?_, ended⟩
  have split : done ++ next :: rest = (done ++ [next]) ++ rest := by simp
  rw [split]
  exact backends_append_of_stopped (initial_going request) ended.1 rest

end Run

open Run

/-- The calls of an endpoint are made in order, to the first of its stages, and are all that is in the history of
the request. They stop at a call that fails, at a reply that aborts and at a change that fails. -/
theorem Config.Gateway.run_callsInOrder (gateway : Config.Gateway) (transport : Transport) (context : Context)
    (endpoint : Config.Endpoint) (request : Request) (fresh : request.history = []) :
    CallsInOrder transport context endpoint (gateway.stages endpoint)
      (fun done => Run.backends transport context endpoint done { request := request })
      (gateway.run transport context endpoint request) := by
  change CallsInOrder transport context endpoint (gateway.stages endpoint)
    (fun done => Run.backends transport context endpoint done (initial request))
    (Run.backends transport context endpoint (gateway.stages endpoint) (initial request))
  have stops := stopsAtChange transport context endpoint request
  rcases run_ends transport context endpoint fresh (gateway.stages endpoint) with
    inv | ⟨done, next, rest, split, inv, step, stopped⟩
  · have count := (going_count inv).1
    refine ⟨inv.recorded, ?_, ?_, ?_, ?_, ?_⟩
    · refine ⟨gateway.stages endpoint, List.prefix_rfl, count.symm, ?_⟩
      intro before next later split
      exact sent_of_going inv split
    · intro outcome member
      exact inv.accepted outcome (List.dropLast_subset _ member)
    · intro done next rest cause split going fails
      rw [split]
      obtain ⟨same, ended⟩ := stops done rest next cause going fails
      exact ⟨same, same ▸ ended⟩
    · intro going
      exact ⟨count, inv.answers⟩
    · intro earlier reply results aborts
      rw [not_aborts_of_going inv results] at aborts
      cases aborts
  · obtain ⟨recorded, addressed⟩ := addressed_of_step rest inv step
    refine ⟨recorded, split ▸ addressed, accepted_of_step inv step, ?_, ?_, ?_⟩
    · intro done next rest cause split going fails
      rw [split]
      obtain ⟨same, ended⟩ := stops done rest next cause going fails
      exact ⟨same, same ▸ ended⟩
    · intro going
      cases stopped.symm.trans going
    · intro earlier reply results aborts
      obtain ⟨aborted, history, before, status⟩ := aborting_of_step inv step results aborts
      refine ⟨aborted, done, next, rest, split, inv.going, history, ?_, status⟩
      rw [history, ← before]
      exact inv.answers

/-- A context in which a change that fails ends the run. -/
def strictContext : Context := ⟨"", .failClosed, ⟨"", 0, ""⟩⟩

/-- A gateway with a middleware that shapes late and one that shapes early. -/
def stagedGateway : Config.Gateway :=
  { middlewares := .ofList
      [("auth", { name := "auth", hosts := ["auth"], response := { apply := .late } }),
        ("audit", { name := "audit", hosts := ["audit"] })] }

/-- An endpoint with two backends, a middleware before them and one behind; one more middleware is unknown. -/
def stagedEndpoint : Config.Endpoint :=
  { path := "/e"
    beforewares := ["auth", "missing"]
    afterwares := ["audit"]
    backends :=
      [{ name := "users", hosts := ["users"], modifiers := { body := [⟨.response, .set, "seen", "1", false⟩] } },
        { name := "orders", hosts := ["orders"], response := { apply := .late } }] }

/-- A transport whose third reply has a status that aborts. -/
def thirdAborts : Transport := fun earlier _ =>
  .ok ⟨if earlier.length = 2 then 404 else 200, .empty, "\x7b\x7d".toUTF8⟩

/-- Of four stages three are called. -/
theorem run_callsInOrder_staged : ({} : Request).history = [] ∧ (stagedGateway.stages stagedEndpoint).length = 4 ∧
    (stagedGateway.run thirdAborts strictContext stagedEndpoint {}).calls.length = 3 ∧
    CallsInOrder thirdAborts strictContext stagedEndpoint (stagedGateway.stages stagedEndpoint)
      (fun done => Run.backends thirdAborts strictContext stagedEndpoint done { request := {} })
      (stagedGateway.run thirdAborts strictContext stagedEndpoint {}) :=
  ⟨rfl, by decide +kernel, by decide +kernel, stagedGateway.run_callsInOrder _ _ _ {} rfl⟩

/-- An endpoint of one backend with a rule that its replies must be JSON for. -/
def ruledEndpoint : Config.Endpoint :=
  { path := "/e"
    backends := [{ name := "svc", hosts := ["svc"], modifiers := { body := [⟨.response, .set, "a", "1", false⟩] } }] }

/-- A reply that is not the JSON it says it is. -/
def garbledReply : Reply := ⟨404, Header.empty.set Header.contentType "application/json", ⟨#[0xff]⟩⟩

/-- The last reply aborts and its status is lost, for the change of its body fails first. -/
theorem run_status_of_garbledReply :
    (({} : Config.Gateway).run (fun _ _ => .ok garbledReply) strictContext ruledEndpoint {}).calls.length = 1 ∧
      ruledEndpoint.aborts garbledReply.status = true ∧
      (({} : Config.Gateway).run (fun _ _ => .ok garbledReply) strictContext ruledEndpoint {}).response.status ≠
        garbledReply.status := by
  decide +kernel

end Junction
