import Junction.Proofs.Config.Moment
import Junction.Proofs.Engine.LocalRules

/-!
Two runs in step, over stages that differ in nothing but the moments at which responses are shaped. They make
the same calls and have the same response once its entries are in their shapes (`Run.InStep`), until a reply ends
them by its status: what the client gets then is that reply as the run has kept it, which is where the moment
counts (`backends_inStep`).
-/

namespace Junction

namespace Config.Backend

variable {one other : Backend}

theorem shapesLike_timeless (backend : Backend) : backend.timeless.ShapesLike backend := ⟨rfl, rfl⟩

theorem modifiers_of_timeless (same : one.timeless = other.timeless) : one.modifiers = other.modifiers := by
  have modifiers : one.timeless.modifiers = other.timeless.modifiers := by rw [same]
  exact modifiers

/-- What a backend is sent does not depend on its moment, nor on the responses so far. -/
theorem snapshot_of_timeless (same : one.timeless = other.timeless) (literal : one.modifiers.Literal)
    (context : Context) (request : Request) (response response' : Response) :
    one.snapshot context request response = other.snapshot context request response' := by
  change one.timeless.snapshot context request response = other.timeless.snapshot context request response'
  rw [← same]
  have first := snapshot_bare one.timeless context request response {} literal
  have second := snapshot_bare one.timeless context request response' {} literal
  rw [← first, second]

end Config.Backend

/-! ## Entries in their shapes -/

namespace Entry

variable {entry : Entry}

/-- An entry in its shape, of a backend without its moment. -/
def settled (entry : Entry) : Entry := entry.formed.relabel Config.Backend.timeless

theorem settled_eq_formed (entry : Entry) : entry.settled = (entry.relabel Config.Backend.timeless).formed :=
  (formed_relabel (Config.Backend.shapesLike_timeless entry.backend)).symm

@[simp] theorem settled_formed (entry : Entry) : entry.formed.settled = entry.settled := by
  rw [settled, formed_formed, settled]

theorem shown_settled (entry : Entry) : entry.settled.shown = entry.formed.shown := rfl

theorem status_settled (entry : Entry) : entry.settled.status = entry.status := (formed_sameReply entry).2

/-- An entry as a run keeps it: in its shape, or as it came if shaping is put off. -/
def taken (entry : Entry) : Entry :=
  match entry.backend.response.apply with
  | .early => entry.formed
  | .late => entry

theorem taken_early (early : entry.backend.response.apply = .early) : entry.taken = entry.formed := by
  simp only [taken, early]

theorem taken_late (late : entry.backend.response.apply = .late) : entry.taken = entry := by
  simp only [taken, late]

theorem settled_taken (entry : Entry) : entry.taken.settled = entry.settled := by
  cases moment : entry.backend.response.apply with
  | early => rw [taken_early moment, settled_formed]
  | late => rw [taken_late moment]

theorem status_taken (entry : Entry) : entry.taken.status = entry.status := by
  cases moment : entry.backend.response.apply with
  | early => rw [taken_early moment, (formed_sameReply entry).2]
  | late => rw [taken_late moment]

end Entry

theorem Reply.settled_entry (reply : Reply) {one other : Config.Backend} (same : one.timeless = other.timeless) :
    (reply.entry one).settled = (reply.entry other).settled := by
  have labels : (reply.entry one).relabel Config.Backend.timeless = (reply.entry other).relabel Config.Backend.timeless := by
    simp only [Entry.relabel, Reply.entry, same]
  rw [Entry.settled_eq_formed, labels, ← Entry.settled_eq_formed]

namespace Response

variable {one other : Response} {context : Context} {endpoint endpoint' : Config.Endpoint}

/-- A response with its entries in their shapes. -/
def settled (response : Response) : Response := response.mapEntries Entry.settled

theorem terminal_of_settled (same : one.settled = other.settled) : one.isTerminal = other.isTerminal := by
  have terminal : one.settled.isTerminal = other.settled.isTerminal := by rw [same]
  exact terminal

theorem history_of_settled (same : one.settled = other.settled) :
    one.history.map Entry.settled = other.history.map Entry.settled := by
  have history : one.settled.history = other.settled.history := by rw [same]
  exact history

theorem assemble_settled (policy : Change.Policy) (endpoint : Config.Endpoint) (history : List Entry) :
    assemble policy endpoint.timeless (history.map Entry.settled) = assemble policy endpoint (history.map Entry.formed) := by
  have split : history.map Entry.settled = (history.map Entry.formed).map (Entry.relabel Config.Backend.timeless) := by
    rw [List.map_map]
    rfl
  rw [split]
  exact assemble_relabel Config.Backend.shapesLike_timeless (history.map Entry.formed)

/-- What a client gets is decided by the entries in their shapes. -/
theorem shown_write_settled (same : one.settled = other.settled) (endpoints : endpoint.timeless = endpoint'.timeless)
    (literal : ∀ entry ∈ one.history, entry.backend.modifiers.Literal)
    (literal' : ∀ entry ∈ other.history, entry.backend.modifiers.Literal) (goesOn : context.policy = .failOpen)
    (request request' : Request) :
    (one.write context endpoint request).shown = (other.write context endpoint' request').shown := by
  have terminals := terminal_of_settled same
  cases terminal : one.isTerminal with
  | true =>
    rw [terminal] at terminals
    have shown : one.settled.shown = other.settled.shown := by rw [same]
    change one.shown = other.shown at shown
    rw [write_terminal terminal, write_terminal terminals.symm, shown]
  | false =>
    rw [terminal] at terminals
    have histories := history_of_settled same
    have assembled : assemble .failOpen endpoint (one.history.map Entry.formed) =
        assemble .failOpen endpoint' (other.history.map Entry.formed) := by
      rw [← assemble_settled, ← assemble_settled, histories, endpoints]
    have paths : endpoint.timeless.path = endpoint'.timeless.path := by rw [endpoints]
    change endpoint.path = endpoint'.path at paths
    rw [shown_write literal terminal goesOn, shown_write literal' terminals.symm goesOn, assembled, paths]

/-- A final response that was not ended before lists its entries in their shapes. -/
theorem history_write_settled (same : one.settled = other.settled) (going : one.isTerminal = false)
    (literal : ∀ entry ∈ one.history, entry.backend.modifiers.Literal)
    (literal' : ∀ entry ∈ other.history, entry.backend.modifiers.Literal) (goesOn : context.policy = .failOpen)
    (request request' : Request) :
    (one.write context endpoint request).history.map Entry.shown =
      (other.write context endpoint' request').history.map Entry.shown := by
  have going' : other.isTerminal = false := (terminal_of_settled same).symm.trans going
  have shown := congrArg (List.map Entry.shown) (history_of_settled same)
  rw [history_write literal going goesOn, history_write literal' going' goesOn]
  simpa [List.map_map, Function.comp_def, Entry.shown_settled] using shown

theorem shaped_write {response : Response} (going : response.isTerminal = false)
    (literal : ∀ entry ∈ response.history, entry.backend.modifiers.Literal) (goesOn : context.policy = .failOpen)
    (request : Request) : ∀ entry ∈ (response.write context endpoint request).history, entry.shaped = true := by
  rw [history_write literal going goesOn]
  intro entry member
  obtain ⟨earlier, _, rfl⟩ := List.mem_map.mp member
  exact Entry.shaped_formed earlier

end Response

/-! ## One backend -/

/-- What comes of calls to two backends: the same failure, or replies whose entries have the same shape. -/
inductive AnswersAlike (backend backend' : Config.Backend) :
    Except CallError Reply → Except CallError Reply → Prop where
  | failed (error : CallError) : AnswersAlike backend backend' (.error error) (.error error)
  | replied {reply reply' : Reply} (entries : (reply.entry backend).settled = (reply'.entry backend').settled) :
      AnswersAlike backend backend' (.ok reply) (.ok reply')

/-- Backends that differ in their moments alone get the same from one transport. -/
theorem answersAlike_of_timeless {backend backend' : Config.Backend} (same : backend.timeless = backend'.timeless)
    (outcome : Except CallError Reply) : AnswersAlike backend backend' outcome outcome := by
  cases outcome with
  | error error => exact .failed error
  | ok reply => exact .replied (reply.settled_entry same)

namespace Run

/-- Runs that have made the same calls and leave the same request, and the same response once its entries are in
their shapes. -/
structure InStep (one other : Run) : Prop where
  request : one.request = other.request
  calls : one.calls = other.calls
  response : one.response.settled = other.response.settled

/-- A run that a reply has ended by its status: its response is the entry of the reply as the run has kept it. -/
structure EndsWith (endpoint : Config.Endpoint) (answers : Nat → Except CallError Reply) (run : Run) (position : Nat)
    (backend : Config.Backend) (reply : Reply) : Prop where
  count : run.calls.length = position + 1
  replied : answers position = .ok reply
  aborts : endpoint.aborts reply.status = true
  terminal : run.response.isTerminal = true
  shown : run.response.shown = (reply.status, Header.empty.aggregate (reply.entry backend).taken.header,
    (reply.entry backend).taken.body)

/-- No reply to the calls of a run from a position on has a status that ends it. -/
def Unaborted (run : Run) (endpoint : Config.Endpoint) (answers : Nat → Except CallError Reply) (start : Nat) : Prop :=
  ∀ position reply, start ≤ position → position < run.calls.length → answers position = .ok reply →
    endpoint.aborts reply.status = false

/-- How two runs leave stages: in step, with no reply that ends them, or ended by their replies to one call. -/
inductive Paired (endpoint endpoint' : Config.Endpoint) (answers answers' : Nat → Except CallError Reply) (start : Nat)
    (stages stages' : List Config.Backend) (left right : Run) : Prop where
  | inStep (inStep : left.InStep right) (unaborted : left.Unaborted endpoint answers start)
  | ended {i : Nat} {backend backend' : Config.Backend} {reply reply' : Reply} (stage : stages[i]? = some backend)
      (stage' : stages'[i]? = some backend') (ends : left.EndsWith endpoint answers (start + i) backend reply)
      (ends' : right.EndsWith endpoint' answers' (start + i) backend' reply') (calls : left.calls = right.calls)

variable {context : Context} {endpoint endpoint' : Config.Endpoint} {backend backend' : Config.Backend}
  {one other : Run} {answers answers' : Nat → Except CallError Reply}

theorem InStep.terminal (inStep : one.InStep other) : one.response.isTerminal = other.response.isTerminal :=
  Response.terminal_of_settled inStep.response

theorem EndsWith.shown_write {run : Run} {position : Nat} {reply : Reply}
    (ends : run.EndsWith endpoint answers position backend reply) (context : Context) (request : Request) :
    (run.response.write context endpoint request).shown =
      (reply.status, Header.empty.aggregate (reply.entry backend).taken.header, (reply.entry backend).taken.body) := by
  rw [Response.write_terminal ends.terminal, ends.shown]

theorem fail_inStep (inStep : one.InStep other) (endpoints : endpoint.timeless = endpoint'.timeless)
    (failure : Failure) : (one.fail context endpoint failure).InStep (other.fail context endpoint' failure) := by
  have paths : endpoint.timeless.path = endpoint'.timeless.path := by rw [endpoints]
  change endpoint.path = endpoint'.path at paths
  refine ⟨inStep.request, inStep.calls, ?_⟩
  change (one.response.fail context.stamp endpoint.path failure).mapEntries Entry.settled =
    (other.response.fail context.stamp endpoint'.path failure).mapEntries Entry.settled
  rw [Response.fail_mapEntries, Response.fail_mapEntries, paths]
  exact congrArg (·.fail context.stamp endpoint'.path failure) inStep.response

theorem receive_literal (goesOn : context.policy = .failOpen) (run : Run) {entry : Entry}
    (literal : entry.backend.modifiers.Literal) :
    run.receive context endpoint entry =
      { run with
        response := if endpoint.aborts entry.status then run.response.abortWith entry.taken
          else run.response.append entry.taken } := by
  have kept : run.kept context entry = .ok entry.taken := by
    unfold Run.kept Entry.taken
    cases entry.backend.response.apply with
    | early =>
      rw [goesOn]
      exact Entry.shape_literal literal run.request (run.response.append entry)
    | late => rfl
  rw [receive_eq, kept]
  simp only [Entry.status_taken]

/-- Runs in step stay so when replies come whose entries have one shape, unless the replies end them. -/
theorem receive_inStep (goesOn : context.policy = .failOpen) (inStep : one.InStep other)
    (endpoints : endpoint.timeless = endpoint'.timeless) {entry entry' : Entry} (entries : entry.settled = entry'.settled)
    (literal : entry.backend.modifiers.Literal) (literal' : entry'.backend.modifiers.Literal)
    (goes : endpoint.aborts entry.status = false) :
    (one.receive context endpoint entry).InStep (other.receive context endpoint' entry') := by
  have statuses : entry.status = entry'.status := by
    rw [← Entry.status_settled, entries, Entry.status_settled]
  have aborts : endpoint.timeless.aborts entry.status = endpoint'.timeless.aborts entry.status := by rw [endpoints]
  change endpoint.aborts entry.status = endpoint'.aborts entry.status at aborts
  have goes' : endpoint'.aborts entry'.status = false := by rw [← statuses, ← aborts, goes]
  rw [receive_literal goesOn one literal, receive_literal goesOn other literal', goes, goes']
  refine ⟨inStep.request, inStep.calls, ?_⟩
  change (one.response.append entry.taken).mapEntries Entry.settled =
    (other.response.append entry'.taken).mapEntries Entry.settled
  rw [Response.append_mapEntries, Response.append_mapEntries, Entry.settled_taken, Entry.settled_taken, entries]
  exact congrArg (·.append entry'.settled) inStep.response

/-- A reply whose status ends the run leaves its entry, as the run keeps it. -/
theorem receive_endsWith (goesOn : context.policy = .failOpen) (run : Run) (going : run.response.isTerminal = false)
    (literal : backend.modifiers.Literal) {position : Nat} (count : run.calls.length = position + 1) {reply : Reply}
    (replied : answers position = .ok reply) (aborts : endpoint.aborts reply.status = true) :
    (run.receive context endpoint (reply.entry backend)).EndsWith endpoint answers position backend reply := by
  have status : endpoint.aborts (reply.entry backend).status = true := aborts
  have entryLiteral : (reply.entry backend).backend.modifiers.Literal := literal
  rw [receive_literal goesOn run entryLiteral, status]
  refine ⟨count, replied, aborts, Response.isTerminal_abortWith .., ?_⟩
  change (run.response.abortWith (reply.entry backend).taken).shown = _
  rw [Response.shown_abortWith going, Entry.status_taken]
  rfl

/-- Replies to the last call whose entries have one shape keep runs in step, or both end them by their status. -/
theorem receive_paired (goesOn : context.policy = .failOpen) (inStep : one.InStep other)
    (going : one.response.isTerminal = false) (endpoints : endpoint.timeless = endpoint'.timeless)
    (literal : backend.modifiers.Literal) (literal' : backend'.modifiers.Literal) {position : Nat}
    (count : one.calls.length = position + 1) {reply reply' : Reply}
    (entries : (reply.entry backend).settled = (reply'.entry backend').settled) (replied : answers position = .ok reply)
    (replied' : answers' position = .ok reply') :
    Paired endpoint endpoint' answers answers' position [backend] [backend']
      (one.receive context endpoint (reply.entry backend)) (other.receive context endpoint' (reply'.entry backend')) := by
  cases aborts : endpoint.aborts reply.status with
  | false =>
    refine .inStep (receive_inStep goesOn inStep endpoints entries literal literal' aborts) ?_
    intro last answer low high answered
    rw [receive_calls] at high
    have only : last = position := by omega
    subst only
    cases replied.symm.trans answered
    exact aborts
  | true =>
    have statuses : (reply.entry backend).status = (reply'.entry backend').status := by
      rw [← Entry.status_settled, entries, Entry.status_settled]
    have same : endpoint.timeless.aborts reply.status = endpoint'.timeless.aborts reply.status := by rw [endpoints]
    have aborts' : endpoint'.aborts reply'.status = true := by
      change reply.status = reply'.status at statuses
      change endpoint.aborts reply.status = endpoint'.aborts reply.status at same
      rw [← statuses, ← same, aborts]
    have going' : other.response.isTerminal = false := inStep.terminal.symm.trans going
    have count' : other.calls.length = position + 1 := by rw [← inStep.calls, count]
    have ends := receive_endsWith goesOn one going literal count replied aborts
    have ends' := receive_endsWith goesOn other going' literal' count' replied' aborts'
    have stage : [backend][0]? = some backend := rfl
    have stage' : [backend'][0]? = some backend' := rfl
    refine .ended stage stage' ends ends' ?_
    rw [receive_calls, receive_calls, inStep.calls]

/-- One backend keeps runs in step, or the same call ends both by the status of its reply. -/
theorem backend_inStep (goesOn : context.policy = .failOpen) (inStep : one.InStep other)
    (going : one.response.isTerminal = false) (endpoints : endpoint.timeless = endpoint'.timeless)
    (backends : backend.timeless = backend'.timeless) (literal : backend.modifiers.Literal)
    (alike : AnswersAlike backend backend' (answers one.calls.length) (answers' one.calls.length)) :
    Paired endpoint endpoint' answers answers' one.calls.length [backend] [backend']
      (one.backend (.byPosition answers) context endpoint backend)
      (other.backend (.byPosition answers') context endpoint' backend') := by
  have modifiers := Config.Backend.modifiers_of_timeless backends
  have literal' : backend'.modifiers.Literal := modifiers ▸ literal
  obtain ⟨left, changed⟩ :=
    Request.applyRules_failOpen (backend.modifiers.onRequest true) none one.response one.request
  rw [← goesOn] at changed
  have changed' : other.request.applyRules context.policy none other.response (backend'.modifiers.onRequest true) =
      .ok left := by
    rw [← modifiers, ← inStep.request, ← changed]
    exact Request.applyRules_blind (Config.Modifiers.literal_onRequest literal true) one.request
  have snapshots : backend.snapshot context left one.response = backend'.snapshot context left other.response :=
    Config.Backend.snapshot_of_timeless backends literal context left one.response other.response
  cases taken : backend'.snapshot context left other.response with
  | error failure =>
    rw [taken] at snapshots
    rw [backend_withholds (.sending changed snapshots), backend_withholds (.sending changed' taken)]
    have withheld : ({ one with request := left } : Run).InStep { other with request := left } :=
      ⟨rfl, inStep.calls, inStep.response⟩
    refine .inStep (fail_inStep withheld endpoints failure) ?_
    intro position reply low high
    exact absurd high (Nat.not_lt.mpr low)
  | ok snapshot =>
    rw [taken] at snapshots
    have after : (one.called left snapshot).InStep (other.called left snapshot) :=
      ⟨rfl, by simp only [called, inStep.calls], inStep.response⟩
    have count : (one.called left snapshot).calls.length = one.calls.length + 1 := by simp [called]
    rw [backend_sends ⟨changed, snapshots⟩, backend_sends ⟨changed', taken⟩]
    simp only [Transport.byPosition, ← inStep.calls]
    generalize outcome : answers one.calls.length = result at alike ⊢
    generalize outcome' : answers' one.calls.length = result' at alike ⊢
    cases alike with
    | failed error =>
      refine .inStep (fail_inStep after endpoints error.failure) ?_
      intro position reply low high replied
      change position < (one.called left snapshot).calls.length at high
      have only : position = one.calls.length := by omega
      rw [only, outcome] at replied
      cases replied
    | replied entries => exact receive_paired goesOn after going endpoints literal literal' count entries outcome outcome'

/-- Runs over stages that differ in moments alone stay in step, or end with the replies to one call. -/
theorem backends_inStep (goesOn : context.policy = .failOpen) (inStep : one.InStep other)
    (going : one.response.isTerminal = false) (endpoints : endpoint.timeless = endpoint'.timeless)
    {stages stages' : List Config.Backend}
    (backends : stages.map Config.Backend.timeless = stages'.map Config.Backend.timeless)
    (literal : ∀ backend ∈ stages, backend.modifiers.Literal)
    (alike : ∀ (i : Nat) (backend backend' : Config.Backend), stages[i]? = some backend → stages'[i]? = some backend' →
      AnswersAlike backend backend' (answers (one.calls.length + i)) (answers' (one.calls.length + i))) :
    Paired endpoint endpoint' answers answers' one.calls.length stages stages'
      (Run.backends (.byPosition answers) context endpoint stages one)
      (Run.backends (.byPosition answers') context endpoint' stages' other) := by
  induction stages generalizing stages' one other with
  | nil =>
    have none : stages' = [] := by simpa [eq_comm] using backends
    subst none
    refine .inStep inStep ?_
    intro position reply low high
    exact absurd high (Nat.not_lt.mpr low)
  | cons backend stages ih =>
    cases stages' with
    | nil => simp at backends
    | cons backend' stages' =>
      obtain ⟨here, later⟩ := List.cons.inj backends
      have first := backend_inStep goesOn inStep going endpoints here (literal backend List.mem_cons_self)
        (alike 0 backend backend' rfl rfl)
      cases first with
      | @ended i found found' reply reply' stage stage' ends ends' calls =>
        obtain ⟨inside, _⟩ := List.getElem?_eq_some_iff.mp stage
        have only : i = 0 := by simpa using inside
        subst only
        simp only [Run.backends, ends.terminal, ends'.terminal, if_true]
        exact .ended stage stage' ends ends' calls
      | inStep after unaborted =>
        have terminals := after.terminal
        cases stopped : (one.backend (.byPosition answers) context endpoint backend).response.isTerminal with
        | true =>
          rw [stopped] at terminals
          simp only [Run.backends, stopped, ← terminals, if_true]
          exact .inStep after unaborted
        | false =>
          rw [stopped] at terminals
          have count : (one.backend (.byPosition answers) context endpoint backend).calls.length =
              one.calls.length + 1 := calls_of_going step_backend stopped
          have place : ∀ i, (one.backend (.byPosition answers) context endpoint backend).calls.length + i =
              one.calls.length + (i + 1) := by
            intro i
            omega
          simp only [Run.backends, stopped, ← terminals, Bool.false_eq_true, if_false]
          have rest := ih after stopped later (fun next member => literal next (List.mem_cons_of_mem _ member))
            (fun i next next' found found' => place i ▸ alike (i + 1) next next' found found')
          cases rest with
          | inStep final more =>
            refine .inStep final ?_
            intro position reply low high replied
            by_cases now : position < (one.backend (.byPosition answers) context endpoint backend).calls.length
            · exact unaborted position reply low now replied
            · exact more position reply (Nat.not_lt.mp now) high replied
          | @ended i next next' reply reply' stage stage' ends ends' calls =>
            rw [place i] at ends ends'
            exact .ended stage stage' ends ends' calls

end Run

/-- Two endpoints whose stages differ in moments alone, and get alike answers, leave their runs paired. -/
theorem Config.Gateway.run_paired {one other : Config.Gateway} {endpoint endpoint' : Config.Endpoint} {context : Context}
    (goesOn : context.policy = .failOpen) (endpoints : endpoint.timeless = endpoint'.timeless)
    (stages : (one.stages endpoint).map Config.Backend.timeless = (other.stages endpoint').map Config.Backend.timeless)
    (literal : ∀ backend ∈ one.stages endpoint, backend.modifiers.Literal)
    {answers answers' : Nat → Except CallError Reply}
    (alike : ∀ (i : Nat) (backend backend' : Config.Backend), (one.stages endpoint)[i]? = some backend →
      (other.stages endpoint')[i]? = some backend' → AnswersAlike backend backend' (answers i) (answers' i))
    (request : Request) :
    Run.Paired endpoint endpoint' answers answers' 0 (one.stages endpoint) (other.stages endpoint')
      (one.run (.byPosition answers) context endpoint request)
      (other.run (.byPosition answers') context endpoint' request) := by
  have start : ({ request := request } : Run).InStep { request := request } := ⟨rfl, rfl, rfl⟩
  have going : ({ request := request } : Run).response.isTerminal = false := rfl
  refine Run.backends_inStep goesOn start going endpoints stages literal ?_
  intro i backend backend' stage stage'
  have place : ({ request := request } : Run).calls.length + i = i := Nat.zero_add i
  rw [place]
  exact alike i backend backend' stage stage'

end Junction
