import Junction.Proofs.Engine.Settled

/-!
How the final response is put together of the entries of a run: which of them are kept, what status and body they give, and
what the endpoint then makes of the body, step by step (`write_assembles`).
-/

namespace Junction
open Outcome

/-! ## The steps of an endpoint -/

namespace Body

/-- The steps that an endpoint has configured, in their order: without empty values, in one spelling of keys, in one
format. -/
def finishSteps (finish : Config.Finish) : List (Body → Except BodyError Body) :=
  (if finish.omitEmpty then [omitEmpty] else []) ++ finish.keyCase.toList.map (fun keyCase body => body.withKeyCase keyCase) ++
    finish.encode.toList.map fun format body => body.convert format

/-- A body after steps, each of which is taken; one that fails is passed over if the policy goes on. -/
inductive After (policy : Change.Policy) : List (Body → Except BodyError Body) → Body → Body → Prop where
  | done (body : Body) : After policy [] body body
  | taken {step : Body → Except BodyError Body} {steps : List (Body → Except BodyError Body)} {body next last : Body}
    (changed : step body = .ok next) (others : After policy steps next last) : After policy (step :: steps) body last
  | passed {step : Body → Except BodyError Body} {steps : List (Body → Except BodyError Body)} {body last : Body}
    {error : BodyError} (failed : step body = .error error) (lenient : policy = .failOpen)
    (others : After policy steps body last) : After policy (step :: steps) body last

/-- Steps on a body, one after another. -/
def stepped (policy : Change.Policy) (steps : List (Body → Except BodyError Body)) (body : Body) : Except Failure Body :=
  steps.foldlM (fun body step => recovered policy (step body) body) body

variable {policy : Change.Policy} {steps : List (Body → Except BodyError Body)} {finish : Config.Finish} {body last : Body}

theorem stepped_nil (policy : Change.Policy) (body : Body) : stepped policy [] body = .ok body := rfl

theorem stepped_cons (policy : Change.Policy) (step : Body → Except BodyError Body)
    (steps : List (Body → Except BodyError Body)) (body : Body) :
    stepped policy (step :: steps) body = (recovered policy (step body) body).bind (stepped policy steps) := by
  rw [stepped, List.foldlM_cons]
  rfl

theorem stepped_append (policy : Change.Policy) (first others : List (Body → Except BodyError Body)) (body : Body) :
    stepped policy (first ++ others) body = (stepped policy first body).bind (stepped policy others) := by
  rw [stepped, List.foldlM_append]
  rfl

theorem stepped_singleton (policy : Change.Policy) (step : Body → Except BodyError Body) (body : Body) :
    stepped policy [step] body = recovered policy (step body) body := by
  rw [stepped_cons]
  cases recovered policy (step body) body <;> rfl

theorem finish_eq_stepped (policy : Change.Policy) (finish : Config.Finish) (body : Body) :
    body.finish policy finish = stepped policy (finishSteps finish) body := by
  have stripped : stepped policy (if finish.omitEmpty then [omitEmpty] else []) body =
      if finish.omitEmpty then recovered policy body.omitEmpty body else .ok body := by
    split
    · exact stepped_singleton policy omitEmpty body
    · rfl
  rw [finishSteps, stepped_append, stepped_append, stripped, Body.finish]
  cases (if finish.omitEmpty then recovered policy body.omitEmpty body else Except.ok body) with
  | error failure => rfl
  | ok body =>
    cases finish.keyCase <;> cases finish.encode <;>
      simp only [Except.bind, Option.toList_none, Option.toList_some, List.map_nil, List.map_cons, stepped_nil,
        stepped_singleton]

theorem stepped_eq_ok (policy : Change.Policy) (steps : List (Body → Except BodyError Body)) (body last : Body) :
    stepped policy steps body = .ok last ↔ After policy steps body last := by
  induction steps generalizing body with
  | nil =>
    constructor
    · intro same
      cases same
      exact .done _
    · intro after
      cases after
      rfl
  | cons step steps ih =>
    rw [stepped_cons, bind_eq_ok]
    constructor
    · rintro ⟨next, recovers, others⟩
      cases result : step body with
      | ok changed =>
        rw [result] at recovers
        cases recovers
        exact .taken result ((ih _).mp others)
      | error error =>
        rw [result] at recovers
        cases policy with
        | failOpen =>
          cases recovers
          exact .passed result rfl ((ih body).mp others)
        | failClosed => cases recovers
    · intro after
      cases after with
      | taken changed others =>
        refine ⟨_, ?_, (ih _).mpr others⟩
        rw [changed]
        rfl
      | passed failed lenient others =>
        refine ⟨body, ?_, (ih body).mpr others⟩
        rw [failed, lenient]
        rfl

/-- What an endpoint makes of a body, when no step ends in an error. -/
theorem finish_eq_ok (policy : Change.Policy) (finish : Config.Finish) (body last : Body) :
    body.finish policy finish = .ok last ↔ After policy (finishSteps finish) body last := by
  rw [finish_eq_stepped, stepped_eq_ok]

end Body

/-! ## Entries that are kept, and what they give -/

/-- What a reply is in a list: its body, or null when it has none, as the only field of an object if it has a group. -/
structure Entry.ItemOf (entry : Entry) (item : Json) : Prop where
  grouped : ∀ group, entry.group? = some group → item = .object [(group, (entry.body.map Body.value).getD .null)]
  plain : entry.group? = none → item = (entry.body.map Body.value).getD .null

theorem Aggregate.itemOf_item (entry : Entry) : entry.ItemOf (item entry) := by
  constructor
  · intro group found
    rw [item, found]
    rfl
  · intro plain
    rw [item, plain]
    rfl

theorem Entry.ItemOf.eq {entry : Entry} {item : Json} (isItem : entry.ItemOf item) : item = Aggregate.item entry := by
  cases found : entry.group? with
  | none => rw [isItem.plain found, (Aggregate.itemOf_item entry).plain found]
  | some group => rw [isItem.grouped group found, (Aggregate.itemOf_item entry).grouped group found]

namespace Response

variable {endpoint : Config.Endpoint} {history kept : List Entry} {status : Nat} {body finished : Option Body}

/-- The entries that make the final response: all if there is at most one, else those that are not left out. -/
structure Retains (history kept : List Entry) : Prop where
  few : history.length ≤ 1 → kept = history
  several : 1 < history.length → kept = history.filter fun entry => !entry.omitted

/-- Status and body that entries give, before the endpoint shapes the body. Only where several backends are expected and
several entries are kept, their bodies become one. -/
inductive Gives (endpoint : Config.Endpoint) (kept : List Entry) : Nat → Option Body → Prop where
  | joined (expected : 1 < endpoint.effective.backendCount) (several : 1 < kept.length)
    (aggregates : endpoint.response.aggregate = true) : Gives endpoint kept 200 (some (.ofJson (Aggregate.object kept)))
  | listed {items : List Json} (expected : 1 < endpoint.effective.backendCount) (several : 1 < kept.length)
    (lists : endpoint.response.aggregate = false) (each : List.Forall₂ Entry.ItemOf kept items) :
    Gives endpoint kept 200 (some (.ofJson (.array items)))
  | last {entry : Entry} (single : ¬ (1 < endpoint.effective.backendCount ∧ 1 < kept.length))
    (found : kept.getLast? = some entry) : Gives endpoint kept entry.status entry.body

theorem retains_retained (history : List Entry) : Retains history (retained history) := by
  constructor
  · intro few
    rw [retained, if_neg (Nat.not_lt.mpr few)]
  · intro several
    rw [retained, if_pos several]

theorem gives_content {last : Entry} (found : kept.getLast? = some last) :
    Gives endpoint kept (content endpoint kept last).1 (content endpoint kept last).2 := by
  rw [content]
  split
  · rename_i both
    obtain ⟨expected, several⟩ : 1 < endpoint.effective.backendCount ∧ 1 < kept.length := by simpa using both
    cases aggregates : endpoint.response.aggregate with
    | true => exact .joined expected several aggregates
    | false =>
      refine .listed expected several aggregates ?_
      rw [List.forall₂_map_right_iff]
      exact List.forall₂_same.mpr fun entry _ => Aggregate.itemOf_item entry
  · rename_i single
    exact .last (by simpa using single) found

theorem content_of_gives {last : Entry} (found : kept.getLast? = some last) (gives : Gives endpoint kept status body) :
    content endpoint kept last = (status, body) := by
  cases gives with
  | joined expected several aggregates => simp [content, expected, several, aggregates]
  | @listed items expected several lists each =>
    have same : kept.map Aggregate.item = items :=
      List.forall₂_eq_eq_eq ▸ List.forall₂_map_left_iff.mpr (each.imp fun _ _ isItem => isItem.eq.symm)
    simp [content, expected, several, lists, Aggregate.list, same]
  | last single final =>
    rw [found] at final
    cases final
    simp only [content, Bool.and_eq_true, decide_eq_true_eq, single, if_false]

/-! ## The final response -/

variable {context : Context} {request : Request} {response : Response}

theorem last_of_gives (gives : Gives endpoint kept status body) : ∃ last, kept.getLast? = some last := by
  cases gives with
  | joined _ several | listed _ several =>
    exact ⟨_, List.getLast?_eq_some_getLast (List.ne_nil_of_length_pos (Nat.lt_trans Nat.zero_lt_one several))⟩
  | last _ found => exact ⟨_, found⟩

theorem assemble_of_gives {policy : Change.Policy} (gives : Gives endpoint (retained history) status body)
    (after : Option.Rel (Body.After policy (Body.finishSteps endpoint.response)) body finished) :
    assemble policy endpoint history = .ok (status, finalHeader endpoint history (retained history), finished) := by
  obtain ⟨last, found⟩ := last_of_gives gives
  simp only [assemble, found, content_of_gives found gives]
  cases after with
  | none => rfl
  | some after =>
    have passed := (Body.finish_eq_ok ..).mpr after
    simp only [passed]
    rfl

theorem shapeEntries_of_shapes {policy : Change.Policy} (going : response.isTerminal = false)
    (shapes : List.Forall₂ (fun entry shaped => entry.shape policy request response = .ok shaped) response.history history) :
    response.shapeEntries policy request = .ok { response with history := history } := by
  rw [shapeEntries]
  split
  · rename_i whole
    have same : response.history = history := by
      rw [← List.forall₂_eq_eq_eq]
      have told := (List.forall₂_and_left _ _).mpr ⟨List.all_eq_true.mp whole, shapes⟩
      refine told.imp fun entry shaped both => ?_
      obtain ⟨already, shapes⟩ := both
      rw [Entry.shape, if_pos already] at shapes
      exact Except.ok.inj shapes
    rw [← same]
  · rw [mapM_of_forall₂ shapes]
    simp [Except.map, withHistory, unwritten_of_going going, shapes.length_eq]

/-- What is kept of the entries, once all are in their shapes, makes the final response. When nothing is kept it is the error
of an endpoint that responded nothing. Else it has the status and the body that the kept entries give, and the body went
through the steps of the endpoint. -/
theorem write_assembles (context : Context) (endpoint : Config.Endpoint) (request : Request)
    (going : response.isTerminal = false)
    (late : List.Forall₂ (fun entry shaped => entry.shape context.policy request response = .ok shaped) response.history
      history) :
    ∃ kept, Retains history kept ∧
      (kept = [] → response.write context endpoint request =
        { response with
          status := 500
          header := ∅
          body := some (Failure.respondedNothing.body context.stamp endpoint.path)
          aborted := true
          failure? := some .respondedNothing
          history := history }) ∧
      (kept ≠ [] → ∃ status body, Gives endpoint kept status body) ∧
      ∀ status body finished, Gives endpoint kept status body →
        Option.Rel (Body.After context.policy (Body.finishSteps endpoint.response)) body finished →
          response.write context endpoint request =
            { response with
              status := status
              header := finalHeader endpoint history kept
              body := finished
              written := true
              history := history } := by
  have shaped := shapeEntries_of_shapes going late
  have unwritten := unwritten_of_going going
  refine ⟨retained history, retains_retained history, ?_, ?_, ?_⟩
  · intro none
    have failed : assemble context.policy endpoint history = .error .respondedNothing := by
      simp only [assemble, none, List.getLast?_nil]
    simp only [write, going, shaped, failed, fail, unwritten, Bool.false_eq_true, if_false]
    rfl
  · intro some
    exact ⟨_, _, gives_content (List.getLast?_eq_some_getLast some)⟩
  · intro status body finished gives after
    have assembled : assemble context.policy endpoint history =
        .ok (status, finalHeader endpoint history (retained history), finished) := assemble_of_gives gives after
    simp only [write, going, shaped, assembled, finish, unwritten, Bool.false_eq_true, if_false]

/-- An endpoint of three backends, whose bodies are listed. -/
def listing : Config.Endpoint := { effective := { backendCount := 3 } }

/-- The replies of three backends, none with a body: the first one has a group, and the second one is left out. -/
def replies : Response :=
  { history := [⟨{ response := { group := some "user" } }, 200, ∅, none, true⟩,
      ⟨{ response := { omitted := true } }, 204, ∅, none, true⟩, ⟨{}, 404, ∅, none, true⟩] }

theorem write_assembles_replies : (replies.write default listing {}).status = 200 ∧
    (replies.write default listing {}).body = some (.ofJson (.array [.object [("user", .null)], .null])) := by
  have shapes : List.Forall₂ (fun entry shaped => entry.shape Change.Policy.failOpen {} replies = .ok shaped)
      replies.history replies.history := .cons rfl (.cons rfl (.cons rfl .nil))
  obtain ⟨kept, retains, _, _, made⟩ := write_assembles default listing {} rfl shapes
  cases retains.several (by decide)
  have gives : Gives listing (replies.history.filter fun entry => !entry.omitted) 200
      (some (.ofJson (.array [.object [("user", .null)], .null]))) :=
    .listed (by decide) (by decide) rfl
      (.cons (Aggregate.itemOf_item _) (.cons (Aggregate.itemOf_item _) .nil))
  rw [made _ _ _ gives (.some (.done _))]
  exact ⟨rfl, rfl⟩

end Response
end Junction
