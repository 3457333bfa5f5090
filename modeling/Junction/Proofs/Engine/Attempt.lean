import Junction.Proofs.Engine.FinalHeader

/-!
Changes that are passed over where they fail. An attempt is a step in which every change is tried on what those before it
have left, and leaves that as it is if it fails. Where a step ends without a failure it is its attempt, under either
policy; a step that fails otherwise than for want of an entry fails at a change.
-/

namespace Junction
open Outcome

/-- The result of a change, or what was there before where it fails. -/
def attempted {α : Type} (result : Except BodyError α) (before : α) : α :=
  match result with
  | .ok value => value
  | .error _ => before

theorem eq_attempted_of_recovered {α : Type} {policy : Change.Policy} {result : Except BodyError α} {before value : α}
    (done : recovered policy result before = .ok value) : value = attempted result before := by
  cases result with
  | ok changed => cases done; rfl
  | error cause =>
    cases policy with
    | failOpen => cases done; rfl
    | failClosed => cases done

/-! ## Rules, shapes and final bodies -/

namespace Request

variable {policy : Change.Policy} {seen : Option Request} {response : Response} {value : String}
  {rule : Config.Surface × Config.Modifier} {rules : List (Config.Surface × Config.Modifier)} {request changed : Request}

/-- One rule on a request; a body that it cannot change stays as it is. -/
def attemptRule (rule : Config.Surface × Config.Modifier) (value : String) (request : Request) : Request :=
  let (surface, modifier) := rule
  match surface with
  | .header => { request with header := request.header.modify modifier.action modifier.key value }
  | .query => { request with query := request.query.modify modifier.action modifier.key value }
  | .params => { request with params := request.params.modify modifier.action modifier.key value }
  | .body =>
    { request with body := attempted (Body.modify? request.body modifier.action modifier.key value) request.body }

/-- All rules on a request, one after another. -/
def attemptRules (seen : Option Request) (response : Response) (rules : List (Config.Surface × Config.Modifier))
    (request : Request) : Request :=
  rules.foldl (fun request rule =>
    request.attemptRule rule (Placeholder.resolve rule.2.value (seen.getD request) response)) request

theorem eq_attemptRule (done : request.applyRule policy rule value = .ok changed) :
    changed = request.attemptRule rule value := by
  obtain ⟨surface, modifier⟩ := rule
  cases surface with
  | header => cases done; rfl
  | query => cases done; rfl
  | params => cases done; rfl
  | body =>
    obtain ⟨body, recovered, same⟩ := map_eq_ok.mp done
    rw [← same, eq_attempted_of_recovered recovered]
    rfl

theorem eq_attemptRules (done : request.applyRules policy seen response rules = .ok changed) :
    changed = request.attemptRules seen response rules := by
  induction rules generalizing request with
  | nil => cases done; rfl
  | cons rule rules ih =>
    simp only [applyRules] at done
    split at done
    · rename_i next applied
      rw [ih done, eq_attemptRule applied]
      rfl
    · cases done

end Request

namespace Entry

variable {policy : Change.Policy} {request : Request} {seen : Response} {value : String}
  {rule : Config.Surface × Config.Modifier} {rules : List (Config.Surface × Config.Modifier)} {entry changed : Entry}

/-- One rule on an entry; a body that it cannot change stays as it is. -/
def attemptRule (rule : Config.Surface × Config.Modifier) (value : String) (entry : Entry) : Entry :=
  let (surface, modifier) := rule
  match surface with
  | .header => { entry with header := entry.header.modify modifier.action modifier.key value }
  | .body => { entry with body := attempted (Body.modify? entry.body modifier.action modifier.key value) entry.body }
  | .params | .query => entry

/-- All rules on an entry, one after another. -/
def attemptRules (request : Request) (seen : Response) (rules : List (Config.Surface × Config.Modifier))
    (entry : Entry) : Entry :=
  rules.foldl (fun entry rule => entry.attemptRule rule (Placeholder.resolve rule.2.value request seen)) entry

/-- A body renamed, then projected; what fails of this leaves it as it is. -/
def attemptBody (shaping : Config.Shaping) (body : Body) : Body :=
  let renamed := attempted (body.rename shaping.mapper) body
  attempted (renamed.project shaping.projection) renamed

/-- An entry in its shape: first the rules, then names and projection of the body, then what is left out. -/
def attemptShape (request : Request) (seen : Response) (entry : Entry) : Entry :=
  if entry.shaped then entry
  else
    let ruled := entry.attemptRules request seen (entry.backend.modifiers.inScope .response)
    omitParts { ruled with body := ruled.body.map (attemptBody entry.backend.response) }

theorem eq_attemptRule (done : entry.applyRule policy rule value = .ok changed) :
    changed = entry.attemptRule rule value := by
  obtain ⟨surface, modifier⟩ := rule
  cases surface with
  | header => cases done; rfl
  | query => cases done; rfl
  | params => cases done; rfl
  | body =>
    obtain ⟨body, recovered, same⟩ := map_eq_ok.mp done
    rw [← same, eq_attempted_of_recovered recovered]
    rfl

theorem eq_attemptRules (done : entry.applyRules policy request seen rules = .ok changed) :
    changed = entry.attemptRules request seen rules := by
  induction rules generalizing entry with
  | nil => cases done; rfl
  | cons rule rules ih =>
    rw [applyRules_cons] at done
    obtain ⟨next, applied, rest⟩ := bind_eq_ok.mp done
    rw [ih rest, eq_attemptRule applied]
    rfl

theorem eq_attemptBody {shaping : Config.Shaping} {body shaped : Body}
    (done : shapeBody policy shaping body = .ok shaped) : shaped = attemptBody shaping body := by
  obtain ⟨renamed, first, second⟩ := bind_eq_ok.mp done
  rw [eq_attempted_of_recovered second, eq_attempted_of_recovered first]
  rfl

theorem eq_attemptShape (done : entry.shape policy request seen = .ok changed) :
    changed = entry.attemptShape request seen := by
  unfold shape at done
  unfold attemptShape
  split at done
  · rename_i shaped
    cases done
    rw [if_pos shaped]
  · rename_i raw
    rw [if_neg raw]
    obtain ⟨ruled, applied, rest⟩ := bind_eq_ok.mp done
    rw [← eq_attemptRules applied]
    split at rest
    · rename_i body given
      obtain ⟨shaped, formed, omitted⟩ := map_eq_ok.mp rest
      dsimp only
      rw [← omitted, eq_attemptBody formed, given]
      rfl
    · rename_i missing
      cases rest
      dsimp only
      rw [missing, Option.map_none, ← missing]

end Entry

namespace Body

variable {policy : Change.Policy} {finish : Config.Finish} {body finished : Body}

/-- A body finished step by step; a step that fails leaves it as the steps before have made it. -/
def attemptFinish (finish : Config.Finish) (body : Body) : Body :=
  let stripped := if finish.omitEmpty then attempted body.omitEmpty body else body
  let spelled := match finish.keyCase with
    | some keyCase => attempted (stripped.withKeyCase keyCase) stripped
    | none => stripped
  match finish.encode with
  | some format => attempted (spelled.convert format) spelled
  | none => spelled

theorem eq_attemptFinish (done : body.finish policy finish = .ok finished) : finished = body.attemptFinish finish := by
  obtain ⟨stripped, first, rest⟩ := bind_eq_ok.mp done
  obtain ⟨spelled, second, third⟩ := bind_eq_ok.mp rest
  have stripping : stripped = if finish.omitEmpty then attempted body.omitEmpty body else body := by
    cases flag : finish.omitEmpty with
    | true => rw [flag] at first; exact eq_attempted_of_recovered first
    | false => rw [flag] at first; cases first; rfl
  have spelling : spelled = match finish.keyCase with
      | some keyCase => attempted (stripped.withKeyCase keyCase) stripped
      | none => stripped := by
    cases asked : finish.keyCase with
    | some keyCase => rw [asked] at second; exact eq_attempted_of_recovered second
    | none => rw [asked] at second; cases second; rfl
  have encoding : finished = match finish.encode with
      | some format => attempted (spelled.convert format) spelled
      | none => spelled := by
    cases asked : finish.encode with
    | some format => rw [asked] at third; exact eq_attempted_of_recovered third
    | none => rw [asked] at third; cases third; rfl
  rw [encoding, spelling, stripping]
  rfl

theorem finish_error {failure : Failure} (failed : body.finish policy finish = .error failure) :
    IsChange policy failure := by
  rcases bind_eq_error.mp failed with first | ⟨stripped, _, rest⟩
  · split at first
    · exact isChange_of_recovered first
    · cases first
  · rcases bind_eq_error.mp rest with second | ⟨spelled, _, third⟩
    · split at second
      · exact isChange_of_recovered second
      · cases second
    · split at third
      · exact isChange_of_recovered third
      · cases third

end Body

namespace Response

variable {policy : Change.Policy} {context : Context} {endpoint : Config.Endpoint} {request : Request}
  {seen response shaped : Response} {history entries : List Entry} {failure : Failure}

theorem eq_map_attemptShape
    (shapes : List.Forall₂ (fun entry changed => entry.shape policy request seen = .ok changed) history entries) :
    entries = history.map (Entry.attemptShape request seen) := by
  induction shapes with
  | nil => rfl
  | cons first _ ih => rw [List.map_cons, ← Entry.eq_attemptShape first, ← ih]

theorem eq_mapEntries_of_shapeEntries (going : response.isTerminal = false)
    (done : response.shapeEntries policy request = .ok shaped) :
    shaped = response.mapEntries (Entry.attemptShape request response) := by
  obtain ⟨shapes, same⟩ := shapeEntries_eq_ok going done
  rw [same, eq_map_attemptShape shapes]
  rfl

theorem shapeEntries_error (failed : response.shapeEntries policy request = .error failure) :
    IsChange policy failure := by
  unfold shapeEntries at failed
  split at failed
  · cases failed
  · obtain ⟨entry, _, unshaped⟩ := mapM_eq_error (map_eq_error.mp failed)
    exact Entry.shape_error unshaped

/-- Status, header and body of the final response, if any entry is kept. -/
def attemptAssemble (endpoint : Config.Endpoint) (history : List Entry) : Option (Nat × Header × Option Body) :=
  (retained history).getLast?.map fun last =>
    let (status, body) := content endpoint (retained history) last
    (status, finalHeader endpoint history (retained history), body.map (Body.attemptFinish endpoint.response))

theorem attemptAssemble_eq_some {made : Nat × Header × Option Body}
    (done : assemble policy endpoint history = .ok made) : attemptAssemble endpoint history = some made := by
  simp only [assemble] at done
  split at done
  · cases done
  · rename_i last found
    simp only [attemptAssemble, found, Option.map_some]
    split at done
    · rename_i status none
      cases done
      simp only [none, Option.map_none]
    · rename_i status body given
      obtain ⟨finished, finishing, same⟩ := map_eq_ok.mp done
      rw [given, ← same, Body.eq_attemptFinish finishing]
      rfl

theorem assemble_error (failed : assemble policy endpoint history = .error failure) :
    (attemptAssemble endpoint history = none ∧ failure = .respondedNothing) ∨ IsChange policy failure := by
  simp only [assemble] at failed
  split at failed
  · rename_i nothing
    cases failed
    left
    simp only [attemptAssemble, nothing, Option.map_none, true_and]
  · right
    split at failed
    · cases failed
    · exact Body.finish_error (map_eq_error.mp failed)

/-- The final response of a run, no change of which ends it. -/
def attemptWrite (stamp : Failure.Stamp) (endpoint : Config.Endpoint) (request : Request) (response : Response) :
    Response :=
  if response.isTerminal then response
  else
    let shaped := response.mapEntries (Entry.attemptShape request response)
    match attemptAssemble endpoint shaped.history with
    | none => shaped.fail stamp endpoint.path .respondedNothing
    | some (status, header, body) => shaped.finish status header body

/-- A final response is made without a change that ends the run, or tells of one. -/
theorem write_eq_attemptWrite (context : Context) (endpoint : Config.Endpoint) (request : Request) (response : Response) :
    response.write context endpoint request = response.attemptWrite context.stamp endpoint request ∨
      ∃ failure, IsChange context.policy failure ∧
        (response.write context endpoint request).failure? = some failure := by
  cases going : response.isTerminal with
  | true =>
    left
    rw [write, attemptWrite, if_pos going, if_pos going]
  | false =>
    simp only [write, attemptWrite, going, Bool.false_eq_true, if_false]
    cases shaping : response.shapeEntries context.policy request with
    | error failure => exact .inr ⟨failure, shapeEntries_error shaping, failure_fail going ..⟩
    | ok shaped =>
      have same := eq_mapEntries_of_shapeEntries going shaping
      have going' : shaped.isTerminal = false := by rw [same]; exact going
      rw [← same]
      dsimp only
      cases assembled : assemble context.policy endpoint shaped.history with
      | ok made =>
        left
        rw [attemptAssemble_eq_some assembled]
      | error failure =>
        rcases assemble_error assembled with ⟨nothing, rfl⟩ | change
        · left
          rw [nothing]
        · exact .inr ⟨failure, change, failure_fail going' ..⟩

end Response

end Junction
