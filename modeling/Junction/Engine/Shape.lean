import Junction.Exchange.Placeholder
import Junction.Change.Policy

/-!
The rules of a backend on requests and on its response.
-/

namespace Junction

/-- The result of a change under a policy; a failure that is not recovered ends the run. -/
def recovered {α : Type} (policy : Change.Policy) (result : Except BodyError α) (before : α) :
    Except Failure α :=
  (policy.recover result before).mapError .change

namespace Request

/-- One rule on a request, with its value. -/
def applyRule (policy : Change.Policy) (rule : Config.Surface × Config.Modifier) (value : String)
    (request : Request) : Except Failure Request :=
  let (surface, modifier) := rule
  match surface with
  | .header => .ok { request with header := request.header.modify modifier.action modifier.key value }
  | .query => .ok { request with query := request.query.modify modifier.action modifier.key value }
  | .params => .ok { request with params := request.params.modify modifier.action modifier.key value }
  | .body =>
    (recovered policy (Body.modify? request.body modifier.action modifier.key value) request.body).map
      fun body => { request with body := body }

/-- Rules on a request, one after another. Placeholders see `seen`, or the request as it is when its rule is
applied. A failure comes with the request that it leaves. -/
def applyRules (policy : Change.Policy) (seen : Option Request) (response : Response) :
    List (Config.Surface × Config.Modifier) → Request → Except (Request × Failure) Request
  | [], request => .ok request
  | rule :: rules, request =>
    let value := Placeholder.resolve rule.2.value (seen.getD request) response
    match request.applyRule policy rule value with
    | .ok changed => changed.applyRules policy seen response rules
    | .error failure => .error (request, failure)

end Request

namespace Entry

/-- One rule on an entry, with its value; only header and body of a response can be changed. -/
def applyRule (policy : Change.Policy) (rule : Config.Surface × Config.Modifier) (value : String)
    (entry : Entry) : Except Failure Entry :=
  let (surface, modifier) := rule
  match surface with
  | .header => .ok { entry with header := entry.header.modify modifier.action modifier.key value }
  | .body =>
    (recovered policy (Body.modify? entry.body modifier.action modifier.key value) entry.body).map
      fun body => { entry with body := body }
  | .params | .query => .ok entry

/-- Rules on an entry, one after another. -/
def applyRules (policy : Change.Policy) (request : Request) (seen : Response)
    (rules : List (Config.Surface × Config.Modifier)) (entry : Entry) : Except Failure Entry :=
  rules.foldlM (fun entry rule =>
    entry.applyRule policy rule (Placeholder.resolve rule.2.value request seen)) entry

/-- A body renamed and projected as its backend says. -/
def shapeBody (policy : Change.Policy) (shaping : Config.Shaping) (body : Body) : Except Failure Body :=
  (recovered policy (body.rename shaping.mapper) body).bind fun renamed =>
    recovered policy (renamed.project shaping.projection) renamed

/-- An entry without the parts that its backend leaves out. -/
def omitParts (entry : Entry) : Entry :=
  { entry with
    header := if entry.backend.response.omitsHeader then ∅ else entry.header
    body := if entry.backend.response.omitsBody then none else entry.body
    shaped := true }

/-- An entry shaped as its backend says, once: first the rules, then names and projection of the body, then
the parts that are left out. Placeholders see the request and `seen`. -/
def shape (policy : Change.Policy) (request : Request) (seen : Response) (entry : Entry) :
    Except Failure Entry :=
  if entry.shaped then .ok entry
  else
    (entry.applyRules policy request seen (entry.backend.modifiers.inScope .response)).bind fun ruled =>
      match ruled.body with
      | some body => (shapeBody policy entry.backend.response body).map fun body =>
          omitParts { ruled with body := some body }
      | none => .ok ruled.omitParts

end Entry
end Junction
