import Junction.Proofs.Engine.Literal

/-!
Entries under other backends. Where the other backend shapes responses in the same way, shaping does to the entry
what it did before (`shape_relabel`), and the final response is the same (`assemble_relabel`).
-/

namespace Junction

/-- Backends that shape responses in the same way, whenever they do it. -/
structure Config.Backend.ShapesLike (one other : Backend) : Prop where
  rules : one.modifiers.inScope .response = other.modifiers.inScope .response
  shaping : { one.response with apply := .early } = { other.response with apply := .early }

theorem Config.Backend.shaping_eq {one other : Backend} (like : one.ShapesLike other) :
    one.response.omitted = other.response.omitted ∧ one.response.omitsHeader = other.response.omitsHeader ∧
      one.response.omitsBody = other.response.omitsBody ∧ one.response.group = other.response.group ∧
      one.response.mapper = other.response.mapper ∧ one.response.projection = other.response.projection := by
  have shaping := like.shaping
  simp only [Shaping.mk.injEq] at shaping
  obtain ⟨omitted, omitsHeader, omitsBody, group, _, mapper, projection⟩ := shaping
  exact ⟨omitted, omitsHeader, omitsBody, group, mapper, projection⟩

namespace Entry

/-- The entry under another backend. -/
def relabel (other : Config.Backend → Config.Backend) (entry : Entry) : Entry :=
  { entry with backend := other entry.backend }

/-- Status, header and body of an entry. -/
def shown (entry : Entry) : Nat × Header × Option Body := (entry.status, entry.header, entry.body)

variable {policy : Change.Policy} {request : Request} {seen : Response} {value : String}
  {rule : Config.Surface × Config.Modifier} {rules : List (Config.Surface × Config.Modifier)}
  {other : Config.Backend → Config.Backend}

@[simp] theorem body_relabel (entry : Entry) : (entry.relabel other).body = entry.body := rfl

@[simp] theorem status_relabel (entry : Entry) : (entry.relabel other).status = entry.status := rfl

theorem applyRule_relabel (entry : Entry) :
    (entry.relabel other).applyRule policy rule value = (entry.applyRule policy rule value).map (relabel other) := by
  obtain ⟨surface, modifier⟩ := rule
  cases surface with
  | header => rfl
  | query => rfl
  | params => rfl
  | body =>
    simp only [applyRule, relabel]
    cases recovered policy (Body.modify? entry.body modifier.action modifier.key value) entry.body with
    | error failure => rfl
    | ok body => rfl

theorem applyRules_relabel (entry : Entry) :
    (entry.relabel other).applyRules policy request seen rules =
      (entry.applyRules policy request seen rules).map (relabel other) := by
  induction rules generalizing entry with
  | nil => rfl
  | cons rule rules ih =>
    rw [applyRules_cons, applyRules_cons, applyRule_relabel]
    cases entry.applyRule policy rule (Placeholder.resolve rule.2.value request seen) with
    | error failure => simp only [Except.map, Except.bind]
    | ok changed =>
      simp only [Except.map, Except.bind]
      exact ih changed

theorem shape_relabel {entry : Entry} (like : (other entry.backend).ShapesLike entry.backend) :
    (entry.relabel other).shape policy request seen = (entry.shape policy request seen).map (relabel other) := by
  obtain ⟨omitted, omitsHeader, omitsBody, group, mapper, projection⟩ := Config.Backend.shaping_eq like
  have applied : (entry.relabel other).applyRules policy request seen
        ((entry.relabel other).backend.modifiers.inScope .response) =
      (entry.applyRules policy request seen (entry.backend.modifiers.inScope .response)).map (relabel other) := by
    rw [show (entry.relabel other).backend.modifiers.inScope .response =
      entry.backend.modifiers.inScope .response from like.rules]
    exact applyRules_relabel entry
  by_cases shaped : entry.shaped = true
  · have still : (entry.relabel other).shaped = true := shaped
    simp only [shape, shaped, still, if_true, Except.map]
  · have still : ¬ (entry.relabel other).shaped = true := shaped
    simp only [shape, shaped, still, Bool.false_eq_true, if_false, applied]
    cases result : entry.applyRules policy request seen (entry.backend.modifiers.inScope .response) with
    | error failure => rfl
    | ok ruled =>
      have same : ruled.backend = entry.backend := (applyRules_sameReply result).1
      obtain ⟨backend, status, header, body, done⟩ := ruled
      subst same
      cases body with
      | none => simp only [Except.map, Except.bind, relabel, omitParts, omitsHeader, omitsBody]
      | some body =>
        have reshaped : shapeBody policy (other entry.backend).response body =
            shapeBody policy entry.backend.response body := by
          simp only [shapeBody, mapper, projection]
        simp only [Except.map, Except.bind, relabel, reshaped]
        cases shapeBody policy entry.backend.response body with
        | error failure => rfl
        | ok changed => simp only [omitParts, omitsHeader, omitsBody]

theorem formed_relabel {entry : Entry} (like : (other entry.backend).ShapesLike entry.backend) :
    (entry.relabel other).formed = entry.formed.relabel other := by
  obtain ⟨shaped, done⟩ := shape_failOpen entry {} {}
  rw [formed, shape_relabel like, formed, done]
  rfl

end Entry

/-! ## The final response -/

namespace Response

variable {policy : Change.Policy} {endpoint : Config.Endpoint} {other : Config.Backend → Config.Backend}
  (like : ∀ backend, (other backend).ShapesLike backend)

include like

theorem retained_relabel (history : List Entry) :
    retained (history.map (Entry.relabel other)) = (retained history).map (Entry.relabel other) := by
  have omitted : (fun entry : Entry => !(entry.relabel other).omitted) = fun entry => !entry.omitted := by
    funext entry
    exact congrArg (!·) (Config.Backend.shaping_eq (like entry.backend)).1
  by_cases several : history.length > 1
  · simp only [retained, List.length_map, several, if_true, List.filter_map, Function.comp_def, omitted]
  · simp only [retained, List.length_map, several, if_false]

theorem group_relabel (entry : Entry) : (entry.relabel other).group? = entry.group? := by
  obtain ⟨_, _, _, group, _, _⟩ := Config.Backend.shaping_eq (like entry.backend)
  simp only [Entry.group?, Entry.relabel, group]

theorem fieldsFrom_relabel (position : Nat) (fields : List (String × Json)) (entries : List Entry) :
    Aggregate.fieldsFrom position fields (entries.map (Entry.relabel other)) =
      Aggregate.fieldsFrom position fields entries := by
  induction entries generalizing position fields with
  | nil => rfl
  | cons entry rest ih =>
    have added : Aggregate.addEntry fields position (entry.relabel other) = Aggregate.addEntry fields position entry := by
      simp only [Aggregate.addEntry, group_relabel like, Entry.body_relabel]
    simp only [List.map_cons, Aggregate.fieldsFrom, added, ih]

theorem list_relabel (entries : List Entry) :
    Aggregate.list (entries.map (Entry.relabel other)) = Aggregate.list entries := by
  have item : Aggregate.item ∘ Entry.relabel other = Aggregate.item := by
    funext entry
    simp only [Function.comp_apply, Aggregate.item, group_relabel like, Entry.body_relabel]
  rw [Aggregate.list, List.map_map, item, Aggregate.list]

theorem content_relabel (entries : List Entry) (last : Entry) :
    content endpoint (entries.map (Entry.relabel other)) (last.relabel other) = content endpoint entries last := by
  simp only [content, List.length_map, Aggregate.object, fieldsFrom_relabel like, list_relabel like, Entry.status_relabel,
    Entry.body_relabel]

/-- The final response of entries is that of the same entries under backends that shape them alike. -/
theorem assemble_relabel (history : List Entry) :
    assemble policy endpoint (history.map (Entry.relabel other)) = assemble policy endpoint history := by
  have header : ∀ entries : List Entry, finalHeader endpoint (history.map (Entry.relabel other))
      (entries.map (Entry.relabel other)) = finalHeader endpoint history entries := by
    intro entries
    simp only [finalHeader, List.length_map, List.all_map, List.foldl_map]
    rfl
  simp only [assemble, retained_relabel like, List.getLast?_map, header]
  cases (retained history).getLast? with
  | none => rfl
  | some last => simp only [Option.map_some, content_relabel like]

end Response
end Junction
