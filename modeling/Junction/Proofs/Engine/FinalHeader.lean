import Junction.Engine.Final
import Junction.Proofs.Engine.Step
import Junction.Proofs.Message.HeaderName
import Junction.Proofs.Message.Joined

/-!
The header of the final response: what the gateway tells of its own, then what the entries that are kept say. The
entries come second and their values are added, so that one of them can put another value next to that of the gateway.
-/

namespace Junction
open Outcome

/-! ## Flags -/

namespace Response

variable {endpoint : Config.Endpoint} {history : List Entry} {field : String}

/-- Whether all backends have answered. -/
def isComplete (endpoint : Config.Endpoint) (history : List Entry) : Bool :=
  history.length == endpoint.effective.backendCount

/-- Whether no entry that is kept is an error. -/
def isSuccess (history : List Entry) : Bool := (retained history).all (·.ok)

/-- What the gateway tells of its own under a field. -/
def ownValues (endpoint : Config.Endpoint) (history : List Entry) (field : String) : List String :=
  if field = Header.complete then [toString (isComplete endpoint history)]
  else if field = Header.success then [toString (isSuccess history)] else []

/-- What the entries that are kept say under a field, in their order. -/
def keptValues (history : List Entry) (field : String) : List String :=
  (retained history).flatMap fun entry => entry.header.fields.getAll field

/-- A header that tells whether all backends have answered and whether none with an error. -/
def flags (endpoint : Config.Endpoint) (history : List Entry) : Header :=
  (Header.empty.set Header.complete (toString (isComplete endpoint history))).set Header.success
    (toString (isSuccess history))

theorem headerName_complete : headerName Header.complete = Header.complete := by decide +kernel

theorem headerName_success : headerName Header.success = Header.success := by decide +kernel

theorem getAll_flags (endpoint : Config.Endpoint) (history : List Entry) (field : String) :
    (flags endpoint history).fields.getAll field = ownValues endpoint history field := by
  have different : Header.success ≠ Header.complete := by decide
  simp only [flags, Header.set, headerName_complete, headerName_success, Multimap.getAll_set, ownValues, Header.empty,
    Multimap.getAll_empty, eq_comm (a := field)]
  by_cases ofSuccess : Header.success = field
  · have notComplete : Header.complete ≠ field := ofSuccess ▸ different.symm
    simp only [ofSuccess, notComplete, if_true, if_false]
  · simp only [ofSuccess, if_false]

theorem finalHeader_eq (endpoint : Config.Endpoint) (history : List Entry) :
    finalHeader endpoint history (retained history) =
      ((retained history).map (·.header)).foldl Header.aggregate (flags endpoint history) := by
  rw [List.foldl_map]
  rfl

/-- Under every field the final header has what the gateway tells of its own, then what the entries that are kept say,
each value once. -/
theorem getAll_finalHeader (shared : ¬ Header.IsOfContent field) :
    (finalHeader endpoint history (retained history)).fields.getAll field =
      (ownValues endpoint history field ++ keptValues history field).eraseDups := by
  have own : (flags endpoint history).fields.getAll field = (ownValues endpoint history field).eraseDups := by
    rw [getAll_flags]
    unfold ownValues
    split
    · simp [List.eraseDups_cons]
    · split
      · simp [List.eraseDups_cons]
      · rfl
  rw [finalHeader_eq, Header.getAll_foldl_aggregate shared own, List.flatMap_map]
  rfl

/-- Length and type of the content of an entry are not in the final header. -/
theorem getAll_finalHeader_ofContent (own : Header.IsOfContent field) :
    (finalHeader endpoint history (retained history)).fields.getAll field = [] := by
  rw [finalHeader_eq, Header.getAll_foldl_aggregate_ofContent own, getAll_flags]
  rcases own with rfl | rfl
  · rfl
  · rfl

/-! ## Written responses -/

variable {policy : Change.Policy} {context : Context} {request : Request} {response shaped : Response}
  {made : Nat × Header × Option Body}

/-- Shaping changes nothing of a response but its entries, each by itself. -/
theorem shapeEntries_eq_ok (going : response.isTerminal = false)
    (done : response.shapeEntries policy request = .ok shaped) :
    List.Forall₂ (fun entry changed => entry.shape policy request response = .ok changed) response.history
        shaped.history ∧
      shaped = { response with history := shaped.history } := by
  unfold shapeEntries at done
  split at done
  · rename_i whole
    cases done
    refine ⟨List.forall₂_same.mpr ?_, rfl⟩
    intro entry member
    rw [Entry.shape, if_pos (List.all_eq_true.mp whole entry member)]
  · obtain ⟨entries, formed, same⟩ := map_eq_ok.mp done
    have shapes := mapM_eq_ok formed
    have replaced : response.withHistory entries = { response with history := entries } := by
      simp [withHistory, unwritten_of_going going, shapes.length_eq]
    rw [← same, replaced]
    exact ⟨shapes, rfl⟩

theorem header_of_assemble (done : assemble policy endpoint history = .ok made) :
    made.2.1 = finalHeader endpoint history (retained history) := by
  simp only [assemble] at done
  split at done
  · cases done
  · split at done
    · cases done
      rfl
    · obtain ⟨body, _, same⟩ := map_eq_ok.mp done
      rw [← same]

/-- A response that is written is the one that was going on, with its entries in their shapes and with what is made of
them. -/
theorem write_of_written (going : response.isTerminal = false)
    (written : (response.write context endpoint request).written = true) :
    ∃ (entries : List Entry) (made : Nat × Header × Option Body),
      List.Forall₂ (fun entry shaped => entry.shape context.policy request response = .ok shaped) response.history entries ∧
        assemble context.policy endpoint entries = .ok made ∧
        response.write context endpoint request =
          { response with status := made.1, header := made.2.1, body := made.2.2, written := true, history := entries } := by
  have unwritten := unwritten_of_going going
  cases shaping : response.shapeEntries context.policy request with
  | error failure =>
    have ended : response.write context endpoint request = response.fail context.stamp endpoint.path failure := by
      simp only [write, going, shaping, Bool.false_eq_true, if_false]
    rw [ended, written_fail, unwritten] at written
    cases written
  | ok shaped =>
    obtain ⟨shapes, same⟩ := shapeEntries_eq_ok going shaping
    have unwritten' : shaped.written = false := by rw [same]; exact unwritten
    cases assembled : assemble context.policy endpoint shaped.history with
    | error failure =>
      have ended : response.write context endpoint request = shaped.fail context.stamp endpoint.path failure := by
        simp only [write, going, shaping, assembled, Bool.false_eq_true, if_false]
      rw [ended, written_fail, unwritten'] at written
      cases written
    | ok made =>
      have finished : response.write context endpoint request = shaped.finish made.1 made.2.1 made.2.2 := by
        simp only [write, going, shaping, assembled, Bool.false_eq_true, if_false]
      refine ⟨shaped.history, made, shapes, assembled, ?_⟩
      rw [finished, finish, if_neg (by simp [unwritten']), same]

/-- What the header of a written response tells: under its own two fields the gateway comes first, and is alone there
as long as no entry says otherwise; of all other fields the entries decide, but for those that describe a content. -/
structure HeaderTells (endpoint : Config.Endpoint) (history : List Entry) (header : Header) : Prop where
  complete_first : header.get? Header.complete = some (toString (isComplete endpoint history))
  complete_alone : header.getAll Header.complete = [toString (isComplete endpoint history)] ↔
    ∀ value ∈ keptValues history Header.complete, value = toString (isComplete endpoint history)
  success_first : header.get? Header.success = some (toString (isSuccess history))
  success_alone : header.getAll Header.success = [toString (isSuccess history)] ↔
    ∀ value ∈ keptValues history Header.success, value = toString (isSuccess history)
  others : ∀ field, field ≠ Header.complete → field ≠ Header.success → ¬ Header.IsOfContent field →
    header.fields.getAll field = (keptValues history field).eraseDups
  content : ∀ field, Header.IsOfContent field → header.fields.getAll field = []

/-- A field of the gateway's own has its value first, and no other as long as no entry says otherwise. -/
theorem ownField_finalHeader {name value : String} (spelled : headerName name = name)
    (shared : ¬ Header.IsOfContent name) (own : ownValues endpoint history name = [value]) :
    (finalHeader endpoint history (retained history)).get? name = some value ∧
      ((finalHeader endpoint history (retained history)).getAll name = [value] ↔
        ∀ other ∈ keptValues history name, other = value) := by
  have listed : (finalHeader endpoint history (retained history)).fields.getAll name =
      (value :: keptValues history name).eraseDups := by
    rw [getAll_finalHeader shared, own, List.singleton_append]
  refine ⟨?_, ?_⟩
  · rw [Header.get?, spelled, Multimap.get?_eq_head?, listed, List.eraseDups_cons, List.head?_cons]
  · rw [Header.getAll, spelled, listed]
    exact Values.eraseDups_eq_single

theorem headerTells_finalHeader (endpoint : Config.Endpoint) (history : List Entry) :
    HeaderTells endpoint history (finalHeader endpoint history (retained history)) := by
  have ownComplete : ownValues endpoint history Header.complete = [toString (isComplete endpoint history)] := rfl
  have ownSuccess : ownValues endpoint history Header.success = [toString (isSuccess history)] := rfl
  obtain ⟨complete, completeAlone⟩ := ownField_finalHeader headerName_complete (by decide) ownComplete
  obtain ⟨success, successAlone⟩ := ownField_finalHeader headerName_success (by decide) ownSuccess
  refine ⟨complete, completeAlone, success, successAlone, ?_, ?_⟩
  · intro field notComplete notSuccess shared
    rw [getAll_finalHeader shared, ownValues, if_neg notComplete, if_neg notSuccess, List.nil_append]
  · intro field own
    exact getAll_finalHeader_ofContent own

/-- The header of a written response: first what the gateway tells of its own, then what the entries that are kept say
in their shapes. -/
theorem write_headerTells (context : Context) (endpoint : Config.Endpoint) (request : Request) (response : Response)
    (going : response.isTerminal = false) (written : (response.write context endpoint request).written = true) :
    List.Forall₂ (fun entry shaped => entry.shape context.policy request response = .ok shaped) response.history
        (response.write context endpoint request).history ∧
      HeaderTells endpoint (response.write context endpoint request).history
        (response.write context endpoint request).header := by
  obtain ⟨entries, made, shapes, assembled, final⟩ := write_of_written going written
  rw [final]
  refine ⟨shapes, ?_⟩
  dsimp only
  rw [header_of_assemble assembled]
  exact headerTells_finalHeader endpoint entries

/-- An endpoint of one backend. -/
def singleEndpoint : Config.Endpoint := { effective := { backendCount := 1 } }

/-- The response of one backend, which is itself a gateway and has lost one of its own backends. -/
def nestedResponse : Response :=
  { history := [⟨{ name := "inner" }, 200, Header.empty.set Header.complete "false", none, true⟩] }

theorem write_headerTells_nested :
    nestedResponse.isTerminal = false ∧ (nestedResponse.write default singleEndpoint {}).written = true ∧
      HeaderTells singleEndpoint (nestedResponse.write default singleEndpoint {}).history
        (nestedResponse.write default singleEndpoint {}).header := by
  have going : nestedResponse.isTerminal = false := by decide
  have written : (nestedResponse.write default singleEndpoint {}).written = true := by decide +kernel
  exact ⟨going, written, (write_headerTells default singleEndpoint {} nestedResponse going written).2⟩

/-- The gateway says that all backends have answered, and the backend's own field contradicts it in the same response. -/
theorem complete_contradicted :
    (nestedResponse.write default singleEndpoint {}).written = true ∧
      nestedResponse.history.length = singleEndpoint.effective.backendCount ∧
      (nestedResponse.write default singleEndpoint {}).header.getAll Header.complete = ["true", "false"] := by
  decide +kernel

end Response
end Junction
