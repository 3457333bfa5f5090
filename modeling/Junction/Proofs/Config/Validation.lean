import Junction.Config.Loading
import Junction.Engine.Run
import Junction.Proofs.Config.Faults

/-!
What a configuration without faults grants. All stages of its endpoints have been checked, whether they are
written at the endpoint or are middlewares. One that is read from a text has none (`faults_of_parse`).
-/

namespace Junction.Config

variable {gateway : Gateway} {endpoint : Endpoint} {backend : Backend} {format : FileFormat} {text : String}

/-- Endpoints of a configuration without faults are told apart by method and path. -/
theorem ids_of_faults (faultless : faults gateway = []) : (gateway.endpoints.map Endpoint.id).Nodup :=
  List.pairwise_map.mpr (faults_eq_nil_iff.mp faultless).distinct

/-- Backends that run for an endpoint of a configuration without faults are sound. -/
theorem isSound_of_faults (faultless : faults gateway = []) (listed : endpoint ∈ gateway.endpoints)
    (stage : backend ∈ gateway.stages endpoint) : backend.IsSound := by
  obtain ⟨endpoints, _, middlewares⟩ := faults_eq_nil_iff.mp faultless
  have known : ∀ names : List String, backend ∈ gateway.known names → backend.IsSound := by
    intro names member
    obtain ⟨name, _, found⟩ := List.mem_filterMap.mp member
    exact middlewares name backend found
  rcases List.mem_append.mp stage with before | after
  · rcases List.mem_append.mp before with before | own
    · exact known endpoint.beforewares before
    · exact (endpoints endpoint listed).backends backend own
  · exact known endpoint.afterwares after

theorem hosts_of_faults (faultless : faults gateway = []) (listed : endpoint ∈ gateway.endpoints) :
    ∀ backend ∈ gateway.stages endpoint, backend.hosts ≠ [] := by
  intro backend stage
  obtain ⟨host, inHosts, _⟩ := (isSound_of_faults faultless listed stage).hosts
  exact List.ne_nil_of_mem inHosts

theorem endpointsFaults_settled (settle : Endpoint → Effective) (seen : List String) (endpoints : List Endpoint) :
    endpointsFaults seen (endpoints.map fun endpoint => { endpoint with effective := settle endpoint }) =
      endpointsFaults seen endpoints := by
  induction endpoints generalizing seen with
  | nil => rfl
  | cons next rest ih => exact congrArg (endpointFaults seen next ++ ·) (ih (next.id :: seen))

/-- Resolving a configuration leaves its faults as they are. -/
theorem faults_resolve (gateway : Gateway) : faults gateway.resolve = faults gateway :=
  congrArg (· ++ _) (endpointsFaults_settled gateway.effective [] gateway.endpoints)

/-- A text that is read stands for a configuration without faults, resolved. -/
theorem resolved_of_parse (parsed : parse format text = .ok gateway) :
    ∃ raw : Gateway, faults raw = [] ∧ gateway = raw.resolve := by
  unfold parse at parsed
  split at parsed
  · cases parsed
  · split at parsed
    · cases parsed
    · rename_i raw _
      dsimp only at parsed
      split at parsed
      · rename_i faultless
        cases parsed
        exact ⟨raw, List.isEmpty_iff.mp faultless, rfl⟩
      · cases parsed

theorem faults_of_parse (parsed : parse format text = .ok gateway) : faults gateway = [] := by
  obtain ⟨raw, faultless, rfl⟩ := resolved_of_parse parsed
  rw [faults_resolve, faultless]

/-- A text that is read stands for a gateway with what has been checked of it. -/
theorem parse_of_checked {check : Gateway → Bool} (checked : (parse format text).toOption.map check = some true) :
    ∃ gateway, parse format text = .ok gateway ∧ check gateway = true := by
  cases parsed : parse format text with
  | error error =>
    rw [parsed] at checked
    cases checked
  | ok gateway =>
    rw [parsed] at checked
    exact ⟨gateway, rfl, Option.some.inj checked⟩

end Junction.Config
