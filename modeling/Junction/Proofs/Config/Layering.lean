import Junction.Http.Service
import Junction.Proofs.Config.Validation
import Mathlib.Data.List.Forall2

/-!
The settings that hold for an endpoint: what it sets of its own, and for the rest what its gateway sets (`Holds`). Resolving
gives them to every endpoint and changes nothing else; once is enough, so that a service of a gateway that has been read
runs the gateway as it was read (`resolve_layered`).
-/

namespace Junction.Config

variable {β : Type} {gateway : Gateway} {endpoint : Endpoint} {one other effective : Effective}

/-! ## Settings -/

/-- A setting that an endpoint may set for itself and that the gateway sets for all others. -/
inductive Layered : Type → Type 1
  | timeoutMs : Layered Nat
  | maxHeaderSize : Layered Nat
  | maxBodySize : Layered Nat
  | rate : Layered Rate
  | enabled : Layered Bool
  | durationMs : Layered Nat
  | strategyHeaders : Layered (List String)
  | onlyMethods : Layered (List String)
  | onlyStatuses : Layered (List Nat)
  | allowControl : Layered Bool

namespace Layered

/-- What an endpoint sets. -/
def own : Layered β → Endpoint → Option β
  | timeoutMs, endpoint => endpoint.timeoutMs
  | maxHeaderSize, endpoint => endpoint.limits.maxHeaderSize
  | maxBodySize, endpoint => endpoint.limits.maxBodySize
  | rate, endpoint => endpoint.limits.rate
  | enabled, endpoint => endpoint.caching.enabled
  | durationMs, endpoint => endpoint.caching.durationMs
  | strategyHeaders, endpoint => endpoint.caching.strategyHeaders
  | onlyMethods, endpoint => endpoint.caching.onlyMethods
  | onlyStatuses, endpoint => endpoint.caching.onlyStatuses
  | allowControl, endpoint => endpoint.caching.allowControl

/-- What a gateway sets. -/
def base : Layered β → Gateway → β
  | timeoutMs, gateway => gateway.timeoutMs
  | maxHeaderSize, gateway => gateway.limits.maxHeaderSize
  | maxBodySize, gateway => gateway.limits.maxBodySize
  | rate, gateway => gateway.limits.rate
  | enabled, gateway => gateway.caching.enabled
  | durationMs, gateway => gateway.caching.durationMs
  | strategyHeaders, gateway => gateway.caching.strategyHeaders
  | onlyMethods, gateway => gateway.caching.onlyMethods
  | onlyStatuses, gateway => gateway.caching.onlyStatuses
  | allowControl, gateway => gateway.caching.allowControl

/-- What holds. -/
def held : Layered β → Effective → β
  | timeoutMs, effective => effective.timeoutMs
  | maxHeaderSize, effective => effective.limits.maxHeaderSize
  | maxBodySize, effective => effective.limits.maxBodySize
  | rate, effective => effective.limits.rate
  | enabled, effective => effective.caching.enabled
  | durationMs, effective => effective.caching.durationMs
  | strategyHeaders, effective => effective.caching.strategyHeaders
  | onlyMethods, effective => effective.caching.onlyMethods
  | onlyStatuses, effective => effective.caching.onlyStatuses
  | allowControl, effective => effective.caching.allowControl

/-- There is nothing but these settings and the number of backends. -/
theorem ext_held (same : ∀ {β : Type} (setting : Layered β), setting.held one = setting.held other)
    (counts : one.backendCount = other.backendCount) : one = other := by
  obtain ⟨timeout, ⟨header, body, rate⟩, ⟨enabled, duration, headers, methods, statuses, control⟩, count⟩ := one
  obtain ⟨timeout', ⟨header', body', rate'⟩, ⟨enabled', duration', headers', methods', statuses', control'⟩, count'⟩ := other
  cases same .timeoutMs
  cases same .maxHeaderSize
  cases same .maxBodySize
  cases same .rate
  cases same .enabled
  cases same .durationMs
  cases same .strategyHeaders
  cases same .onlyMethods
  cases same .onlyStatuses
  cases same .allowControl
  cases counts
  rfl

theorem held_effective (setting : Layered β) (gateway : Gateway) (endpoint : Endpoint) :
    setting.held (gateway.effective endpoint) = (setting.own endpoint).getD (setting.base gateway) := by
  cases setting <;> rfl

end Layered

/-! ## Endpoints -/

namespace Gateway

/-- The settings that hold for an endpoint: each one is its own if it sets it, else that of the gateway. Its backends and
the middlewares that it names are counted, one that is named again once more. -/
structure Holds (gateway : Gateway) (endpoint : Endpoint) (effective : Effective) : Prop where
  own : ∀ {β : Type} (setting : Layered β) (value : β), setting.own endpoint = some value → setting.held effective = value
  inherited : ∀ {β : Type} (setting : Layered β), setting.own endpoint = none →
    setting.held effective = setting.base gateway
  counted : effective.backendCount = endpoint.backends.length +
    (endpoint.beforewares ++ endpoint.afterwares).countP (· ∈ gateway.middlewares.keys)

theorem Holds.held (holds : gateway.Holds endpoint effective) (setting : Layered β) :
    setting.held effective = (setting.own endpoint).getD (setting.base gateway) := by
  cases set : setting.own endpoint with
  | none => exact holds.inherited setting set
  | some value => exact holds.own setting value set

theorem holds_iff : gateway.Holds endpoint effective ↔ effective = gateway.effective endpoint := by
  have counted : (gateway.effective endpoint).backendCount = endpoint.backends.length +
      (endpoint.beforewares ++ endpoint.afterwares).countP (· ∈ gateway.middlewares.keys) := by
    have named : gateway.middlewares.contains = fun name => decide (name ∈ gateway.middlewares.keys) := by
      funext name
      rw [Bool.eq_iff_iff, decide_eq_true_eq, Sorted.contains_iff_mem_keys]
    rw [← named, List.countP_eq_length_filter, Nat.add_comm]
    rfl
  constructor
  · -- Every setting is told by `own` and `inherited`, and there are no others.
    intro holds
    refine Layered.ext_held ?_ (holds.counted.trans counted.symm)
    intro β setting
    rw [holds.held, Layered.held_effective]
  · rintro rfl
    refine ⟨?_, ?_, counted⟩
    · intro β setting value set
      rw [Layered.held_effective, set, Option.getD_some]
    · intro β setting unset
      rw [Layered.held_effective, unset, Option.getD_none]

/-! ## Gateways -/

theorem endpoints_resolve (gateway : Gateway) : gateway.resolve.endpoints =
    gateway.endpoints.map fun endpoint => { endpoint with effective := gateway.effective endpoint } := rfl

/-- What holds for an endpoint does not depend on what is said to hold for it. -/
theorem effective_resolve (gateway : Gateway) (endpoint : Endpoint) (effective : Effective) :
    gateway.resolve.effective { endpoint with effective := effective } = gateway.effective endpoint := rfl

/-- Resolving a gateway once more changes nothing. -/
theorem resolve_resolve (gateway : Gateway) : gateway.resolve.resolve = gateway.resolve := by
  have settled : (gateway.resolve.endpoints.map fun endpoint =>
      { endpoint with effective := gateway.resolve.effective endpoint }) = gateway.resolve.endpoints := by
    rw [endpoints_resolve, List.map_map]
    apply List.map_congr_left
    intro endpoint _
    simp only [Function.comp_apply, effective_resolve]
  calc gateway.resolve.resolve
      = { gateway.resolve with endpoints := gateway.resolve.endpoints.map fun endpoint =>
          { endpoint with effective := gateway.resolve.effective endpoint } } := rfl
    _ = gateway.resolve := by rw [settled]

theorem map_resolve_parse (format : FileFormat) (text : String) : (parse format text).map resolve = parse format text := by
  cases parsed : parse format text with
  | error error => rfl
  | ok gateway =>
    obtain ⟨raw, _, rfl⟩ := resolved_of_parse parsed
    exact congrArg Except.ok (resolve_resolve raw)

/-- Each endpoint gets the settings that hold for it, and nothing else of it changes. -/
theorem settled_resolve (gateway : Gateway) :
    List.Forall₂ (fun endpoint settled => ∀ effective,
      gateway.Holds endpoint effective ↔ settled = { endpoint with effective := effective })
      gateway.endpoints gateway.resolve.endpoints := by
  rw [endpoints_resolve, List.forall₂_map_right_iff, List.forall₂_same]
  intro endpoint _ effective
  rw [holds_iff]
  constructor
  · rintro rfl
    rfl
  · intro same
    exact (congrArg Endpoint.effective same).symm

theorem held_resolve (gateway : Gateway) (setting : Layered β) (place : Nat) :
    (gateway.resolve.endpoints[place]?).map (fun endpoint => setting.held endpoint.effective) =
      ((gateway.endpoints[place]?).map setting.own).map fun own => own.getD (setting.base gateway) := by
  rw [endpoints_resolve, List.getElem?_map, Option.map_map, Option.map_map]
  congr 1
  funext endpoint
  exact setting.held_effective gateway endpoint

/-- A gateway is resolved once and for all: when it is read, or when a service of it starts or goes on with it. Nothing
changes but the settings that hold for its endpoints, which are what each endpoint sets and for the rest what the gateway
sets. One of them depends on nothing else, neither on the other settings nor on the other endpoints. -/
theorem resolve_layered {σ : Type} (gateway : Gateway) (format : FileFormat) (text : String) (cache : σ) :
    gateway.resolve.resolve = gateway.resolve ∧ (parse format text).map resolve = parse format text ∧
      Http.Service.start gateway.resolve cache = Http.Service.start gateway cache ∧
      (∀ service : Http.Service σ, service.reload gateway.resolve = service.reload gateway) ∧
      gateway.resolve = { gateway with endpoints := gateway.resolve.endpoints } ∧
      List.Forall₂ (fun endpoint settled => ∀ effective,
        gateway.Holds endpoint effective ↔ settled = { endpoint with effective := effective })
        gateway.endpoints gateway.resolve.endpoints ∧
      ∀ (other : Gateway) (β : Type) (setting : Layered β) (place : Nat),
        setting.base gateway = setting.base other →
        (gateway.endpoints[place]?).map setting.own = (other.endpoints[place]?).map setting.own →
        (gateway.resolve.endpoints[place]?).map (fun endpoint => setting.held endpoint.effective) =
          (other.resolve.endpoints[place]?).map fun endpoint => setting.held endpoint.effective := by
  refine ⟨resolve_resolve gateway, map_resolve_parse format text, ?_, ?_, rfl, settled_resolve gateway, ?_⟩
  · simp only [Http.Service.start, resolve_resolve]
  · intro service
    simp only [Http.Service.reload, resolve_resolve]
  · intro other β setting place sameBase sameOwn
    rw [held_resolve, held_resolve, sameBase, sameOwn]

/-- A gateway with two endpoints, one of which sets its time and names a middleware twice and another that is not there. -/
def pair : Gateway :=
  { timeoutMs := 5, middlewares := .ofList [("auth", {})],
    endpoints := [{ timeoutMs := some 9, beforewares := ["auth", "log", "auth"], backends := [{}] }, {}] }

/-- A gateway of one endpoint with the same time, and a cache. -/
def single : Gateway := { caching := { enabled := true }, timeoutMs := 5, endpoints := [{ path := "/a", timeoutMs := some 9 }] }

theorem resolve_layered_pair :
    pair.resolve.endpoints.map (·.effective.backendCount) = [3, 0] ∧
      (pair.resolve.endpoints[0]?).map (·.effective.timeoutMs) = some 9 ∧
      Layered.timeoutMs.base pair = Layered.timeoutMs.base single ∧
      (pair.endpoints[0]?).map Layered.timeoutMs.own = (single.endpoints[0]?).map Layered.timeoutMs.own ∧
      (pair.resolve.endpoints[0]?).map (·.effective.timeoutMs) =
        (single.resolve.endpoints[0]?).map (·.effective.timeoutMs) := by
  obtain ⟨_, _, _, _, _, _, alone⟩ := resolve_layered pair .json "" ()
  exact ⟨by decide +kernel, rfl, rfl, rfl, alone single Nat .timeoutMs 0 rfl rfl⟩

end Gateway
end Junction.Config
