import Junction.Http.Service
import Junction.Proofs.Limit.Check
import Junction.Proofs.Route.Table

/-!
What becomes of a request before any work is done for it. Whether it is let in is decided by the routes, the limiter and
the sizes; the cache and the transport have no part in it (`serve_eq`).
-/

namespace Junction.Http

/-- A request that comes to a service, and the transport of its calls. -/
structure Visit where
  arrival : Arrival
  inbound : Inbound
  transport : Transport

/-- What happens to a service. -/
inductive Event where
  | visit (visit : Visit)
  | reload (gateway : Config.Gateway)

/-- The check of the limiter for a request to an endpoint. -/
def Arrival.check (arrival : Arrival) (endpoint : Config.Endpoint) : Limit.Check :=
  ⟨arrival.now, endpoint.id, arrival.client, endpoint.effective.limits.rate⟩

namespace Service

variable {σ : Type} {service : Service σ} {access : Cache.Access σ} {transport : Transport} {arrival : Arrival}
  {inbound : Inbound} {accepted : Accepted} {endpoint : Config.Endpoint} {params : Params} {failure : Failure}

/-- The request that a service works on: it has a route, its client may go on, and it keeps the sizes. -/
def admitted? (service : Service σ) (arrival : Arrival) (inbound : Inbound) : Option Accepted :=
  match service.table.lookup inbound.method inbound.target.path with
  | .error _ => none
  | .ok route =>
    match service.gateway.endpoints[route.endpoint]? with
    | none => none
    | some endpoint =>
      if (service.limiter.check arrival.now endpoint.id arrival.client endpoint.effective.limits.rate).2 then
        (accept endpoint route.params inbound arrival).toOption
      else none

/-- The limiter after a request, and the request to work on, or where and why it is refused. -/
def admission (service : Service σ) (arrival : Arrival) (inbound : Inbound) :
    Limit.Limiter × Except (String × Failure) Accepted :=
  match service.table.lookup inbound.method inbound.target.path with
  | .error failure => (service.limiter, .error (inbound.target.path, failure))
  | .ok route =>
    match service.gateway.endpoints[route.endpoint]? with
    | none =>
      (service.limiter, .error (inbound.target.path, .stated .internal "matched endpoint missing from configuration"))
    | some endpoint =>
      let checked := service.limiter.check arrival.now endpoint.id arrival.client endpoint.effective.limits.rate
      (checked.1,
        if checked.2 then (accept endpoint route.params inbound arrival).mapError (endpoint.path, ·)
        else .error (endpoint.path, .tooManyRequests))

theorem admitted?_eq (service : Service σ) (arrival : Arrival) (inbound : Inbound) :
    service.admitted? arrival inbound = (service.admission arrival inbound).2.toOption := by
  unfold admitted? admission
  cases service.table.lookup inbound.method inbound.target.path with
  | error failure => rfl
  | ok route =>
    dsimp only
    cases service.gateway.endpoints[route.endpoint]? with
    | none => rfl
    | some endpoint =>
      dsimp only
      obtain ⟨limiter, allowed⟩ :=
        service.limiter.check arrival.now endpoint.id arrival.client endpoint.effective.limits.rate
      cases allowed with
      | false => rfl
      | true => cases accept endpoint route.params inbound arrival <;> rfl

/-- A request that is let in is answered, and one that is not is refused. -/
theorem serve_eq (service : Service σ) (access : Cache.Access σ) (transport : Transport) (arrival : Arrival)
    (inbound : Inbound) :
    service.serve access transport arrival inbound =
      match service.admission arrival inbound with
      | (limiter, .ok accepted) =>
        ({ service with limiter := limiter } : Service σ).answer access transport arrival accepted
      | (limiter, .error (path, failure)) => ({ service with limiter := limiter }, refuse arrival path failure) := by
  unfold serve admission
  cases service.table.lookup inbound.method inbound.target.path with
  | error failure => rfl
  | ok route =>
    dsimp only
    cases service.gateway.endpoints[route.endpoint]? with
    | none => rfl
    | some endpoint =>
      dsimp only [serveEndpoint]
      obtain ⟨limiter, allowed⟩ :=
        service.limiter.check arrival.now endpoint.id arrival.client endpoint.effective.limits.rate
      cases allowed with
      | false => rfl
      | true => cases accept endpoint route.params inbound arrival <;> rfl

theorem serve_of_admitted (access : Cache.Access σ) (transport : Transport)
    (admitted : service.admitted? arrival inbound = some accepted) :
    ∃ limiter : Limit.Limiter, service.serve access transport arrival inbound =
      ({ service with limiter := limiter } : Service σ).answer access transport arrival accepted := by
  rw [admitted?_eq] at admitted
  rw [serve_eq]
  cases let_in : service.admission arrival inbound with
  | mk limiter result =>
    rw [let_in] at admitted
    cases result with
    | error refusal => cases admitted
    | ok accepted =>
      cases admitted
      exact ⟨limiter, rfl⟩

theorem serve_of_refused (access : Cache.Access σ) (transport : Transport)
    (refused : service.admitted? arrival inbound = none) :
    ∃ (limiter : Limit.Limiter) (path : String) (failure : Failure),
      service.serve access transport arrival inbound =
        ({ service with limiter := limiter }, refuse arrival path failure) := by
  rw [admitted?_eq] at refused
  rw [serve_eq]
  cases turned : service.admission arrival inbound with
  | mk limiter result =>
    rw [turned] at refused
    cases result with
    | error refusal =>
      obtain ⟨path, failure⟩ := refusal
      exact ⟨limiter, path, failure, rfl⟩
    | ok accepted => cases refused

/-! ## What an answer changes -/

theorem answerFromCache_fst (service : Service σ) (access : Cache.Access σ) (arrival : Arrival) (accepted : Accepted) :
    ∃ cache : σ, (service.answerFromCache access arrival accepted).1 = { service with cache := cache } := by
  unfold answerFromCache
  split
  · split
    · exact ⟨service.cache, rfl⟩
    · unfold cached
      split
      · split
        · exact ⟨_, rfl⟩
        · exact ⟨_, rfl⟩
      · exact ⟨_, rfl⟩
  · exact ⟨service.cache, rfl⟩

theorem keep_eq (service : Service σ) (access : Cache.Access σ) (arrival : Arrival) (accepted : Accepted)
    (response : Response) :
    ∃ cache : σ, service.keep access arrival accepted response = { service with cache := cache } := by
  unfold keep
  split
  · split
    · exact ⟨_, rfl⟩
    · exact ⟨service.cache, rfl⟩
  · exact ⟨service.cache, rfl⟩

/-- An answer changes nothing but the cache. -/
theorem answer_fst (service : Service σ) (access : Cache.Access σ) (transport : Transport) (arrival : Arrival)
    (accepted : Accepted) :
    ∃ cache : σ, (service.answer access transport arrival accepted).1 = { service with cache := cache } := by
  obtain ⟨cache, asked⟩ := answerFromCache_fst service access arrival accepted
  unfold answer
  split
  · rename_i answered
    rw [answered] at asked
    exact ⟨cache, asked⟩
  · rename_i answered
    rw [answered] at asked
    subst asked
    split
    · exact ⟨cache, rfl⟩
    · exact keep_eq ..

/-- Where nothing is found in the cache, the run answers. -/
theorem answer_snd (transport : Transport) (missed : (service.answerFromCache access arrival accepted).2 = none) :
    (service.answer access transport arrival accepted).2 =
      match service.orchestrate transport arrival accepted with
      | .error failure =>
        { refuse arrival accepted.endpoint.path failure with calls := (service.runOf transport arrival accepted).calls }
      | .ok served => served := by
  obtain ⟨cache, asked⟩ := answerFromCache_fst service access arrival accepted
  have pair : service.answerFromCache access arrival accepted = ({ service with cache := cache }, none) :=
    Prod.ext asked missed
  have same : ({ service with cache := cache } : Service σ).orchestrate transport arrival accepted =
      service.orchestrate transport arrival accepted := rfl
  simp only [answer, pair, same]
  cases service.orchestrate transport arrival accepted <;> rfl

theorem serve_fst (service : Service σ) (access : Cache.Access σ) (transport : Transport) (arrival : Arrival)
    (inbound : Inbound) :
    ∃ cache : σ, (service.serve access transport arrival inbound).1 =
      { service with limiter := (service.admission arrival inbound).1, cache := cache } := by
  rw [serve_eq]
  obtain ⟨limiter, result⟩ := service.admission arrival inbound
  cases result with
  | ok accepted => exact answer_fst ({ service with limiter := limiter } : Service σ) ..
  | error refusal => exact ⟨service.cache, rfl⟩

end Service
end Junction.Http
