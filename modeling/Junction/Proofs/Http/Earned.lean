import Junction.Proofs.Cache.Store
import Junction.Proofs.Cache.Stored
import Junction.Proofs.Engine.CallOrder
import Junction.Proofs.Engine.Completeness
import Junction.Proofs.Http.Admission
import Mathlib.Data.List.Induction

/-!
What is served from the cache was earned. A service with a store in memory goes through requests and reloads; every
slot of its store is that of the last request whose response was to be kept under its key (`slot_through`), so that an
answer from the cache is such a response again (`served_fromCache`).
-/

namespace Junction.Http
open Cache (Slot Store Stored)

namespace Service

/-! ## Answers over a store in memory -/

variable {service : Service (Store String)} {limiter : Limit.Limiter} {transport : Transport} {arrival : Arrival}
  {inbound : Inbound} {accepted : Accepted} {response : Response} {key : String} {slot : Slot String} {visit : Visit}
  {event : Event}

/-- Asking the cache changes nothing but the store, which loses values at most; the limiter has no part in it. -/
theorem answerFromCache_eq (service : Service (Store String)) (limiter : Limit.Limiter) (arrival : Arrival)
    (accepted : Accepted) :
    ∃ store : Store String, store.Within service.cache ∧
      ({ service with limiter := limiter } : Service (Store String)).answerFromCache .memory arrival accepted =
        ({ service with limiter := limiter, cache := store },
          (service.answerFromCache .memory arrival accepted).2) := by
  cases keyed : cacheKey? accepted with
  | none =>
    refine ⟨service.cache, .refl _, ?_⟩
    simp only [answerFromCache, keyed]
  | some key =>
    cases refused : asks accepted "no-cache" with
    | true =>
      refine ⟨service.cache, .refl _, ?_⟩
      simp only [answerFromCache, keyed, refused, if_true]
    | false =>
      have within := Store.get_within service.cache arrival.now key
      cases asked : service.cache.get arrival.now key with
      | mk store hit =>
        rw [asked] at within
        cases hit with
        | none =>
          refine ⟨store, within, ?_⟩
          simp only [answerFromCache, keyed, refused, Bool.false_eq_true, if_false, cached, Cache.Access.memory, asked,
            Cache.Access.found]
        | some hit =>
          cases decoded : Stored.decode? hit.value with
          | some stored =>
            refine ⟨store, within, ?_⟩
            simp only [answerFromCache, keyed, refused, Bool.false_eq_true, if_false, cached, Cache.Access.memory, asked,
              Cache.Access.found, decoded]
          | none =>
            refine ⟨store.del key, (Store.del_within store key).trans within, ?_⟩
            simp only [answerFromCache, keyed, refused, Bool.false_eq_true, if_false, cached, Cache.Access.memory, asked,
              Cache.Access.found, decoded]

/-- An answer from the cache is made of a slot under the key of the request that has not expired, and the client has not
asked otherwise. -/
theorem answerFromCache_eq_some (found : (service.answerFromCache .memory arrival accepted).2 = some response) :
    ∃ (key : String) (slot : Slot String) (stored : Stored),
      cacheKey? accepted = some key ∧ asks accepted "no-cache" = false ∧ service.cache.slots.get? key = some slot ∧
        arrival.now < slot.expires ∧ Stored.decode? slot.value = some stored ∧
        response = stored.response (slot.expires - arrival.now) := by
  unfold answerFromCache at found
  split at found
  · rename_i key keyed
    split at found
    · cases found
    · rename_i unasked
      simp only [cached, Cache.Access.memory] at found
      cases asked : service.cache.get arrival.now key with
      | mk store hit =>
        rw [asked] at found
        cases hit with
        | none => cases found
        | some hit =>
          obtain ⟨slot, listed, fresh, rfl⟩ := Store.get_eq_some (congrArg Prod.snd asked)
          simp only [Cache.Access.found] at found
          split at found
          · rename_i stored decoded
            cases found
            exact ⟨key, slot, stored, keyed, by simpa using unasked, listed, fresh, decoded, rfl⟩
          · cases found
  · cases found

theorem answer_of_found (limiter : Limit.Limiter) (transport : Transport)
    (found : (service.answerFromCache .memory arrival accepted).2 = some response) :
    ∃ store : Store String, store.Within service.cache ∧
      ({ service with limiter := limiter } : Service (Store String)).answer .memory transport arrival accepted =
        ({ service with limiter := limiter, cache := store }, ⟨response, []⟩) := by
  obtain ⟨store, within, answered⟩ := answerFromCache_eq service limiter arrival accepted
  refine ⟨store, within, ?_⟩
  simp only [answer, answered, found]

theorem answer_of_missed (limiter : Limit.Limiter) (transport : Transport)
    (missed : (service.answerFromCache .memory arrival accepted).2 = none) :
    ∃ store : Store String, store.Within service.cache ∧
      ({ service with limiter := limiter } : Service (Store String)).answer .memory transport arrival accepted =
        match service.orchestrate transport arrival accepted with
        | .error failure =>
          ({ service with limiter := limiter, cache := store },
            { refuse arrival accepted.endpoint.path failure with
              calls := (service.runOf transport arrival accepted).calls })
        | .ok served =>
          (({ service with limiter := limiter, cache := store } : Service (Store String)).keep .memory arrival accepted
            served.response, served) := by
  obtain ⟨store, within, answered⟩ := answerFromCache_eq service limiter arrival accepted
  refine ⟨store, within, ?_⟩
  simp only [answer, answered, missed]
  rfl

/-! ## Responses that are kept -/

/-- A request whose response a service keeps: it is let in and has a key, nothing is found under it, its run ends with a
written response of a status that is kept, for some time, and the client has not asked otherwise. -/
structure Earns (service : Service (Store String)) (visit : Visit) (accepted : Accepted) (response : Response)
    (key : String) : Prop where
  admitted : service.admitted? visit.arrival visit.inbound = some accepted
  enabled : accepted.endpoint.effective.caching.enabled = true
  method : accepted.endpoint.effective.caching.allowsMethod accepted.request.method = true
  keyed : Cache.key accepted.request accepted.endpoint.effective.caching = key
  missed : (service.answerFromCache .memory visit.arrival accepted).2 = none
  ran : ∃ calls, service.orchestrate visit.transport visit.arrival accepted = .ok ⟨response, calls⟩
  written : response.written = true
  unaborted : response.aborted = false
  sound : response.failure? = none
  status : accepted.endpoint.effective.caching.allowsStatus response.status = true
  unasked : asks accepted "no-store" = false
  lasting : 0 < accepted.endpoint.effective.caching.durationMs

/-- The time at which a response that is kept expires: it is put when its run has ended. -/
def expiry (visit : Visit) (accepted : Accepted) : Nat :=
  visit.arrival.now + visit.arrival.tookMs + accepted.endpoint.effective.caching.durationMs

/-- The slot of a response that is kept. -/
def slotOf (visit : Visit) (accepted : Accepted) (response : Response) : Slot String :=
  ⟨(Stored.ofResponse response).encode, expiry visit accepted⟩

/-- An event in which a response is kept under a key. -/
def Puts (service : Service (Store String)) (event : Event) (key : String) : Prop :=
  ∃ visit accepted response, event = .visit visit ∧ service.Earns visit accepted response key

/-- The service after an event. -/
def after (service : Service (Store String)) : Event → Service (Store String)
  | .visit visit => (service.serve .memory visit.transport visit.arrival visit.inbound).1
  | .reload gateway => service.reload gateway

/-- The service after events, one after another. -/
def through (service : Service (Store String)) (events : List Event) : Service (Store String) :=
  events.foldl after service

theorem orchestrate_response {served : Served} (ran : service.orchestrate transport arrival accepted = .ok served) :
    served.response = (service.runOf transport arrival accepted).response := by
  unfold orchestrate supervise at ran
  split at ran
  · cases ran
  · cases ran
    rfl

theorem slot_of_earns (earns : service.Earns visit accepted response key) :
    (service.after (.visit visit)).cache.slots.get? key = some (slotOf visit accepted response) := by
  obtain ⟨limiter, serves⟩ := serve_of_admitted .memory visit.transport earns.admitted
  obtain ⟨store, within, answered⟩ := answer_of_missed limiter visit.transport earns.missed
  obtain ⟨calls, ran⟩ := earns.ran
  have keyed : cacheKey? accepted = some key := by
    simp [cacheKey?, earns.enabled, earns.method, earns.keyed]
  have storable : isStorable accepted response = true := by
    simp [isStorable, earns.unasked, earns.written, earns.status]
  simp only [after, serves, answered, ran, keep, keyed, storable, if_true]
  exact Store.get?_set_self earns.lasting store _ key _

theorem slot_of_visit (found : (service.after (.visit visit)).cache.slots.get? key = some slot) :
    service.cache.slots.get? key = some slot ∨ ∃ accepted response, service.Earns visit accepted response key := by
  cases admitted : service.admitted? visit.arrival visit.inbound with
  | none =>
    obtain ⟨limiter, path, failure, serves⟩ := serve_of_refused .memory visit.transport admitted
    rw [after, serves] at found
    exact .inl found
  | some accepted =>
    obtain ⟨limiter, serves⟩ := serve_of_admitted .memory visit.transport admitted
    rw [after, serves] at found
    cases answer : (service.answerFromCache .memory visit.arrival accepted).2 with
    | some response =>
      obtain ⟨store, within, answered⟩ := answer_of_found limiter visit.transport answer
      rw [answered] at found
      exact .inl (within key slot found)
    | none =>
      obtain ⟨store, within, answered⟩ := answer_of_missed limiter visit.transport answer
      rw [answered] at found
      cases ran : service.orchestrate visit.transport visit.arrival accepted with
      | error failure =>
        rw [ran] at found
        exact .inl (within key slot found)
      | ok served =>
        simp only [ran, keep] at found
        split at found
        · rename_i name keyed
          split at found
          · rename_i storable
            rcases Store.slot_of_set found with ⟨rfl, lasting, _⟩ | ⟨_, listed⟩
            · right
              simp only [cacheKey?, Option.ite_none_right_eq_some, Bool.and_eq_true, Option.some.injEq] at keyed
              simp only [isStorable, Bool.and_eq_true, Bool.not_eq_true'] at storable
              -- Only a run that has not been ended writes its response.
              have whole := orchestrate_response ran
              have written := storable.1.2
              rw [whole] at written
              obtain ⟨unaborted, sound⟩ := Config.Gateway.handle_written written
              exact ⟨accepted, served.response,
                { admitted := admitted
                  enabled := keyed.1.1
                  method := keyed.1.2
                  keyed := keyed.2
                  missed := answer
                  ran := ⟨served.calls, ran⟩
                  written := storable.1.2
                  unaborted := by rw [whole]; exact unaborted
                  sound := by rw [whole]; exact sound
                  status := storable.2
                  unasked := storable.1.1
                  lasting := lasting }⟩
            · exact .inl (within key slot listed)
          · exact .inl (within key slot found)
        · exact .inl (within key slot found)

/-- A slot after an event is the one that the event puts, or it was there before and the event puts none under its key. -/
theorem slot_after (found : (service.after event).cache.slots.get? key = some slot) :
    (∃ visit accepted response, event = .visit visit ∧ service.Earns visit accepted response key ∧
        slot = slotOf visit accepted response) ∨
      (¬ service.Puts event key ∧ service.cache.slots.get? key = some slot) := by
  by_cases puts : service.Puts event key
  · left
    obtain ⟨visit, accepted, response, rfl, earns⟩ := puts
    exact ⟨visit, accepted, response, rfl, earns, Option.some.inj (found.symm.trans (slot_of_earns earns))⟩
  · right
    refine ⟨puts, ?_⟩
    cases event with
    | reload gateway => exact found
    | visit visit =>
      rcases slot_of_visit found with listed | ⟨accepted, response, earns⟩
      · exact listed
      · exact absurd ⟨visit, accepted, response, rfl, earns⟩ puts

/-! ## Sequences of requests and reloads -/

/-- Of a sequence of events, the last one that has put a response under a key. -/
structure LastPut (first : Service (Store String)) (events : List Event) (key : String) (before : List Event)
    (visit : Visit) (accepted : Accepted) (response : Response) : Prop where
  earns : (first.through before).Earns visit accepted response key
  last : ∃ between, events = before ++ .visit visit :: between ∧
    ∀ middle event rest, between = middle ++ event :: rest →
      ¬ (first.through (before ++ .visit visit :: middle)).Puts event key

theorem through_concat (first : Service (Store String)) (events : List Event) (event : Event) :
    first.through (events ++ [event]) = (first.through events).after event := by
  simp only [through, List.foldl_append, List.foldl_cons, List.foldl_nil]

/-- Every slot is that of the last response that has been put under its key. -/
theorem slot_through {first : Service (Store String)} (empty : ∀ key, first.cache.slots.get? key = none)
    (events : List Event) (found : (first.through events).cache.slots.get? key = some slot) :
    ∃ before visit accepted response, LastPut first events key before visit accepted response ∧
      slot = slotOf visit accepted response := by
  induction events using List.reverseRecOn with
  | nil => cases (empty key).symm.trans found
  | append_singleton events event ih =>
    rw [through_concat] at found
    rcases slot_after found with ⟨visit, accepted, response, rfl, earns, same⟩ | ⟨unput, listed⟩
    · refine ⟨events, visit, accepted, response, ⟨earns, [], rfl, ?_⟩, same⟩
      intro middle event rest split
      cases middle <;> cases split
    · obtain ⟨before, visit, accepted, response, ⟨earns, between, rfl, last⟩, same⟩ := ih listed
      refine ⟨before, visit, accepted, response, ⟨earns, between ++ [event], by simp, ?_⟩, same⟩
      intro middle later rest split
      -- Either the later event is the new one, or it was already there between.
      rcases Run.split_concat split with ⟨rfl, rfl⟩ | ⟨more, rfl⟩
      · exact unput
      · exact last middle later more rfl

/-- A service answers a request that it lets in from its cache. -/
structure AnswersFromCache (service : Service (Store String)) (visit : Visit) (accepted : Accepted)
    (response : Response) : Prop where
  admitted : service.admitted? visit.arrival visit.inbound = some accepted
  found : (service.answerFromCache .memory visit.arrival accepted).2 = some response

theorem serve_fromCache (answers : service.AnswersFromCache visit accepted response) (transport : Transport) :
    (service.serve .memory transport visit.arrival visit.inbound).2 = ⟨response, []⟩ := by
  obtain ⟨limiter, serves⟩ := serve_of_admitted .memory transport answers.admitted
  obtain ⟨store, _, answered⟩ := answer_of_found limiter transport answers.found
  rw [serves, answered]

/-- What is served from the cache was earned. However a service has gone through requests and reloads, what it answers
from its cache goes out without a call, to a client that has not asked otherwise. It is made again, for the time that is
left, of what is stored for the last request that has put a response under the key. -/
theorem served_fromCache (gateway : Config.Gateway) (events : List Event) (visit : Visit) (accepted : Accepted)
    (response : Response) (answers : ((start gateway {}).through events).AnswersFromCache visit accepted response) :
    (((start gateway {}).through events).serve .memory visit.transport visit.arrival visit.inbound).2 = ⟨response, []⟩ ∧
      asks accepted "no-cache" = false ∧
      ∃ (key : String) (before : List Event) (earlier : Visit) (earner : Accepted) (earned : Response) (stored : Stored),
        cacheKey? accepted = some key ∧ LastPut (start gateway {}) events key before earlier earner earned ∧
          visit.arrival.now < expiry earlier earner ∧
          Stored.decode? (Stored.ofResponse earned).encode = some stored ∧
          (earned.status ≤ 65535 → stored = Stored.ofResponse earned) ∧
          response = stored.response (expiry earlier earner - visit.arrival.now) := by
  obtain ⟨key, slot, stored, keyed, unasked, listed, fresh, decoded, same⟩ := answerFromCache_eq_some answers.found
  have empty : ∀ key, (start gateway ({} : Store String)).cache.slots.get? key = none := fun _ => rfl
  obtain ⟨before, earlier, earner, earned, put, rfl⟩ := slot_through empty events listed
  refine ⟨serve_fromCache answers visit.transport, unasked, ?_⟩
  refine ⟨key, before, earlier, earner, earned, stored, keyed, put, fresh, decoded, ?_, same⟩
  intro small
  have again : Stored.decode? (Stored.ofResponse earned).encode = some (Stored.ofResponse earned) :=
    Stored.decode?_encode small
  exact Option.some.inj (decoded.symm.trans again)

/-- A gateway that keeps the responses of its endpoint. -/
def keepingGateway : Config.Gateway :=
  { caching := { enabled := true }, endpoints := [{ path := "/e", backends := [{ hosts := ["h"] }] }] }

/-- A request to the endpoint of `keepingGateway`. -/
def visitAt (now : Nat) : Visit :=
  { arrival := { now := now, client := "127.0.0.1", freshId := "id", stamp := default }
    inbound := { method := "GET", target := ⟨"/e", "/e", ""⟩, fields := [], bytes := .empty }
    transport := Config.Gateway.answering }

theorem served_fromCache_again : ∃ accepted response,
    ((start keepingGateway {}).through [.visit (visitAt 0)]).AnswersFromCache (visitAt 59999) accepted response ∧
      (((start keepingGateway {}).through [.visit (visitAt 0)]).serve .memory (visitAt 59999).transport
        (visitAt 59999).arrival (visitAt 59999).inbound).2 = ⟨response, []⟩ := by
  let service := (start keepingGateway {}).through [.visit (visitAt 0)]
  have answered : ((service.admitted? (visitAt 59999).arrival (visitAt 59999).inbound).bind fun accepted =>
      (service.answerFromCache .memory (visitAt 59999).arrival accepted).2).isSome = true := by decide +kernel
  obtain ⟨response, found⟩ := Option.isSome_iff_exists.mp answered
  obtain ⟨accepted, admitted, hit⟩ := Option.bind_eq_some_iff.mp found
  have answers : service.AnswersFromCache (visitAt 59999) accepted response := ⟨admitted, hit⟩
  exact ⟨accepted, response, answers, (served_fromCache keepingGateway _ (visitAt 59999) accepted response answers).1⟩

end Service
end Junction.Http
