import Junction.Config.Gateway
import Junction.Proofs.Data.Sorted
import Junction.Proofs.Exchange.Placeholder

/-!
Gateways that differ in the local rules of one backend: those on its request that do not propagate.
-/

namespace Junction.Config

/-! ## Rules -/

/-- A rule on the request to one backend, which no other backend is to see. -/
def Modifier.isLocal (modifier : Modifier) : Bool := modifier.scope == .request && !modifier.propagate

namespace Modifiers

variable {all : Modifiers}

/-- The rules that are not local. -/
def withoutLocal (all : Modifiers) : Modifiers :=
  { header := all.header.filter (!·.isLocal)
    params := all.params.filter (!·.isLocal)
    query := all.query.filter (!·.isLocal)
    body := all.body.filter (!·.isLocal) }

theorem onSurfaces_withoutLocal : all.withoutLocal.onSurfaces = all.onSurfaces.filter (!·.2.isLocal) := by
  simp [onSurfaces, withoutLocal, List.filter_append, List.filter_map, Function.comp_def]

@[simp] theorem inScope_response_withoutLocal : all.withoutLocal.inScope .response = all.inScope .response := by
  rw [inScope, inScope, onSurfaces_withoutLocal, List.filter_filter]
  refine List.filter_congr ?_
  intro rule member
  cases scope : rule.2.scope with
  | request => simp [Modifier.isLocal, scope]
  | response => simp [Modifier.isLocal, scope]

@[simp] theorem onRequest_true_withoutLocal : all.withoutLocal.onRequest true = all.onRequest true := by
  simp only [onRequest, inScope, onSurfaces_withoutLocal, List.filter_filter]
  refine List.filter_congr ?_
  intro rule member
  cases propagate : rule.2.propagate with
  | false => simp
  | true => simp [Modifier.isLocal, propagate]

/-- No rule has a placeholder. -/
def Literal (all : Modifiers) : Prop := ∀ rule ∈ all.onSurfaces, Placeholder.IsLiteral rule.2.value

instance : Decidable all.Literal :=
  inferInstanceAs (Decidable (∀ rule ∈ all.onSurfaces, '#' ∉ rule.2.value.toList))

theorem literal_inScope (literal : all.Literal) (scope : Scope) :
    ∀ rule ∈ all.inScope scope, Placeholder.IsLiteral rule.2.value := by
  intro rule member
  exact literal rule (List.mem_filter.mp member).1

theorem literal_onRequest (literal : all.Literal) (propagate : Bool) :
    ∀ rule ∈ all.onRequest propagate, Placeholder.IsLiteral rule.2.value := by
  intro rule member
  exact literal_inScope literal .request rule (List.mem_filter.mp member).1

end Modifiers

/-- A backend with only those of its rules that are not local. -/
def Backend.withoutLocal (backend : Backend) : Backend :=
  { backend with modifiers := backend.modifiers.withoutLocal }

@[simp] theorem Backend.response_withoutLocal (backend : Backend) : backend.withoutLocal.response = backend.response := rfl

/-- What is alike in backends that differ in local rules. -/
theorem Backend.alike_of_withoutLocal {one other : Backend} (same : one.withoutLocal = other.withoutLocal) :
    one.name = other.name ∧ one.hosts = other.hosts ∧
      one.modifiers.onRequest true = other.modifiers.onRequest true := by
  simp only [Backend.withoutLocal, Backend.mk.injEq] at same
  obtain ⟨name, hosts, path, method, forwardHeaders, forwardQueries, modifiers, response⟩ := same
  refine ⟨name, hosts, ?_⟩
  rw [← Modifiers.onRequest_true_withoutLocal, modifiers, Modifiers.onRequest_true_withoutLocal]

/-- An endpoint whose backends have no local rules. -/
def Endpoint.withoutLocal (endpoint : Endpoint) : Endpoint :=
  { endpoint with backends := endpoint.backends.map Backend.withoutLocal }

/-! ## Places -/

/-- Where a gateway has a backend: among the middlewares, or at a position of one of its endpoints. -/
inductive Place where
  | middleware (name : String)
  | own (endpoint position : Nat)
deriving DecidableEq, Repr

namespace Gateway

/-- The backend at a place. -/
def at? (gateway : Gateway) : Place → Option Backend
  | .middleware name => gateway.middleware? name
  | .own endpoint position => gateway.endpoints[endpoint]?.bind (·.backends[position]?)

/-- The gateway with another backend at a place. -/
def put (gateway : Gateway) (backend : Backend) : Place → Gateway
  | .middleware name => { gateway with middlewares := gateway.middlewares.insert name backend }
  | .own endpoint position =>
    { gateway with
      endpoints := gateway.endpoints.modify endpoint fun found =>
        { found with backends := found.backends.set position backend } }

/-- Gateways that differ in nothing but the local rules of the backend at a place. -/
def DifferAt (place : Place) (one other : Gateway) : Prop :=
  ∃ left right, one.at? place = some left ∧ left.withoutLocal = right.withoutLocal ∧ other = one.put right place

/-- No rule of the gateway has a placeholder. -/
def Literal (gateway : Gateway) : Prop :=
  ∀ place backend, gateway.at? place = some backend → backend.modifiers.Literal

/-- The places of the stages of an endpoint, in the order of their calls. -/
def places (gateway : Gateway) (index : Nat) (endpoint : Endpoint) : List Place :=
  (endpoint.beforewares.filter gateway.middlewares.contains).map .middleware ++
    (List.range endpoint.backends.length).map (.own index) ++
    (endpoint.afterwares.filter gateway.middlewares.contains).map .middleware

/-- Rules are listed with the middlewares and with the endpoints, and nowhere else. -/
theorem literal_iff (gateway : Gateway) : gateway.Literal ↔
    (∀ entry ∈ gateway.middlewares.entries, entry.2.modifiers.Literal) ∧
      ∀ endpoint ∈ gateway.endpoints, ∀ backend ∈ endpoint.backends, backend.modifiers.Literal := by
  constructor
  · intro literal
    refine ⟨?_, ?_⟩
    · rintro ⟨name, backend⟩ member
      exact literal (.middleware name) backend (Sorted.mem_entries_iff.mp member)
    · intro endpoint member backend listed
      obtain ⟨index, here⟩ := List.mem_iff_getElem?.mp member
      obtain ⟨position, found⟩ := List.mem_iff_getElem?.mp listed
      exact literal (.own index position) backend (by simp [at?, here, found])
  · rintro ⟨middlewares, endpoints⟩ place backend found
    cases place with
    | middleware name => exact middlewares (name, backend) (Sorted.mem_entries_iff.mpr found)
    | own index position =>
      simp only [at?, Option.bind_eq_some_iff] at found
      obtain ⟨endpoint, listed, here⟩ := found
      exact endpoints endpoint (List.mem_of_getElem? listed) backend (List.mem_of_getElem? here)

instance (gateway : Gateway) : Decidable gateway.Literal := decidable_of_iff _ gateway.literal_iff.symm

/-! ## A backend put at a place -/

variable {gateway one other : Gateway} {place elsewhere : Place} {left right backend : Backend}
  {endpoint endpoint' : Endpoint} {index : Nat}

theorem at?_put_self (present : gateway.at? place = some left) :
    (gateway.put right place).at? place = some right := by
  cases place with
  | middleware name => exact Sorted.get?_insert_self gateway.middlewares name right
  | own index position =>
    simp only [at?, Option.bind_eq_some_iff] at present
    obtain ⟨found, listed, here⟩ := present
    have inside := (List.getElem?_eq_some_iff.mp here).1
    simp [at?, put, List.getElem?_modify_eq, listed, inside]

theorem at?_put_of_ne (different : elsewhere ≠ place) :
    (gateway.put backend place).at? elsewhere = gateway.at? elsewhere := by
  cases place with
  | middleware name =>
    cases elsewhere with
    | middleware found =>
      have names : name ≠ found := fun same => different (congrArg Place.middleware same.symm)
      exact Sorted.get?_insert_of_ne names
    | own index position => rfl
  | own index position =>
    cases elsewhere with
    | middleware name => rfl
    | own found seen =>
      by_cases indexes : index = found
      · subst indexes
        have positions : position ≠ seen := fun same => different (congrArg (Place.own index) same.symm)
        cases listed : gateway.endpoints[index]? with
        | none => simp [at?, put, List.getElem?_modify_eq, listed]
        | some endpoint => simp [at?, put, List.getElem?_modify_eq, listed, List.getElem?_set_ne positions]
      · simp [at?, put, List.getElem?_modify_ne _ _ indexes]

/-- At every place the backends are alike but for local rules, and at other places they are the same. -/
theorem at?_of_differAt (differ : DifferAt place one other) (elsewhere : Place) :
    (one.at? elsewhere).map Backend.withoutLocal = (other.at? elsewhere).map Backend.withoutLocal ∧
      (elsewhere ≠ place → one.at? elsewhere = other.at? elsewhere) := by
  obtain ⟨left, right, present, alike, rfl⟩ := differ
  by_cases here : elsewhere = place
  · subst here
    refine ⟨?_, fun different => absurd rfl different⟩
    rw [at?_put_self present, present, Option.map_some, Option.map_some, alike]
  · rw [at?_put_of_ne here]
    exact ⟨rfl, fun _ => rfl⟩

theorem contains_of_differAt (differ : DifferAt place one other) (name : String) :
    one.middlewares.contains name = other.middlewares.contains name := by
  have found := congrArg Option.isSome (at?_of_differAt differ (.middleware name)).1
  rw [Option.isSome_map, Option.isSome_map] at found
  exact found

/-- An endpoint of gateways that differ at a place keeps all but the local rules of its backends. -/
theorem endpoint_of_differAt (differ : DifferAt place one other) (first : one.endpoints[index]? = some endpoint)
    (second : other.endpoints[index]? = some endpoint') : endpoint.withoutLocal = endpoint'.withoutLocal := by
  obtain ⟨left, right, present, alike, rfl⟩ := differ
  cases place with
  | middleware name =>
    have same : endpoint = endpoint' := Option.some.inj (first.symm.trans second)
    rw [same]
  | own found position =>
    by_cases indexes : found = index
    · subst indexes
      simp only [put, List.getElem?_modify_eq, first, Option.map_eq_map, Option.map_some, Option.some.injEq] at second
      simp only [at?, first, Option.bind_some] at present
      subst second
      have kept : (endpoint.backends.set position right).map Backend.withoutLocal =
          endpoint.backends.map Backend.withoutLocal := by
        have listed : (endpoint.backends.map Backend.withoutLocal)[position]? = some right.withoutLocal := by
          simp [present, alike]
        obtain ⟨inside, here⟩ := List.getElem?_eq_some_iff.mp listed
        rw [List.map_set, ← here]
        exact List.set_getElem_self inside
      simp only [Endpoint.withoutLocal, kept]
    · have same : endpoint = endpoint' := by
        simpa [put, List.getElem?_modify_ne _ _ indexes, first] using second
      rw [same]

theorem places_of_differAt (differ : DifferAt place one other) (alike : endpoint.withoutLocal = endpoint'.withoutLocal) :
    one.places index endpoint = other.places index endpoint' := by
  have contains : one.middlewares.contains = other.middlewares.contains := funext (contains_of_differAt differ)
  have before : endpoint.withoutLocal.beforewares = endpoint'.withoutLocal.beforewares := by rw [alike]
  have after : endpoint.withoutLocal.afterwares = endpoint'.withoutLocal.afterwares := by rw [alike]
  have backends : endpoint.withoutLocal.backends.length = endpoint'.withoutLocal.backends.length := by rw [alike]
  simp only [Endpoint.withoutLocal, List.length_map] at before after backends
  simp only [places, contains, before, after, backends]

end Gateway
end Junction.Config
