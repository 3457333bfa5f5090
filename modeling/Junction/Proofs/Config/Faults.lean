import Junction.Config.Validation
import Junction.Proofs.Data.Survey
import Junction.Proofs.Text.Trim

/-!
The faults of a configuration, place by place. What can be wrong is told for each place (`Gateway.Violates`), and places
have an order: endpoint by endpoint, an endpoint itself before its backends, and the middlewares by name at the end
(`GatewayPlace.Before`). The rules of a backend are told by the four lists in which they stand. The faults are a survey of all that is wrong: each is listed once, in that order, and none
exactly when the configuration is sound (`faults_exhaustive`).
-/

namespace Junction.Config

variable {gateway : Gateway} {endpoint : Endpoint} {backend : Backend} {rule : Surface × Modifier} {label : String}

/-! ## Places -/

/-- What is checked of a rule: that it has a key, and what it changes. -/
inductive RulePlace where
  | key
  | surface

/-- What is checked of a backend: that it has a host, and its rules, each by its scope, its surface and its position among
the rules there. -/
inductive BackendPlace where
  | hosts
  | rule (scope : Scope) (surface : Surface) (position : Nat) (place : RulePlace)

/-- What is checked of an endpoint: its path, that it has backends, that it is the first of its id, and its backends. -/
inductive EndpointPlace where
  | path
  | backends
  | id
  | backend (position : Nat) (place : BackendPlace)

/-- What is checked of a gateway: its endpoints and its middlewares. -/
inductive GatewayPlace where
  | endpoint (position : Nat) (place : EndpointPlace)
  | middleware (name : String) (place : BackendPlace)

/-- Places are numbered like the sections of a text: of a rule the key comes first. -/
def RulePlace.number : RulePlace → List Nat
  | .key => [0]
  | .surface => [1]

/-- Rules on requests come before those on responses. -/
def Scope.number : Scope → Nat
  | .request => 1
  | .response => 2

/-- The surfaces in their order. -/
def Surface.number : Surface → Nat
  | .header => 0
  | .params => 1
  | .query => 2
  | .body => 3

/-- Of a backend the hosts come first, then the rules by scope, and of a scope by surface. -/
def BackendPlace.number : BackendPlace → List Nat
  | .hosts => [0]
  | .rule scope surface position place => scope.number :: surface.number :: position :: place.number

/-- Of an endpoint the backends come last. -/
def EndpointPlace.number : EndpointPlace → List Nat
  | .path => [0]
  | .backends => [1]
  | .id => [2]
  | .backend position place => 3 :: position :: place.number

/-- The endpoints come in their order, and behind them the middlewares in the order of their names. -/
def GatewayPlace.Before : GatewayPlace → GatewayPlace → Prop
  | .endpoint position place, .endpoint position' place' => position :: place.number < position' :: place'.number
  | .endpoint _ _, .middleware _ _ => True
  | .middleware _ _, .endpoint _ _ => False
  | .middleware name place, .middleware name' place' => name < name' ∨ name = name' ∧ place.number < place'.number

instance : LT RulePlace := ⟨fun first second => first.number < second.number⟩
instance : LT BackendPlace := ⟨fun first second => first.number < second.number⟩
instance : LT EndpointPlace := ⟨fun first second => first.number < second.number⟩
instance : LT GatewayPlace := ⟨GatewayPlace.Before⟩

theorem GatewayPlace.lt_asymm (first second : GatewayPlace) (before : first < second) : ¬ second < first := by
  intro after
  cases first with
  | endpoint position place =>
    cases second with
    | endpoint position' place' => exact List.lt_asymm before after
    | middleware => exact after
  | middleware name place =>
    cases second with
    | endpoint => exact before
    | middleware name' place' =>
      rcases before with less | ⟨rfl, lower⟩
      · rcases after with more | ⟨same, _⟩
        · exact String.lt_asymm less more
        · exact String.lt_irrefl name (same ▸ less)
      · rcases after with more | ⟨_, higher⟩
        · exact String.lt_irrefl name more
        · exact List.lt_asymm lower higher

/-! ## What is wrong -/

/-- What is wrong with a rule: it has no key although it needs one, or it changes what a response does not have. -/
inductive RuleViolates (label : String) (rule : Surface × Modifier) : RulePlace → Fault → Prop
  | key (blank : Text.White rule.2.key.toList)
    (needed : ¬ (rule.1 = .body ∧ (rule.2.action = .add ∨ rule.2.action = .set))) :
    RuleViolates label rule .key (.noKey label rule.2.action rule.1)
  | surface (response : rule.2.scope = .response) (lacking : rule.1 = .params ∨ rule.1 = .query) :
    RuleViolates label rule .surface (.responseSurface label rule.1)

/-- The list in which the rules on a surface stand. -/
def Modifiers.on (all : Modifiers) : Surface → List Modifier
  | .header => all.header
  | .params => all.params
  | .query => all.query
  | .body => all.body

/-- What is wrong with a backend: all its hosts are blank, or something is wrong with a rule. -/
inductive Backend.Violates (backend : Backend) : BackendPlace → Fault → Prop
  | hosts (blank : ∀ host ∈ backend.hosts, Text.White host.toList) :
    backend.Violates .hosts (.noHosts backend.label)
  | rule {surface position modifier place fault} (listed : (backend.modifiers.on surface)[position]? = some modifier)
    (wrong : RuleViolates backend.label (surface, modifier) place fault) :
    backend.Violates (.rule modifier.scope surface position place) fault

/-- Two endpoints go by one text: the method in capitals, a space, and the path. -/
def Endpoint.SameId (one other : Endpoint) : Prop :=
  Text.upperAscii one.method ++ " " ++ one.path = Text.upperAscii other.method ++ " " ++ other.path

/-- What is wrong with an endpoint behind others: its path is no path, it has no backend, another one has its id, or
something is wrong with a backend. -/
inductive Endpoint.Violates (earlier : List Endpoint) (endpoint : Endpoint) : EndpointPlace → Fault → Prop
  | path (relative : endpoint.path.toList.head? ≠ some '/') : endpoint.Violates earlier .path (.path endpoint.id)
  | backends (none : endpoint.backends = []) : endpoint.Violates earlier .backends (.noBackends endpoint.id)
  | id {other} (listed : other ∈ earlier) (same : other.SameId endpoint) :
    endpoint.Violates earlier .id (.duplicate endpoint.id)
  | backend {position backend place fault} (listed : endpoint.backends[position]? = some backend)
    (wrong : backend.Violates place fault) : endpoint.Violates earlier (.backend position place) fault

/-- What is wrong with a gateway: something with an endpoint, or with a middleware. -/
inductive Gateway.Violates (gateway : Gateway) : GatewayPlace → Fault → Prop
  | endpoint {position endpoint place fault} (listed : gateway.endpoints[position]? = some endpoint)
    (wrong : endpoint.Violates (gateway.endpoints.take position) place fault) :
    gateway.Violates (.endpoint position place) fault
  | middleware {name backend place fault} (known : gateway.middleware? name = some backend)
    (wrong : backend.Violates place fault) : gateway.Violates (.middleware name place) fault

/-! ## Sound configurations -/

/-- A sound rule has a key, unless it extends or sets a whole body; on a response it changes the header or the body. -/
structure RuleIsSound (rule : Surface × Modifier) : Prop where
  keyed : ¬ Text.White rule.2.key.toList ∨ rule.1 = .body ∧ (rule.2.action = .add ∨ rule.2.action = .set)
  served : rule.2.scope = .response → rule.1 = .header ∨ rule.1 = .body

/-- A sound backend has a host that is not blank, and sound rules. -/
structure Backend.IsSound (backend : Backend) : Prop where
  hosts : ∃ host ∈ backend.hosts, ¬ Text.White host.toList
  rules : ∀ surface, ∀ modifier ∈ backend.modifiers.on surface, RuleIsSound (surface, modifier)

/-- A sound endpoint has a path and at least one backend, and its backends are sound. -/
structure Endpoint.IsSound (endpoint : Endpoint) : Prop where
  path : endpoint.path.toList.head? = some '/'
  nonempty : endpoint.backends ≠ []
  backends : ∀ backend ∈ endpoint.backends, backend.IsSound

/-- The endpoints and the middlewares of a sound gateway are sound, and no two endpoints have the same id. -/
structure Gateway.IsSound (gateway : Gateway) : Prop where
  endpoints : ∀ endpoint ∈ gateway.endpoints, endpoint.IsSound
  distinct : gateway.endpoints.Pairwise fun one other => ¬ one.SameId other
  middlewares : ∀ name backend, gateway.middleware? name = some backend → backend.IsSound

/-! ## The survey -/

theorem worksWithoutKey_iff {surface : Surface} {action : Action} :
    worksWithoutKey surface action = true ↔ surface = .body ∧ (action = .add ∨ action = .set) := by
  simp [worksWithoutKey]

theorem surveyed_ruleFaults (label : String) (rule : Surface × Modifier) :
    Surveyed (RuleViolates label rule) (ruleFaults label rule) := by
  obtain ⟨surface, modifier⟩ := rule
  refine ((Surveyed.ite RulePlace.key _ _).append (Surveyed.ite RulePlace.surface _ _) ?_).congr ?_
  · rintro _ _ _ _ ⟨_, rfl, _⟩ ⟨_, rfl, _⟩
    exact List.Lex.rel Nat.zero_lt_one
  · intro place fault
    rw [Bool.and_eq_true, Bool.and_eq_true, Bool.or_eq_true, beq_iff_eq, beq_iff_eq, beq_iff_eq, Bool.not_eq_true',
      ← Bool.not_eq_true, worksWithoutKey_iff, Text.isBlank_iff]
    constructor
    · rintro (⟨⟨blank, needed⟩, rfl, rfl⟩ | ⟨⟨response, lacking⟩, rfl, rfl⟩)
      · exact .key blank needed
      · exact .surface response lacking
    · rintro (⟨blank, needed⟩ | ⟨response, lacking⟩)
      · exact .inl ⟨⟨blank, needed⟩, rfl, rfl⟩
      · exact .inr ⟨⟨response, lacking⟩, rfl, rfl⟩

theorem flatMap_filter {α β : Type} (list : List α) (keep : α → Bool) (check : α → List β) :
    (list.filter keep).flatMap check = list.flatMap fun item => if keep item then check item else [] := by
  induction list with
  | nil => rfl
  | cons item list ih => cases kept : keep item <;> simp [kept, ih]

/-- The rules of a scope are those of the four lists that have it. -/
theorem inScope_eq (all : Modifiers) (scope : Scope) :
    all.inScope scope = [Surface.header, .params, .query, .body].flatMap fun surface =>
      ((all.on surface).filter fun modifier => modifier.scope == scope).map (surface, ·) := by
  simp [Modifiers.inScope, Modifiers.onSurfaces, Modifiers.on, List.filter_map, Function.comp_def]

/-- The rules of a scope on one surface. -/
theorem surveyed_surface (backend : Backend) (scope : Scope) (surface : Surface) :
    Surveyed (fun place fault => ∃ position modifier inner, (backend.modifiers.on surface)[position]? = some modifier ∧
      BackendPlace.rule scope surface position inner = place ∧ modifier.scope = scope ∧
        RuleViolates backend.label (surface, modifier) inner fault)
      (((backend.modifiers.on surface).filter fun modifier => modifier.scope == scope).flatMap fun modifier =>
        ruleFaults backend.label (surface, modifier)) := by
  rw [flatMap_filter]
  refine Surveyed.flatMap
    (fun modifier inner fault => modifier.scope = scope ∧ RuleViolates backend.label (surface, modifier) inner fault)
    (fun position _ inner => BackendPlace.rule scope surface position inner) ?_ ?_ ?_
  · intro modifier
    by_cases inScope : modifier.scope = scope
    · simpa [inScope] using surveyed_ruleFaults backend.label (surface, modifier)
    · simpa [inScope] using Surveyed.nil fun _ _ => id
  · intro position modifier first second before
    exact List.Lex.cons (List.Lex.cons (List.Lex.cons before))
  · intro position position' _ _ first second earlier _ _
    exact List.Lex.cons (List.Lex.cons (List.Lex.rel earlier))

/-- The rules on requests, or those on responses. -/
theorem surveyed_rules (backend : Backend) (scope : Scope) :
    Surveyed (fun place fault => ∃ surface position modifier inner,
      (backend.modifiers.on surface)[position]? = some modifier ∧ BackendPlace.rule scope surface position inner = place ∧
        modifier.scope = scope ∧ RuleViolates backend.label (surface, modifier) inner fault)
      ((backend.modifiers.inScope scope).flatMap (ruleFaults backend.label)) := by
  have ordered : [Surface.header, .params, .query, .body].Pairwise fun one other => one.number < other.number := by decide
  simp only [inScope_eq, List.flatMap_assoc, List.flatMap_map]
  refine (Surveyed.regions (fun surface _ => surveyed_surface backend scope surface) ?_).congr ?_
  · refine ordered.imp ?_
    rintro surface surface' before _ _ _ _ ⟨_, _, _, _, rfl, _⟩ ⟨_, _, _, _, rfl, _⟩
    exact List.Lex.cons (List.Lex.rel before)
  · intro place fault
    constructor
    · rintro ⟨surface, _, found⟩
      exact ⟨surface, found⟩
    · rintro ⟨surface, found⟩
      exact ⟨surface, by cases surface <;> decide, found⟩

theorem surveyed_backendFaults (backend : Backend) : Surveyed backend.Violates (backendFaults backend) := by
  rw [backendFaults, List.flatMap_append]
  refine ((Surveyed.ite BackendPlace.hosts _ _).append
    ((surveyed_rules backend .request).append (surveyed_rules backend .response) ?_) ?_).congr ?_
  · rintro _ _ _ _ ⟨_, _, _, _, _, rfl, _⟩ ⟨_, _, _, _, _, rfl, _⟩
    exact List.Lex.rel (by decide)
  · rintro _ _ _ _ ⟨_, rfl, _⟩ (⟨_, _, _, _, _, rfl, _⟩ | ⟨_, _, _, _, _, rfl, _⟩)
    · exact List.Lex.rel (by decide)
    · exact List.Lex.rel (by decide)
  · intro place fault
    simp only [List.all_eq_true, Text.isBlank_iff]
    constructor
    · rintro (⟨blank, rfl, rfl⟩ | ⟨surface, position, modifier, inner, listed, rfl, inScope, wrong⟩ |
        ⟨surface, position, modifier, inner, listed, rfl, inScope, wrong⟩)
      · exact .hosts blank
      · exact inScope ▸ .rule listed wrong
      · exact inScope ▸ .rule listed wrong
    · rintro (⟨blank⟩ | @⟨surface, position, modifier, inner, _, listed, wrong⟩)
      · exact .inl ⟨blank, rfl, rfl⟩
      · cases inScope : modifier.scope with
        | request => exact .inr (.inl ⟨surface, position, modifier, inner, listed, rfl, inScope, wrong⟩)
        | response => exact .inr (.inr ⟨surface, position, modifier, inner, listed, rfl, inScope, wrong⟩)

theorem surveyed_backends (backends : List Backend) :
    Surveyed (fun place fault => ∃ position backend inner, backends[position]? = some backend ∧
      EndpointPlace.backend position inner = place ∧ backend.Violates inner fault) (backends.flatMap backendFaults) := by
  refine Surveyed.flatMap Backend.Violates (fun position _ inner => EndpointPlace.backend position inner)
    surveyed_backendFaults ?_ ?_
  · intro position backend first second before
    exact List.Lex.cons (List.Lex.cons before)
  · intro position position' _ _ first second earlier _ _
    exact List.Lex.cons (List.Lex.rel earlier)

theorem surveyed_endpointFaults (earlier : List Endpoint) (endpoint : Endpoint) :
    Surveyed (endpoint.Violates earlier) (endpointFaults (earlier.map Endpoint.id).reverse endpoint) := by
  rw [endpointFaults, ← ite_not]
  refine ((((Surveyed.ite EndpointPlace.path _ _).append (Surveyed.ite EndpointPlace.backends _ _) ?_).append
    (Surveyed.ite EndpointPlace.id _ _) ?_).append (surveyed_backends endpoint.backends) ?_).congr ?_
  · rintro _ _ _ _ ⟨_, rfl, _⟩ ⟨_, rfl, _⟩
    exact List.Lex.rel (by decide)
  · rintro _ _ _ _ (⟨_, rfl, _⟩ | ⟨_, rfl, _⟩) ⟨_, rfl, _⟩ <;> exact List.Lex.rel (by decide)
  · rintro _ _ _ _ ((⟨_, rfl, _⟩ | ⟨_, rfl, _⟩) | ⟨_, rfl, _⟩) ⟨_, _, _, _, rfl, _⟩ <;>
      exact List.Lex.rel (by decide)
  · intro place fault
    rw [List.isEmpty_iff, List.contains_iff_mem, List.mem_reverse, List.mem_map]
    constructor
    · rintro (((⟨relative, rfl, rfl⟩ | ⟨none, rfl, rfl⟩) | ⟨⟨other, listed, same⟩, rfl, rfl⟩) |
        ⟨position, backend, inner, listed, rfl, wrong⟩)
      · exact .path relative
      · exact .backends none
      · exact .id listed same
      · exact .backend listed wrong
    · intro wrong
      cases wrong with
      | path relative => exact .inl (.inl (.inl ⟨relative, rfl, rfl⟩))
      | backends none => exact .inl (.inl (.inr ⟨none, rfl, rfl⟩))
      | id listed same => exact .inl (.inr ⟨⟨_, listed, same⟩, rfl, rfl⟩)
      | backend listed inner => exact .inr ⟨_, _, _, listed, rfl, inner⟩

/-- Every endpoint is checked with the ids of those before it. -/
theorem endpointsFaults_eq (seen : List String) (endpoints : List Endpoint) :
    endpointsFaults seen endpoints = (endpoints.mapIdx fun position endpoint =>
      endpointFaults (((endpoints.take position).map Endpoint.id).reverse ++ seen) endpoint).flatten := by
  induction endpoints generalizing seen with
  | nil => rfl
  | cons endpoint endpoints ih =>
    rw [endpointsFaults, ih, List.mapIdx_cons, List.flatten_cons]
    simp

theorem surveyed_endpointsFaults (endpoints : List Endpoint) :
    Surveyed (fun place fault => ∃ position endpoint inner, endpoints[position]? = some endpoint ∧
      GatewayPlace.endpoint position inner = place ∧ endpoint.Violates (endpoints.take position) inner fault)
      (endpointsFaults [] endpoints) := by
  rw [endpointsFaults_eq]
  refine Surveyed.items (fun position (endpoint : Endpoint) => endpoint.Violates (endpoints.take position))
    (fun position _ inner => GatewayPlace.endpoint position inner) ?_ ?_ ?_
  · intro position endpoint _
    rw [List.append_nil]
    exact surveyed_endpointFaults (endpoints.take position) endpoint
  · intro position endpoint first second before
    exact List.Lex.cons before
  · intro position position' _ _ first second earlier _ _
    exact List.Lex.rel earlier

theorem surveyed_middlewares (gateway : Gateway) :
    Surveyed (fun place fault => ∃ name backend inner, gateway.middleware? name = some backend ∧
      GatewayPlace.middleware name inner = place ∧ backend.Violates inner fault)
      (gateway.middlewares.entries.flatMap fun middleware => backendFaults middleware.2) := by
  refine (Surveyed.flatMap (fun middleware : String × Backend => middleware.2.Violates)
    (fun _ middleware inner => GatewayPlace.middleware middleware.1 inner) ?_ ?_ ?_).congr ?_
  · intro middleware
    exact surveyed_backendFaults middleware.2
  · intro _ middleware first second before
    exact .inr ⟨rfl, before⟩
  · intro position position' middleware middleware' first second earlier listed listed'
    obtain ⟨below, rfl⟩ := List.getElem?_eq_some_iff.mp listed
    obtain ⟨below', rfl⟩ := List.getElem?_eq_some_iff.mp listed'
    exact .inl (List.pairwise_iff_getElem.mp gateway.middlewares.increasing position position' below below' earlier)
  · intro place fault
    constructor
    · rintro ⟨position, ⟨name, backend⟩, inner, listed, rfl, wrong⟩
      exact ⟨name, backend, inner, Sorted.mem_entries_iff.mp (List.mem_of_getElem? listed), rfl, wrong⟩
    · rintro ⟨name, backend, inner, known, rfl, wrong⟩
      obtain ⟨position, listed⟩ := List.getElem?_of_mem (Sorted.mem_entries_iff.mpr known)
      exact ⟨position, (name, backend), inner, listed, rfl, wrong⟩

/-- The faults are what is wrong. -/
theorem surveyed_faults (gateway : Gateway) : Surveyed gateway.Violates (faults gateway) := by
  refine ((surveyed_endpointsFaults gateway.endpoints).append (surveyed_middlewares gateway) ?_).congr ?_
  · rintro _ _ _ _ ⟨_, _, _, _, rfl, _⟩ ⟨_, _, _, _, rfl, _⟩
    trivial
  · intro place fault
    constructor
    · rintro (⟨position, endpoint, inner, listed, rfl, wrong⟩ | ⟨name, backend, inner, known, rfl, wrong⟩)
      · exact .endpoint listed wrong
      · exact .middleware known wrong
    · intro wrong
      cases wrong with
      | endpoint listed inner => exact .inl ⟨_, _, _, listed, rfl, inner⟩
      | middleware known inner => exact .inr ⟨_, _, _, known, rfl, inner⟩

/-! ## Soundness -/

theorem ruleIsSound_iff : RuleIsSound rule ↔ ∀ place fault, ¬ RuleViolates label rule place fault := by
  constructor
  · rintro ⟨keyed, served⟩ place fault (⟨blank, needed⟩ | ⟨response, lacking⟩)
    · rcases keyed with filled | whole
      · exact filled blank
      · exact needed whole
    · rcases served response with header | body
      · simp [header] at lacking
      · simp [body] at lacking
  · intro free
    refine ⟨?_, ?_⟩
    · by_cases whole : rule.1 = .body ∧ (rule.2.action = .add ∨ rule.2.action = .set)
      · exact .inr whole
      · exact .inl fun blank => free .key _ (.key blank whole)
    · intro response
      cases surface : rule.1 with
      | header => exact .inl rfl
      | body => exact .inr rfl
      | params => exact absurd (.surface response (.inl surface)) (free .surface _)
      | query => exact absurd (.surface response (.inr surface)) (free .surface _)

theorem Backend.isSound_iff : backend.IsSound ↔ ∀ place fault, ¬ backend.Violates place fault := by
  constructor
  · rintro ⟨⟨host, listed, filled⟩, rules⟩ place fault wrong
    cases wrong with
    | hosts blank => exact filled (blank host listed)
    | rule listed wrong => exact ruleIsSound_iff.mp (rules _ _ (List.mem_of_getElem? listed)) _ _ wrong
  · intro free
    refine ⟨?_, ?_⟩
    · by_cases blank : ∀ host ∈ backend.hosts, Text.White host.toList
      · exact absurd (.hosts blank) (free .hosts _)
      · simpa using blank
    · intro surface modifier member
      obtain ⟨position, listed⟩ := List.getElem?_of_mem member
      exact ruleIsSound_iff.mpr fun place fault wrong => free _ fault (.rule listed wrong)

theorem Endpoint.isSound_iff {earlier : List Endpoint} :
    (endpoint.IsSound ∧ ∀ other ∈ earlier, ¬ other.SameId endpoint) ↔
      ∀ place fault, ¬ endpoint.Violates earlier place fault := by
  constructor
  · rintro ⟨⟨path, nonempty, backends⟩, first⟩ place fault wrong
    cases wrong with
    | path relative => exact relative path
    | backends none => exact nonempty none
    | id listed same => exact first _ listed same
    | backend listed wrong => exact Backend.isSound_iff.mp (backends _ (List.mem_of_getElem? listed)) _ _ wrong
  · intro free
    refine ⟨⟨?_, ?_, ?_⟩, ?_⟩
    · by_cases path : endpoint.path.toList.head? = some '/'
      · exact path
      · exact absurd (.path path) (free .path _)
    · intro none
      exact free .backends _ (.backends none)
    · intro backend member
      obtain ⟨position, listed⟩ := List.getElem?_of_mem member
      exact Backend.isSound_iff.mpr fun place fault wrong => free _ fault (.backend listed wrong)
    · intro other listed same
      exact free .id _ (.id listed same)

/-- Endpoints are told apart if none has the id of an earlier one. -/
theorem pairwise_sameId_iff {endpoints : List Endpoint} : (endpoints.Pairwise fun one other => ¬ one.SameId other) ↔
    ∀ position endpoint, endpoints[position]? = some endpoint →
      ∀ other ∈ endpoints.take position, ¬ other.SameId endpoint := by
  rw [List.pairwise_iff_getElem]
  constructor
  · intro apart position endpoint listed other member
    obtain ⟨below, rfl⟩ := List.getElem?_eq_some_iff.mp listed
    obtain ⟨earlier, bound, rfl⟩ := List.mem_take_iff_getElem.mp member
    exact apart earlier position (by omega) below (by omega)
  · intro apart earlier position _ below before
    exact apart position _ (List.getElem?_eq_getElem below) _ (List.mem_take_iff_getElem.mpr ⟨earlier, by omega, rfl⟩)

theorem Gateway.isSound_iff : gateway.IsSound ↔ ∀ place fault, ¬ gateway.Violates place fault := by
  constructor
  · rintro ⟨endpoints, distinct, middlewares⟩ place fault wrong
    cases wrong with
    | endpoint listed wrong =>
      exact Endpoint.isSound_iff.mp
        ⟨endpoints _ (List.mem_of_getElem? listed), pairwise_sameId_iff.mp distinct _ _ listed⟩ _ _ wrong
    | middleware known wrong => exact Backend.isSound_iff.mp (middlewares _ _ known) _ _ wrong
  · intro free
    have each : ∀ position endpoint, gateway.endpoints[position]? = some endpoint →
        endpoint.IsSound ∧ ∀ other ∈ gateway.endpoints.take position, ¬ other.SameId endpoint :=
      fun position endpoint listed =>
        Endpoint.isSound_iff.mpr fun place fault wrong => free _ fault (.endpoint listed wrong)
    refine ⟨?_, ?_, ?_⟩
    · intro endpoint member
      obtain ⟨position, listed⟩ := List.getElem?_of_mem member
      exact (each position endpoint listed).1
    · exact pairwise_sameId_iff.mpr fun position endpoint listed => (each position endpoint listed).2
    · intro name backend known
      exact Backend.isSound_iff.mpr fun place fault wrong => free _ fault (.middleware known wrong)

/-- A configuration has no faults exactly when it is sound. -/
theorem faults_eq_nil_iff : faults gateway = [] ↔ gateway.IsSound :=
  (surveyed_faults gateway).eq_nil_iff.trans Gateway.isSound_iff.symm

/-- A configuration is accepted exactly when it is sound. Else its faults are all that is wrong with it, each listed once:
endpoint by endpoint, what is wrong with an endpoint itself before what is wrong with its backends, and the middlewares
by name at the end. There is one list of this kind. -/
theorem faults_exhaustive (gateway : Gateway) :
    (faults gateway = [] ↔ gateway.IsSound) ∧
      ∃ located : List (GatewayPlace × Fault), faults gateway = located.map Prod.snd ∧ Survey gateway.Violates located ∧
        ∀ other, Survey gateway.Violates other → other = located := by
  obtain ⟨located, survey, listed⟩ := surveyed_faults gateway
  exact ⟨faults_eq_nil_iff, located, listed, survey, fun other survey' => survey.unique GatewayPlace.lt_asymm survey'⟩

/-- A rule can have two faults: one on the query of a response, without a key. -/
example : ruleFaults "users" (.query, ⟨.response, .set, " ", "x", false⟩) =
    [.noKey "users" .set .query, .responseSurface "users" .query] := by decide

end Junction.Config
