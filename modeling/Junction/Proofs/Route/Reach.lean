import Junction.Proofs.Config.Validation
import Junction.Proofs.Route.Cover
import Junction.Proofs.Route.Lookup

/-!
Which endpoints can be reached at all. An endpoint is passed over for its rivals: those of the same method that are
tried before it. It is reached if one of its outlines is covered by none of them (`reached_of_exposed`).
-/

namespace Junction.Route.Table

open Template (Covers Tame WildcardLast exactly outline filledWith)

variable {endpoints : List Config.Endpoint} {position position' : Nat} {endpoint rival : Config.Endpoint}
  {path : String}

/-- The segments of an endpoint's template. -/
def segmentsOf (endpoint : Config.Endpoint) : List Segment := (Template.ofText endpoint.path).segments

theorem matches_iff : Matches endpoint path ↔ Covers (segmentsOf endpoint) (exactly (parts path)) :=
  Template.match?_isSome_iff ..

/-- A method and a path lead to the endpoint at a position. -/
def Reached (endpoints : List Config.Endpoint) (position : Nat) : Prop :=
  ∃ method path params, (ofEndpoints endpoints).lookup method path = .ok ⟨position, params⟩

/-- An endpoint with the method of another one, tried before it. -/
structure Rival (endpoints : List Config.Endpoint) (position : Nat) (endpoint : Config.Endpoint) (position' : Nat)
    (rival : Config.Endpoint) : Prop where
  listed : endpoints[position']? = some rival
  sameMethod : Text.sameIgnoringCase rival.method endpoint.method = true
  before : (row rival position').Before (row endpoint position)

/-- An outline of the endpoint, for some number of parts at its wildcard, is covered by no rival. -/
def Exposed (endpoints : List Config.Endpoint) (position : Nat) (endpoint : Config.Endpoint) : Prop :=
  ∃ rest, ∀ position' rival, Rival endpoints position endpoint position' rival →
    ¬ Covers (segmentsOf rival) (outline (segmentsOf endpoint) rest)

/-- Two endpoints match the same paths. -/
def SamePaths (one other : Config.Endpoint) : Prop := ∀ path, Matches one path ↔ Matches other path

/-! ## A path to an endpoint -/

theorem isPart_of_literal {text : String} (member : Segment.literal text ∈ segmentsOf endpoint) :
    ∃ part ∈ parts endpoint.path, text = String.ofList part := by
  obtain ⟨part, listed, literal⟩ := List.mem_map.mp member
  exact ⟨part, listed, Segment.eq_of_literal literal⟩

theorem literal_of_mem_outline {text : String} {segments : List Segment} {rest : Nat}
    (member : some text ∈ outline segments rest) : Segment.literal text ∈ segments := by
  induction segments with
  | nil => cases member
  | cons segment segments ih =>
    cases segment with
    | literal word =>
      rcases List.mem_cons.mp member with same | later
      · cases same
        exact List.mem_cons_self
      · exact List.mem_cons_of_mem _ (ih later)
    | param name =>
      rcases List.mem_cons.mp member with none | later
      · cases none
      · exact List.mem_cons_of_mem _ (ih later)
    | wildcard name => cases (List.mem_replicate.mp member).2

/-- There is a path with the parts of an outline, and one part that no template knows wherever the outline leaves it
open. -/
theorem exists_path (endpoints : List Config.Endpoint) (endpoint : Config.Endpoint) (rest : Nat) : ∃ fresh path,
    (∀ other ∈ endpoints, Segment.literal fresh ∉ segmentsOf other) ∧
      exactly (parts path) = (filledWith fresh (outline (segmentsOf endpoint) rest)).map some := by
  obtain ⟨fresh, unknown, isPart⟩ :=
    Template.exists_fresh (endpoints.flatMap fun other => (parts other.path).map String.ofList)
  have texts : ∀ text ∈ filledWith fresh (outline (segmentsOf endpoint) rest), IsPart text.toList := by
    intro text member
    obtain ⟨slot, here, same⟩ := List.mem_map.mp member
    cases slot with
    | none =>
      rw [← same]
      exact isPart
    | some word =>
      obtain ⟨part, listed, same'⟩ := isPart_of_literal (literal_of_mem_outline here)
      have whole : text.toList = part := by rw [← same, same']; exact String.toList_ofList
      exact whole ▸ isPart_of_mem_parts listed
  refine ⟨fresh, String.ofList (Text.joined '/'
    ((filledWith fresh (outline (segmentsOf endpoint) rest)).map String.toList)), ?_, ?_⟩
  · intro other member literal
    obtain ⟨part, listed, same⟩ := isPart_of_literal literal
    exact unknown (List.mem_flatMap.mpr ⟨other, member, List.mem_map.mpr ⟨part, listed, same.symm⟩⟩)
  · rw [parts_joined_parts (by simpa using texts), exactly, List.map_map]
    exact List.map_congr_left fun text _ => congrArg some String.ofList_toList

theorem reached_of_exposed (listed : endpoints[position]? = some endpoint)
    (exposed : Exposed endpoints position endpoint) : Reached endpoints position := by
  obtain ⟨rest, uncovered⟩ := exposed
  -- Who matches this path and does not know its fresh part covers the whole outline.
  obtain ⟨fresh, path, unknown, parts⟩ := exists_path endpoints endpoint rest
  have fits : Matches endpoint path := by
    rw [matches_iff, parts]
    exact (Template.covers_outline _ rest).of_refines (Template.refines_filledWith fresh _)
  obtain ⟨params, takes⟩ := Option.isSome_iff_exists.mp fits
  have mine : Answers endpoints endpoint.method path ⟨position, params⟩ endpoint :=
    ⟨listed, takes, beq_self_eq_true _⟩
  rcases lookup_cases endpoints endpoint.method path with ⟨route, found⟩ | ⟨unanswered, _⟩
  · obtain ⟨other, answers, first⟩ := firstToAnswer_of_lookup found
    rcases first _ _ mine with same | before
    · obtain ⟨_, params'⟩ := route
      cases same
      exact ⟨endpoint.method, path, params', found⟩
    · have fits' : Matches other path := Option.isSome_iff_exists.mpr ⟨_, answers.takes⟩
      rw [matches_iff, parts] at fits'
      have member := List.mem_of_getElem? answers.listed
      exact absurd (Template.covers_of_covers_fresh (unknown other member) fits')
        (uncovered _ other ⟨answers.listed, answers.named, before⟩)
  · exact absurd mine (unanswered _ _)

/-- Rivals that cover all outlines of an endpoint together hide it. -/
theorem exposed_of_reached (listed : endpoints[position]? = some endpoint) (reached : Reached endpoints position) :
    Exposed endpoints position endpoint := by
  obtain ⟨method, path, params, found⟩ := reached
  obtain ⟨other, answers, first⟩ := firstToAnswer_of_lookup found
  cases listed.symm.trans answers.listed
  have fits : Matches endpoint path := Option.isSome_iff_exists.mpr ⟨_, answers.takes⟩
  obtain ⟨rest, refines⟩ := (matches_iff.mp fits).exists_outline
  refine ⟨rest, ?_⟩
  intro position' rival ⟨there, sameMethod, before⟩ covers
  obtain ⟨params', takes⟩ := Option.isSome_iff_exists.mp (matches_iff.mpr (covers.of_refines refines))
  have named : Text.sameIgnoringCase rival.method method = true :=
    beq_iff_eq.mpr ((beq_iff_eq.mp sameMethod).trans (beq_iff_eq.mp answers.named))
  rcases first ⟨position', params'⟩ rival ⟨there, takes, named⟩ with same | after
  · cases same
    cases there.symm.trans listed
    exact before.asymm before
  · exact before.asymm after

/-! ## Endpoints without a wildcard -/

theorem literals_row (endpoint : Config.Endpoint) (position : Nat) :
    (row endpoint position).template.literals = (segmentsOf endpoint).countP Segment.isLiteral := rfl

/-- A rival that covers an endpoint without a wildcard has no wildcard either and matches the same paths. -/
theorem twin_of_covers (tame : Tame (segmentsOf endpoint))
    (last : WildcardLast (segmentsOf rival)) (rivals : Rival endpoints position endpoint position' rival)
    (covers : Covers (segmentsOf rival) (outline (segmentsOf endpoint) 0)) :
    position' < position ∧ SamePaths rival endpoint := by
  have fewer := covers.countP_le last
  rw [Template.countP_outline_of_tame tame] at fewer
  have closed := (Template.tame_iff (row endpoint position).template).mp tame
  rcases rivals.before with more | ⟨asMany, wild | ⟨both, earlier⟩⟩
  · simp only [literals_row] at more
    omega
  · exact absurd (closed.symm.trans wild.2) (by decide)
  · have tame' : Tame (segmentsOf rival) := (Template.tame_iff (row rival position').template).mpr (both.trans closed)
    rw [literals_row, literals_row, ← Template.countP_outline_of_tame tame] at asMany
    have same := covers.eq_outline tame' (Nat.le_of_eq asMany.symm)
    refine ⟨earlier, ?_⟩
    intro path
    rw [matches_iff, matches_iff, Template.covers_iff_of_tame tame', Template.covers_iff_of_tame tame, same]

/-- Endpoints that are told apart by method and path have different paths, if their methods are the same. -/
theorem path_ne_of_ids (distinct : (endpoints.map Config.Endpoint.id).Nodup)
    (listed : endpoints[position]? = some endpoint) (there : endpoints[position']? = some rival)
    (sameMethod : Text.sameIgnoringCase rival.method endpoint.method = true) (apart : position' ≠ position) :
    rival.path ≠ endpoint.path := by
  intro samePath
  have sameId : rival.id = endpoint.id := by
    rw [Config.Endpoint.id, Config.Endpoint.id, samePath, Text.upperAscii_of_sameIgnoringCase sameMethod]
  have below := (List.getElem?_eq_some_iff.mp there).1
  refine apart ((List.getElem?_inj (by simpa using below) distinct).mp ?_)
  rw [List.getElem?_map, List.getElem?_map, there, listed, Option.map_some, Option.map_some, sameId]

/-- What is known of the reach of an accepted endpoint. -/
structure Reach (gateway : Config.Gateway) (position : Nat) (endpoint : Config.Endpoint) : Prop where
  /-- It is reached if one of its outlines is covered by no endpoint of its method that is tried before it. That is the
  only way. -/
  exposed : Reached gateway.endpoints position ↔ Exposed gateway.endpoints position endpoint
  /-- Where wildcards stand last, an endpoint without one is reached, unless an earlier one of its method matches the
  same paths under another spelling. -/
  plain : (∀ other ∈ gateway.endpoints, WildcardLast (segmentsOf other)) →
    (Template.ofText endpoint.path).hasWildcard = false →
    Reached gateway.endpoints position ∨ ∃ position' rival, gateway.endpoints[position']? = some rival ∧
      position' < position ∧ Text.sameIgnoringCase rival.method endpoint.method = true ∧
      SamePaths rival endpoint ∧ rival.path ≠ endpoint.path

theorem reach_of_accepted (gateway : Config.Gateway) (accepted : Config.faults gateway = []) (position : Nat)
    (endpoint : Config.Endpoint) (listed : gateway.endpoints[position]? = some endpoint) :
    Reach gateway position endpoint := by
  refine ⟨⟨exposed_of_reached listed, reached_of_exposed listed⟩, ?_⟩
  intro last closed
  have tame : Tame (segmentsOf endpoint) := (Template.tame_iff _).mpr closed
  by_cases exposed : Exposed gateway.endpoints position endpoint
  · exact .inl (reached_of_exposed listed exposed)
  · right
    have covered : ∃ position' rival, Rival gateway.endpoints position endpoint position' rival ∧
        Covers (segmentsOf rival) (outline (segmentsOf endpoint) 0) := by
      apply Classical.byContradiction
      intro none
      exact exposed ⟨0, fun position' rival rivals covers => none ⟨position', rival, rivals, covers⟩⟩
    obtain ⟨position', rival, rivals, covers⟩ := covered
    obtain ⟨earlier, samePaths⟩ :=
      twin_of_covers tame (last rival (List.mem_of_getElem? rivals.listed)) rivals covers
    refine ⟨position', rival, rivals.listed, earlier, rivals.sameMethod, samePaths, ?_⟩
    exact path_ne_of_ids (Config.ids_of_faults accepted) listed rivals.listed rivals.sameMethod (Nat.ne_of_lt earlier)

/-- A backend to call. -/
def anyBackend : Config.Backend := { name := "svc", hosts := ["svc"] }

/-- A gateway whose templates overlap, in every form they can have. -/
def overlapping : Config.Gateway :=
  { endpoints :=
      [{ path := "/users/:id", backends := [anyBackend] }, { path := "/users/me", backends := [anyBackend] },
        { path := "/*rest", backends := [anyBackend] },
        { path := "/users/\x7bid\x7d/orders", method := "POST", backends := [anyBackend] }] }

theorem reach_of_accepted_overlapping : Config.faults overlapping = [] ∧
    overlapping.endpoints[0]? = some { path := "/users/:id", backends := [anyBackend] } ∧
      Reach overlapping 0 { path := "/users/:id", backends := [anyBackend] } :=
  ⟨by decide +kernel, rfl, reach_of_accepted overlapping (by decide +kernel) 0 _ rfl⟩

/-- A gateway that tries an endpoint for all paths before one for those with at least one part. -/
def catchAllFirst : Config.Gateway :=
  { endpoints :=
      [{ path := "/*all", backends := [anyBackend] }, { path := "/:first/*rest", backends := [anyBackend] }] }

/-- The order of the configuration decides between templates that are equally specific, and can hide an endpoint. -/
theorem catchAllFirst_hides : Config.faults catchAllFirst = [] ∧ catchAllFirst.endpoints.length = 2 ∧
    ∀ method path params, (ofEndpoints catchAllFirst.endpoints).lookup method path ≠ .ok ⟨1, params⟩ := by
  refine ⟨by decide +kernel, rfl, ?_⟩
  intro method path params found
  have listed : catchAllFirst.endpoints[1]? = some catchAllFirst.endpoints[1] := rfl
  obtain ⟨rest, uncovered⟩ := exposed_of_reached listed ⟨method, path, params, found⟩
  have all : segmentsOf catchAllFirst.endpoints[0] = [.wildcard "all"] := by decide +kernel
  refine uncovered 0 catchAllFirst.endpoints[0] ⟨rfl, by decide +kernel, by decide +kernel⟩ ?_
  rw [all]
  exact .wildcard ..

end Junction.Route.Table
