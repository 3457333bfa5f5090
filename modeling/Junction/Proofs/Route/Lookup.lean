import Junction.Proofs.Route.Table
import Junction.Proofs.Text.Case

/-!
Which endpoint answers a method and a path. Rows are tried by the literal segments of their templates, then those
without a wildcard, then as they are configured (`Row.Before`). The first one that matches the path and has the
method is found; without one it is told whether the path has other methods (`LooksUp`).
-/

namespace Junction.Route

/-! ## The order of rows -/

/-- A row is tried before another: its template has more literal segments, or as many but no wildcard, or its endpoint
is configured earlier. -/
def Row.Before (first second : Row) : Prop :=
  second.template.literals < first.template.literals ∨
    first.template.literals = second.template.literals ∧
      (first.template.hasWildcard = false ∧ second.template.hasWildcard = true ∨
        first.template.hasWildcard = second.template.hasWildcard ∧ first.endpoint < second.endpoint)

variable {first second : Row} {endpoints : List Config.Endpoint} {method path : String} {route : Match}

instance (first second : Row) : Decidable (first.Before second) := inferInstanceAs (Decidable (_ ∨ _ ∧ _))

theorem Row.Before.asymm (before : first.Before second) : ¬ second.Before first := by
  intro after
  rcases before with more | ⟨same, wild | ⟨both, earlier⟩⟩
  · rcases after with more' | ⟨same', _⟩
    · omega
    · omega
  · rcases after with more' | ⟨_, wild' | ⟨both', _⟩⟩
    · omega
    · exact absurd (wild.1.symm.trans wild'.2) (by decide)
    · exact absurd (wild.1.symm.trans (both'.symm.trans wild.2)) (by decide)
  · rcases after with more' | ⟨_, wild' | ⟨_, later⟩⟩
    · omega
    · exact absurd (wild'.1.symm.trans (both.symm.trans wild'.2)) (by decide)
    · omega

theorem Row.before_of_rank (most : second.template.rank ≤ first.template.rank)
    (ties : first.template.rank = second.template.rank → first.endpoint < second.endpoint) : first.Before second := by
  unfold Template.rank at most ties
  cases wild : first.template.hasWildcard <;> cases wild' : second.template.hasWildcard <;>
    simp [Row.Before, wild, wild'] at most ties ⊢ <;> omega

namespace Table

theorem mem_rows {found : Row} : found ∈ (ofEndpoints endpoints).rows ↔
    ∃ endpoint, endpoints[found.endpoint]? = some endpoint ∧ found = row endpoint found.endpoint := by
  rw [ofEndpoints, List.mem_mergeSort, List.mem_mapIdx]
  constructor
  · rintro ⟨position, below, rfl⟩
    exact ⟨endpoints[position], List.getElem?_eq_getElem below, rfl⟩
  · rintro ⟨endpoint, there, same⟩
    obtain ⟨below, rfl⟩ := List.getElem?_eq_some_iff.mp there
    exact ⟨found.endpoint, below, same.symm⟩

theorem endpoint_of_mem_zipIdx {found : Row} {position : Nat}
    (member : (found, position) ∈ (endpoints.mapIdx fun position endpoint => row endpoint position).zipIdx) :
    found.endpoint = position := by
  obtain ⟨_, _, same⟩ := List.mem_zipIdx member
  simp [same, row]

/-- Rows are tried in their order: sorting keeps the order of the configuration among equals. -/
theorem rows_before (endpoints : List Config.Endpoint) : (ofEndpoints endpoints).rows.Pairwise Row.Before := by
  have total : ∀ first second : Row,
      (decide (second.template.rank ≤ first.template.rank) || decide (first.template.rank ≤ second.template.rank)) =
        true := by
    intro first second
    simpa using Nat.le_total _ _
  have trans : ∀ first second third : Row, decide (second.template.rank ≤ first.template.rank) = true →
      decide (third.template.rank ≤ second.template.rank) = true →
      decide (third.template.rank ≤ first.template.rank) = true := by
    intro first second third above below
    simp only [decide_eq_true_eq] at above below ⊢
    omega
  -- That rows of one rank keep their order is the order of the rows sorted together with their positions.
  have sorted := List.pairwise_mergeSort (List.zipIdxLE_trans trans) (List.zipIdxLE_total total)
    (endpoints.mapIdx fun position endpoint => row endpoint position).zipIdx
  have distinct : ((endpoints.mapIdx fun position endpoint => row endpoint position).zipIdx.mergeSort
      (List.zipIdxLE fun first second : Row => second.template.rank ≤ first.template.rank)).Pairwise
        fun first second => first.2 ≠ second.2 := by
    rw [← List.pairwise_map, ← List.Nodup]
    exact ((List.mergeSort_perm _ _).map Prod.snd).nodup_iff.mpr (by simp [List.nodup_range'])
  rw [ofEndpoints, ← List.mergeSort_zipIdx, List.pairwise_map]
  refine (sorted.and distinct).imp_of_mem ?_
  rintro ⟨first, position⟩ ⟨second, position'⟩ member member' ⟨ordered, apart⟩
  have here := endpoint_of_mem_zipIdx (List.mem_mergeSort.mp member)
  have there := endpoint_of_mem_zipIdx (List.mem_mergeSort.mp member')
  simp only [List.zipIdxLE, decide_eq_true_eq] at ordered here there apart ⊢
  split at ordered
  · rename_i most
    refine Row.before_of_rank most ?_
    intro tie
    rw [if_pos (Nat.le_of_eq tie)] at ordered
    have below : position ≤ position' := by simpa using ordered
    omega
  · cases ordered

/-! ## What is found -/

/-- An endpoint answers a method and a path by a route: it has the method, whatever its case, and its template takes
the parameters of the route from the path. -/
structure Answers (endpoints : List Config.Endpoint) (method path : String) (route : Match)
    (endpoint : Config.Endpoint) : Prop where
  listed : endpoints[route.endpoint]? = some endpoint
  takes : (Template.ofText endpoint.path).match? path = some route.params
  named : Text.sameIgnoringCase endpoint.method method = true

theorem mem_matching {found : Row} {params : Params} : (found, params) ∈ (ofEndpoints endpoints).matching path ↔
    ∃ endpoint, endpoints[found.endpoint]? = some endpoint ∧ found = row endpoint found.endpoint ∧
      (Template.ofText endpoint.path).match? path = some params := by
  simp only [matching, List.mem_filterMap, mem_rows, Option.map_eq_some_iff, Prod.mk.injEq]
  constructor
  · rintro ⟨other, ⟨endpoint, there, same⟩, params', takes, rfl, rfl⟩
    rw [same] at takes
    exact ⟨endpoint, there, same, takes⟩
  · rintro ⟨endpoint, there, same, takes⟩
    refine ⟨found, ⟨endpoint, there, same⟩, params, ?_, rfl, rfl⟩
    rw [same]
    exact takes

/-- The candidates of a path that have a method are the endpoints that answer. -/
theorem answers_iff {endpoint : Config.Endpoint} : Answers endpoints method path route endpoint ↔
    (row endpoint route.endpoint, route.params) ∈ (ofEndpoints endpoints).matching path ∧
      endpoints[route.endpoint]? = some endpoint ∧
      Text.sameIgnoringCase (row endpoint route.endpoint).method method = true := by
  simp only [mem_matching, row, Text.sameIgnoringCase_upperAscii]
  constructor
  · rintro ⟨listed, takes, named⟩
    exact ⟨⟨endpoint, listed, rfl, takes⟩, listed, named⟩
  · rintro ⟨⟨other, there, _, takes⟩, listed, named⟩
    cases there.symm.trans listed
    exact ⟨listed, takes, named⟩

theorem matching_before (endpoints : List Config.Endpoint) (path : String) :
    ((ofEndpoints endpoints).matching path).Pairwise fun first second => first.1.Before second.1 := by
  refine (rows_before endpoints).filterMap _ ?_
  intro first second before candidate here candidate' there
  obtain ⟨_, _, rfl⟩ := Option.map_eq_some_iff.mp here
  obtain ⟨_, _, rfl⟩ := Option.map_eq_some_iff.mp there
  exact before

/-- An endpoint is the first to answer. -/
def FirstToAnswer (endpoints : List Config.Endpoint) (method path : String) (route : Match) : Prop :=
  ∃ endpoint, Answers endpoints method path route endpoint ∧
    ∀ other endpoint', Answers endpoints method path other endpoint' →
      other.endpoint = route.endpoint ∨ (row endpoint route.endpoint).Before (row endpoint' other.endpoint)

theorem FirstToAnswer.unique {other : Match} (one : FirstToAnswer endpoints method path route)
    (two : FirstToAnswer endpoints method path other) : route = other := by
  obtain ⟨endpoint, answers, first⟩ := one
  obtain ⟨endpoint', answers', first'⟩ := two
  have same : other.endpoint = route.endpoint := by
    rcases first other endpoint' answers' with same | before
    · exact same
    · rcases first' route endpoint answers with same | after
      · exact same.symm
      · exact absurd after before.asymm
  obtain ⟨position, params⟩ := route
  obtain ⟨position', params'⟩ := other
  cases same
  cases answers.listed.symm.trans answers'.listed
  cases answers.takes.symm.trans answers'.takes
  rfl

theorem firstToAnswer_of_lookup (found : (ofEndpoints endpoints).lookup method path = .ok route) :
    FirstToAnswer endpoints method path route := by
  unfold lookup at found
  dsimp only at found
  split at found
  · rename_i tried params first
    cases found
    obtain ⟨named, before, after, split, passed⟩ := List.find?_eq_some_iff_append.mp first
    have listed : (tried, params) ∈ (ofEndpoints endpoints).matching path := by simp [split]
    obtain ⟨endpoint, there, same, takes⟩ := mem_matching.mp listed
    have here : row endpoint tried.endpoint = tried := same.symm
    refine ⟨endpoint, answers_iff.mpr ⟨by rwa [here], there, by rwa [here]⟩, ?_⟩
    intro other endpoint' answers
    obtain ⟨listed', _, named'⟩ := answers_iff.mp answers
    rw [here]
    rw [split] at listed'
    rcases List.mem_append.mp listed' with early | late
    · have skipped := passed _ early
      simp [named'] at skipped
    · rcases List.mem_cons.mp late with this | later
      · left
        cases this
        rfl
      · right
        have ordered := matching_before endpoints path
        rw [split] at ordered
        exact (List.pairwise_cons.mp (List.pairwise_append.mp ordered).2.1).1 _ later
  · cases found

/-- An endpoint's template matches a path. -/
def Matches (endpoint : Config.Endpoint) (path : String) : Prop :=
  ((Template.ofText endpoint.path).match? path).isSome = true

theorem matching_eq_nil_iff :
    (ofEndpoints endpoints).matching path = [] ↔ ∀ endpoint ∈ endpoints, ¬ Matches endpoint path := by
  rw [List.eq_nil_iff_forall_not_mem]
  constructor
  · intro none endpoint member fits
    obtain ⟨params, takes⟩ := Option.isSome_iff_exists.mp fits
    obtain ⟨position, there⟩ := List.mem_iff_getElem?.mp member
    exact none (row endpoint position, params) (mem_matching.mpr ⟨endpoint, there, rfl, takes⟩)
  · rintro none ⟨found, params⟩ listed
    obtain ⟨endpoint, there, _, takes⟩ := mem_matching.mp listed
    exact none endpoint (List.mem_of_getElem? there) (Option.isSome_iff_exists.mpr ⟨params, takes⟩)

theorem exists_answers_iff : (∃ route endpoint, Answers endpoints method path route endpoint) ↔
    ∃ endpoint ∈ endpoints, Matches endpoint path ∧ Text.sameIgnoringCase endpoint.method method = true := by
  constructor
  · rintro ⟨route, endpoint, listed, takes, named⟩
    exact ⟨endpoint, List.mem_of_getElem? listed, Option.isSome_iff_exists.mpr ⟨_, takes⟩, named⟩
  · rintro ⟨endpoint, member, fits, named⟩
    obtain ⟨params, takes⟩ := Option.isSome_iff_exists.mp fits
    obtain ⟨position, there⟩ := List.mem_iff_getElem?.mp member
    exact ⟨⟨position, params⟩, endpoint, there, takes, named⟩

/-- A look-up without an answer fails, and tells whether any template matches the path. -/
theorem lookup_cases (endpoints : List Config.Endpoint) (method path : String) :
    (∃ route, (ofEndpoints endpoints).lookup method path = .ok route) ∨
      (∀ route endpoint, ¬ Answers endpoints method path route endpoint) ∧
        (((∃ endpoint ∈ endpoints, Matches endpoint path) ∧
            (ofEndpoints endpoints).lookup method path = .error (.methodNotAllowed method path)) ∨
          ((∀ endpoint ∈ endpoints, ¬ Matches endpoint path) ∧
            (ofEndpoints endpoints).lookup method path = .error (.notFound path))) := by
  unfold lookup
  dsimp only
  split
  · exact .inl ⟨_, rfl⟩
  · rename_i none
    right
    refine ⟨?_, ?_⟩
    · intro route endpoint answers
      obtain ⟨listed, _, named⟩ := answers_iff.mp answers
      exact List.find?_eq_none.mp none _ listed named
    · by_cases fits : ∃ endpoint ∈ endpoints, Matches endpoint path
      · left
        refine ⟨fits, congrArg Except.error (if_neg ?_)⟩
        obtain ⟨endpoint, member, fits⟩ := fits
        intro unmatched
        exact matching_eq_nil_iff.mp (List.isEmpty_iff.mp unmatched) endpoint member fits
      · right
        have unmatched : ∀ endpoint ∈ endpoints, ¬ Matches endpoint path :=
          fun endpoint member here => fits ⟨endpoint, member, here⟩
        refine ⟨unmatched, ?_⟩
        rw [matching_eq_nil_iff.mpr unmatched]
        rfl

/-- What a method and a path lead to. -/
structure LooksUp (endpoints : List Config.Endpoint) (method path : String) (result : Except Failure Match) :
    Prop where
  /-- There is a route if some endpoint has the method and matches the path. -/
  routed : (∃ route, result = .ok route) ↔
    ∃ endpoint ∈ endpoints, Matches endpoint path ∧ Text.sameIgnoringCase endpoint.method method = true
  /-- It is that of the first of them. -/
  first : ∀ route, result = .ok route ↔ FirstToAnswer endpoints method path route
  otherMethod : result = .error (.methodNotAllowed method path) ↔
    (¬ ∃ route, result = .ok route) ∧ ∃ endpoint ∈ endpoints, Matches endpoint path
  unmatched : result = .error (.notFound path) ↔ ∀ endpoint ∈ endpoints, ¬ Matches endpoint path
  failures : ∀ failure, result = .error failure →
    failure = .methodNotAllowed method path ∨ failure = .notFound path

theorem looksUp_of_found {result : Except Failure Match} (found : result = .ok route)
    (first : FirstToAnswer endpoints method path route) : LooksUp endpoints method path result := by
  obtain ⟨endpoint, answers, _⟩ := id first
  have member := List.mem_of_getElem? answers.listed
  have fits : Matches endpoint path := Option.isSome_iff_exists.mpr ⟨_, answers.takes⟩
  subst found
  refine ⟨⟨fun _ => ⟨endpoint, member, fits, answers.named⟩, fun _ => ⟨route, rfl⟩⟩, ?_, ?_, ?_, ?_⟩
  · intro other
    constructor
    · rintro ⟨rfl⟩
      exact first
    · intro first'
      rw [first.unique first']
  · constructor
    · intro failed
      cases failed
    · rintro ⟨unrouted, _⟩
      exact absurd ⟨route, rfl⟩ unrouted
  · constructor
    · intro failed
      cases failed
    · intro unmatched
      exact absurd fits (unmatched endpoint member)
  · intro failure failed
    cases failed

theorem looksUp_of_unanswered {failure : Failure} {result : Except Failure Match} (failed : result = .error failure)
    (unanswered : ∀ route endpoint, ¬ Answers endpoints method path route endpoint)
    (told : (failure = .methodNotAllowed method path ∧ ∃ endpoint ∈ endpoints, Matches endpoint path) ∨
      (failure = .notFound path ∧ ∀ endpoint ∈ endpoints, ¬ Matches endpoint path)) :
    LooksUp endpoints method path result := by
  have unrouted : ¬ ∃ endpoint ∈ endpoints, Matches endpoint path ∧
      Text.sameIgnoringCase endpoint.method method = true := by
    rw [← exists_answers_iff]
    rintro ⟨route, endpoint, answers⟩
    exact unanswered route endpoint answers
  have notFirst : ∀ route, ¬ FirstToAnswer endpoints method path route := by
    rintro route ⟨endpoint, answers, _⟩
    exact unanswered route endpoint answers
  subst failed
  rcases told with ⟨rfl, endpoint, member, fits⟩ | ⟨rfl, unmatched⟩
  · refine ⟨by simpa using unrouted, by simpa using notFirst, ?_, ?_, fun _ same => .inl (Except.error.inj same).symm⟩
    · simpa using ⟨endpoint, member, fits⟩
    · constructor
      · intro same
        cases same
      · intro unmatched
        exact absurd fits (unmatched endpoint member)
  · refine ⟨by simpa using unrouted, by simpa using notFirst, ?_, ?_, fun _ same => .inr (Except.error.inj same).symm⟩
    · constructor
      · intro same
        cases same
      · rintro ⟨_, endpoint, member, fits⟩
        exact absurd fits (unmatched endpoint member)
    · simpa using unmatched

/-- The table leads to the first endpoint that answers, and tells a path that has other methods from one that has
none. -/
theorem lookup_exact (endpoints : List Config.Endpoint) (method path : String) :
    LooksUp endpoints method path ((ofEndpoints endpoints).lookup method path) := by
  rcases lookup_cases endpoints method path with ⟨route, found⟩ | ⟨unanswered, ⟨fits, failed⟩ | ⟨unmatched, failed⟩⟩
  · exact looksUp_of_found found (firstToAnswer_of_lookup found)
  · exact looksUp_of_unanswered failed unanswered (.inl ⟨rfl, fits⟩)
  · exact looksUp_of_unanswered failed unanswered (.inr ⟨rfl, unmatched⟩)

end Table
end Junction.Route
