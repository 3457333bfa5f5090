import Junction.Route.Table

/-!
The laws of the table of routes: the routes that it finds lead to endpoints, and only methods and paths have a part in
it.
-/

namespace Junction.Route.Table

variable {endpoints : List Config.Endpoint} {method path : String} {route : Match} {failure : Failure}

theorem endpoint_of_mem {row : Row} (member : row ∈ (ofEndpoints endpoints).rows) :
    ∃ endpoint, endpoints[row.endpoint]? = some endpoint := by
  rw [ofEndpoints, List.mem_mergeSort] at member
  obtain ⟨position, below, rfl⟩ := List.mem_mapIdx.mp member
  exact ⟨endpoints[position], List.getElem?_eq_getElem below⟩

/-- A route that is found leads to an endpoint. -/
theorem endpoint_of_lookup (found : (ofEndpoints endpoints).lookup method path = .ok route) :
    ∃ endpoint, endpoints[route.endpoint]? = some endpoint := by
  unfold lookup at found
  dsimp only at found
  split at found
  · rename_i row params first
    cases found
    have listed := List.mem_of_find?_eq_some first
    obtain ⟨row', member, same⟩ := List.mem_filterMap.mp listed
    obtain ⟨params', _, pair⟩ := Option.map_eq_some_iff.mp same
    cases pair
    exact endpoint_of_mem member
  · cases found

theorem status_of_lookup {table : Table} (missed : table.lookup method path = .error failure) :
    failure.kind.status = 404 ∨ failure.kind.status = 405 := by
  unfold lookup at missed
  dsimp only at missed
  split at missed
  · cases missed
  · cases missed
    split
    · exact .inl rfl
    · exact .inr rfl

theorem ofEndpoints_map (change : Config.Endpoint → Config.Endpoint)
    (paths : ∀ endpoint, (change endpoint).path = endpoint.path)
    (methods : ∀ endpoint, (change endpoint).method = endpoint.method) (endpoints : List Config.Endpoint) :
    ofEndpoints (endpoints.map change) = ofEndpoints endpoints := by
  have rows : ((endpoints.map change).mapIdx fun position endpoint => row endpoint position) =
      endpoints.mapIdx fun position endpoint => row endpoint position := by
    apply List.ext_getElem?
    intro position
    simp only [List.getElem?_mapIdx, List.getElem?_map, Option.map_map]
    congr 1
    funext endpoint
    simp only [Function.comp_apply, row, paths, methods]
  simp only [ofEndpoints, rows]

end Junction.Route.Table
