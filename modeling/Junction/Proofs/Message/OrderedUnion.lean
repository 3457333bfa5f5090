import Junction.Proofs.Message.Fields
import Junction.Proofs.Message.Joined

/-!
Joining headers is an ordered union. A field that headers share has the values of the first header, then those of the
second that the first lacks (`OrderedUnion`); the fields of the content stay those of the first. Joining is therefore
associative, a header joined to itself is the same again, and many headers are joined in any grouping
(`Header.aggregate_orderedUnion`).
-/

namespace Junction

variable {own more all : List String}

/-! ## Lists of values -/

theorem eraseDups_filter (keep : String → Bool) (values : List String) :
    (values.filter keep).eraseDups = values.eraseDups.filter keep := by
  induction values using List.reverseRecOn with
  | nil => rfl
  | append_singleton values value ih =>
    rw [List.filter_append, eraseDups_concat values, List.filter_append, ← ih]
    by_cases kept : keep value = true
    · have alone : [value].filter keep = [value] := by simp [kept]
      rw [alone, eraseDups_concat]
      by_cases there : value ∈ values <;> simp [List.removeAll, there, kept]
    · have none : ([value].removeAll values.eraseDups).filter keep = [] := by
        by_cases there : value ∈ values <;> simp [List.removeAll, there, kept]
      simp [kept, none]

theorem eraseDups_removeAll (values own : List String) :
    (values.removeAll own).eraseDups = values.eraseDups.removeAll own :=
  eraseDups_filter (fun value => !own.elem value) values

/-- Without repetitions values stand in the order of their first places. -/
theorem pairwise_idxOf_eraseDups (values : List String) :
    values.eraseDups.Pairwise fun one other => values.idxOf one < values.idxOf other := by
  induction values using List.reverseRecOn with
  | nil => exact List.Pairwise.nil
  | append_singleton values value ih =>
    have place : ∀ one ∈ values.eraseDups, (values ++ [value]).idxOf one = values.idxOf one :=
      fun one member => List.idxOf_append_of_mem (List.mem_eraseDups.mp member)
    rw [eraseDups_concat, List.pairwise_append]
    refine ⟨?_, ?_, ?_⟩
    · refine ih.imp_of_mem ?_
      intro one other member member' before
      rwa [place one member, place other member']
    · exact (List.pairwise_singleton _ value).sublist List.filter_sublist
    · -- The last value is new, so that its first place is behind all others.
      intro one member other last
      obtain ⟨rfl, absent⟩ : other = value ∧ other ∉ values.eraseDups := by
        simpa [List.removeAll] using List.mem_filter.mp last
      rw [place one member, List.idxOf_append_of_notMem (fun there => absent (List.mem_eraseDups.mpr there))]
      have inside := List.idxOf_lt_length_of_mem (List.mem_eraseDups.mp member)
      omega

/-- Values that stand in the order of their places in a list are there once each. -/
theorem nodup_of_ordered {values : List String}
    (ordered : values.Pairwise fun one other => more.idxOf one < more.idxOf other) : values.Nodup := by
  refine ordered.imp ?_
  rintro one other before rfl
  exact Nat.lt_irrefl _ before

/-! ## Ordered unions -/

/-- The values of `own`, then those of `more` that are not among them, each once and in the order of their first places. -/
def OrderedUnion (own more all : List String) : Prop :=
  ∃ added, all = own ++ added ∧ (∀ value, value ∈ added ↔ value ∈ more ∧ value ∉ own) ∧
    added.Pairwise fun one other => more.idxOf one < more.idxOf other

theorem OrderedUnion.unique {other : List String} (union : OrderedUnion own more all)
    (union' : OrderedUnion own more other) : all = other := by
  obtain ⟨added, rfl, members, ordered⟩ := union
  obtain ⟨added', rfl, members', ordered'⟩ := union'
  have perm : added.Perm added' := by
    rw [List.perm_ext_iff_of_nodup (nodup_of_ordered ordered) (nodup_of_ordered ordered')]
    intro value
    rw [members, members']
  have same : added = added' := by
    refine perm.eq_of_pairwise ?_ ordered ordered'
    intro one other _ _ before after
    exact absurd (Nat.lt_trans before after) (Nat.lt_irrefl _)
  rw [same]

theorem orderedUnion_iff : OrderedUnion own more all ↔ all = own ++ (more.removeAll own).eraseDups := by
  have union : OrderedUnion own more (own ++ (more.removeAll own).eraseDups) := by
    refine ⟨_, rfl, ?_, ?_⟩
    · intro value
      simp [List.removeAll, List.mem_eraseDups]
    · rw [eraseDups_removeAll]
      exact (pairwise_idxOf_eraseDups more).sublist List.filter_sublist
  exact ⟨fun given => given.unique union, fun same => same ▸ union⟩

/-- It makes no difference which of three lists are united first. -/
theorem union_assoc (own more last : List String) :
    own ++ (more.removeAll own).eraseDups ++ (last.removeAll (own ++ (more.removeAll own).eraseDups)).eraseDups =
      own ++ ((more ++ (last.removeAll more).eraseDups).removeAll own).eraseDups := by
  have once : last.eraseDups.eraseDups = last.eraseDups :=
    eraseDups_of_nodup (nodup_of_ordered (pairwise_idxOf_eraseDups last))
  have apart : (more ++ (last.removeAll more).eraseDups).removeAll own =
      more.removeAll own ++ ((last.removeAll more).eraseDups).removeAll own := List.filter_append ..
  -- Either way a value of the last list is added if it is in neither of the others.
  have rest : (last.removeAll (own ++ (more.removeAll own).eraseDups)).eraseDups =
      ((((last.removeAll more).eraseDups).removeAll own).removeAll (more.removeAll own)).eraseDups := by
    simp only [eraseDups_removeAll, once]
    simp only [List.removeAll, List.filter_filter]
    apply List.filter_congr
    intro value _
    by_cases inOwn : value ∈ own <;> by_cases inMore : value ∈ more <;> simp [inOwn, inMore]
  rw [apart, List.eraseDups_append, ← rest, List.append_assoc]

/-! ## Headers -/

namespace Header

theorem aggregate_assoc (a b c : Header) : (a.aggregate b).aggregate c = a.aggregate (b.aggregate c) := by
  apply ext_getAll
  intro field
  by_cases own : IsOfContent field
  · simp only [getAll_aggregate_ofContent own]
  · simp only [getAll_aggregate_new own]
    exact union_assoc ..

theorem aggregate_self (a : Header) : a.aggregate a = a := by
  apply ext_getAll
  intro field
  by_cases own : IsOfContent field
  · exact getAll_aggregate_ofContent own a a
  · have none : (a.fields.getAll field).removeAll (a.fields.getAll field) = [] := by
      simp [List.removeAll]
    rw [getAll_aggregate_new own, none, List.eraseDups_nil, List.append_nil]

theorem aggregate_empty (a : Header) : a.aggregate ∅ = a := rfl

/-- Headers joined one after another are all those behind the first, joined to it at once. -/
theorem foldl_aggregate (a : Header) (headers : List Header) :
    headers.foldl aggregate a = a.aggregate (headers.foldr aggregate ∅) := by
  induction headers generalizing a with
  | nil => exact (aggregate_empty a).symm
  | cons header headers ih => rw [List.foldl_cons, ih, aggregate_assoc, List.foldr_cons]

/-- Joining headers is associative, adds nothing that is there, and makes an ordered union of the values of every name but
those of the length and the type of the content, which stay those of the first header. -/
theorem aggregate_orderedUnion (a b c : Header) (headers : List Header) :
    (a.aggregate b).aggregate c = a.aggregate (b.aggregate c) ∧ a.aggregate a = a ∧
      headers.foldl aggregate a = a.aggregate (headers.foldr aggregate ∅) ∧
      ∀ name, if IsOfContent (headerName name) then (a.aggregate b).getAll name = a.getAll name
        else ∀ values, (a.aggregate b).getAll name = values ↔ OrderedUnion (a.getAll name) (b.getAll name) values := by
  refine ⟨aggregate_assoc a b c, aggregate_self a, foldl_aggregate a headers, ?_⟩
  intro name
  split
  · rename_i own
    exact getAll_aggregate_ofContent own a b
  · rename_i shared
    intro values
    rw [orderedUnion_iff, getAll, getAll_aggregate_new shared]
    exact eq_comm

example : ((ofPairs [("X-Trace", "1"), ("Content-Type", "text/plain")]).aggregate
    (ofPairs [("x-trace", "2"), ("X-Trace", "1"), ("x-trace", "2"), ("Content-Length", "10")])).joined =
      [("Content-Type", "text/plain"), ("X-Trace", "1, 2")] := by decide +kernel

end Header
end Junction
