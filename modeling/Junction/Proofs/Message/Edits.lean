import Junction.Proofs.Message.Fields
import Junction.Proofs.Message.HeaderName
import Junction.Proofs.Message.Joined

/-!
Headers and queries after any edits. What stands under a name is told by the edits of that name alone, one after another
(`Header.getAll_edited`, `Query.getAll_edited`), and the ways to look it up agree (`Multimap.sound`). The fields of a header
that is built of ASCII names have one spelling each, which every name that differs only in case and space around it leads
to (`edits_refine`).
-/

namespace Junction

/-! ## Maps -/

namespace Multimap

/-- The ways to look into a map agree: every entry has a value, and its values are those that are found under its key. -/
structure Sound (m : Multimap) : Prop where
  filled : ∀ entry ∈ m.entries, entry.2.toList ≠ []
  listed : ∀ entry, entry ∈ m.entries ↔ m.getAll entry.1 = entry.2.toList
  contained : ∀ key, m.contains key = true ↔ m.getAll key ≠ []
  first : ∀ key, m.get? key = (m.getAll key).head?

theorem mem_entries_iff {m : Multimap} {entry : String × Values} :
    entry ∈ m.entries ↔ m.getAll entry.1 = entry.2.toList := by
  obtain ⟨key, values⟩ := entry
  refine Sorted.mem_entries_iff.trans ?_
  rw [getAll]
  cases m.map.get? key with
  | none => simp [(toList_ne_nil values).symm]
  | some found =>
    rw [Option.some.injEq]
    exact ⟨congrArg Values.toList, toList_injective⟩

theorem sound (m : Multimap) : Sound m :=
  ⟨fun entry _ => toList_ne_nil entry.2, fun _ => mem_entries_iff, fun _ => contains_iff, m.get?_eq_head?⟩

end Multimap

/-! ## Headers -/

namespace Header

/-- A way to change a header. -/
inductive Edit where
  | modify (action : Action) (key value : String)
  | filter (names : List String)
  | withoutTransport
  | aggregate (other : Header)

/-- The header after an edit. -/
def Edit.apply (header : Header) : Edit → Header
  | .modify action key value => header.modify action key value
  | .filter names => header.filter names
  | .withoutTransport => header.withoutTransport
  | .aggregate other => header.aggregate other

/-- The header after edits, one after another. -/
def edited (header : Header) (edits : List Edit) : Header := edits.foldl Edit.apply header

/-- What an edit makes of the values of a field. -/
def Edit.onValues (field : String) (values : List String) : Edit → List String
  | .modify action key value => if key ≠ "" ∧ headerName key = field then action.onValues value values else values
  | .filter names => if "*" ∈ names ∨ field ∈ names.map headerName then values else []
  | .withoutTransport => if field ∈ ofTransport then [] else values
  | .aggregate other =>
    if IsOfContent field then values else values ++ ((other.fields.getAll field).removeAll values).eraseDups

variable {header other : Header} {edit : Edit} {edits : List Edit} {field key : String}

/-- An action with a key changes the field that the key names, and no other. -/
theorem getAll_modify (named : key ≠ "") (header : Header) (action : Action) (value field : String) :
    (header.modify action key value).fields.getAll field =
      if headerName key = field then action.onValues value (header.getAll key) else header.fields.getAll field := by
  have filled : ¬ key.isEmpty = true := by rwa [String.isEmpty_iff]
  rw [fields_modify, if_neg filled, Multimap.getAll_modify]
  rfl

theorem getAll_apply (header : Header) (edit : Edit) (field : String) :
    (edit.apply header).fields.getAll field = edit.onValues field (header.fields.getAll field) := by
  cases edit with
  | modify action key value =>
    by_cases named : key = ""
    · subst named
      simp [Edit.apply, Edit.onValues, fields_modify]
    · rw [Edit.apply, getAll_modify named, Edit.onValues]
      by_cases here : headerName key = field
      · rw [if_pos here, if_pos ⟨named, here⟩, ← here]
        rfl
      · rw [if_neg here, if_neg fun both => here both.2]
  | filter names =>
    rw [Edit.apply, filter, Edit.onValues]
    by_cases all : "*" ∈ names
    · rw [if_pos (List.contains_iff_mem.mpr all), if_pos (.inl all)]
    · rw [if_neg (mt List.contains_iff_mem.mp all), Multimap.getAll_filter]
      simp [all]
  | withoutTransport =>
    rw [Edit.apply, withoutTransport, Multimap.getAll_filter, Edit.onValues]
    by_cases dropped : field ∈ ofTransport <;> simp [dropped]
  | aggregate other =>
    rw [Edit.apply, Edit.onValues]
    by_cases own : IsOfContent field
    · rw [if_pos own, getAll_aggregate_ofContent own]
    · rw [if_neg own, getAll_aggregate_new own]

/-- After any edits a field has what they make of its values, one after another. -/
theorem getAll_edited (header : Header) (edits : List Edit) (field : String) :
    (header.edited edits).fields.getAll field = edits.foldl (Edit.onValues field) (header.fields.getAll field) := by
  induction edits generalizing header with
  | nil => rfl
  | cons edit edits ih =>
    rw [edited, List.foldl_cons, List.foldl_cons, ← getAll_apply]
    exact ih (edit.apply header)

/-! ### Spelling -/

/-- Every field is in the spelling that its own name leads to. -/
def IsSpelled (header : Header) : Prop :=
  ∀ entry ∈ header.fields.entries, IsAscii entry.1 ∧ headerName entry.1 = entry.1

theorem isSpelled_iff :
    header.IsSpelled ↔ ∀ field, header.fields.getAll field ≠ [] → IsAscii field ∧ headerName field = field := by
  constructor
  · intro spelled field filled
    obtain ⟨first, rest, listed⟩ := List.exists_cons_of_ne_nil filled
    exact spelled (field, ⟨first, rest⟩) (Multimap.mem_entries_iff.mpr listed)
  · intro spelled entry member
    apply spelled
    rw [Multimap.mem_entries_iff.mp member]
    exact Multimap.toList_ne_nil entry.2

/-- The names that an edit brings in are ASCII. -/
def Edit.IsAscii : Edit → Prop
  | .modify _ key _ => Junction.IsAscii key
  | .aggregate other => other.IsSpelled
  | .filter _ | .withoutTransport => True

theorem isSpelled_ofPairs {pairs : List (String × String)} (ascii : ∀ pair ∈ pairs, IsAscii pair.1) :
    (ofPairs pairs).IsSpelled := by
  rw [isSpelled_iff]
  intro field filled
  obtain ⟨value, member⟩ := List.exists_mem_of_ne_nil _ filled
  rw [ofPairs, Multimap.getAll_ofPairs, Multimap.mem_valuesOf] at member
  obtain ⟨pair, listed, same⟩ := List.mem_map.mp member
  cases same
  exact ⟨isAscii_headerName (ascii pair listed), headerName_headerName (ascii pair listed)⟩

theorem isSpelled_apply (spelled : header.IsSpelled) (ascii : edit.IsAscii) : (edit.apply header).IsSpelled := by
  rw [isSpelled_iff] at spelled ⊢
  intro field filled
  rw [getAll_apply] at filled
  cases edit with
  | modify action key value =>
    rw [Edit.onValues] at filled
    split at filled
    · rename_i here
      rw [← here.2]
      exact ⟨isAscii_headerName ascii, headerName_headerName ascii⟩
    · exact spelled field filled
  | filter names =>
    rw [Edit.onValues] at filled
    split at filled
    · exact spelled field filled
    · cases filled rfl
  | withoutTransport =>
    rw [Edit.onValues] at filled
    split at filled
    · cases filled rfl
    · exact spelled field filled
  | aggregate other =>
    rw [Edit.onValues] at filled
    split at filled
    · exact spelled field filled
    · by_cases there : header.fields.getAll field = []
      · apply isSpelled_iff.mp ascii
        intro none
        simp [there, none, List.removeAll] at filled
      · exact spelled field there

theorem isSpelled_edited (spelled : header.IsSpelled) (ascii : ∀ edit ∈ edits, edit.IsAscii) :
    (header.edited edits).IsSpelled := by
  induction edits generalizing header with
  | nil => exact spelled
  | cons edit edits ih =>
    obtain ⟨first, later⟩ := List.forall_mem_cons.mp ascii
    exact ih (isSpelled_apply spelled first) later

end Header

/-! ## Queries -/

namespace Query

/-- A way to change a query. -/
inductive Edit where
  | modify (action : Action) (key value : String)
  | filter (names : List String)

/-- The query after an edit. -/
def Edit.apply (query : Query) : Edit → Query
  | .modify action key value => query.modify action key value
  | .filter names => query.filter names

/-- The query after edits, one after another. -/
def edited (query : Query) (edits : List Edit) : Query := edits.foldl Edit.apply query

/-- What an edit makes of the values of a name. -/
def Edit.onValues (name : String) (values : List String) : Edit → List String
  | .modify action key value => if key ≠ "" ∧ key = name then action.onValues value values else values
  | .filter names => if "*" ∈ names ∨ name ∈ names then values else []

/-- An action with a key changes that name, and no other. -/
theorem getAll_modify {key : String} (named : key ≠ "") (query : Query) (action : Action) (value name : String) :
    (query.modify action key value).getAll name =
      if key = name then action.onValues value (query.getAll key) else query.getAll name := by
  have filled : ¬ key.isEmpty = true := by rwa [String.isEmpty_iff]
  rw [getAll, values_modify, if_neg filled, Multimap.getAll_modify]
  rfl

theorem getAll_apply (query : Query) (edit : Edit) (name : String) :
    (edit.apply query).getAll name = edit.onValues name (query.getAll name) := by
  cases edit with
  | modify action key value =>
    by_cases named : key = ""
    · subst named
      simp [Edit.apply, Edit.onValues, getAll, values_modify]
    · rw [Edit.apply, getAll_modify named, Edit.onValues]
      by_cases here : key = name
      · rw [if_pos here, if_pos ⟨named, here⟩, ← here]
      · rw [if_neg here, if_neg fun both => here both.2]
  | filter names =>
    rw [Edit.apply, filter, Edit.onValues]
    by_cases all : "*" ∈ names
    · rw [if_pos (List.contains_iff_mem.mpr all), if_pos (.inl all)]
    · rw [if_neg (mt List.contains_iff_mem.mp all), getAll, Multimap.getAll_filter]
      simp [all, getAll]

/-- After any edits a name has what they make of its values, one after another. -/
theorem getAll_edited (query : Query) (edits : List Edit) (name : String) :
    (query.edited edits).getAll name = edits.foldl (Edit.onValues name) (query.getAll name) := by
  induction edits generalizing query with
  | nil => rfl
  | cons edit edits ih =>
    rw [edited, List.foldl_cons, List.foldl_cons, ← getAll_apply]
    exact ih (edit.apply query)

end Query

/-! ## Both -/

/-- A header is a map from spelled names to values: what it has under a name is told by `values`, whichever way and in
whatever spelling it is looked up, and an action with a key changes the values of the field that the key names. -/
structure Header.Refines (header : Header) (values : String → List String) : Prop where
  sound : header.fields.Sound
  values : ∀ field, header.fields.getAll field = values field
  lookup : ∀ one other, IsAscii one → IsAscii other → SameName one other →
    header.getAll one = header.getAll other ∧ header.get? one = header.get? other ∧
      header.contains one = header.contains other
  modify : ∀ action key value field, key ≠ "" → (header.modify action key value).fields.getAll field =
    if headerName key = field then action.onValues value (header.getAll key) else header.fields.getAll field

/-- A query is a map from names to values, whose case counts. -/
structure Query.Refines (query : Query) (values : String → List String) : Prop where
  sound : query.values.Sound
  values : ∀ name, query.getAll name = values name
  modify : ∀ action key value name, key ≠ "" → (query.modify action key value).getAll name =
    if key = name then action.onValues value (query.getAll key) else query.getAll name

theorem Header.refines_edited (header : Header) (edits : List Edit) :
    (header.edited edits).Refines fun field => edits.foldl (Edit.onValues field) (header.fields.getAll field) := by
  refine ⟨Multimap.sound _, getAll_edited header edits, ?_, ?_⟩
  · intro one other ascii ascii' same
    have spelled := (headerName_eq_iff ascii ascii').mpr same
    simp only [getAll, get?, contains, spelled, and_self]
  · intro action key value field named
    exact getAll_modify named _ action value field

theorem Query.refines_edited (query : Query) (edits : List Edit) :
    (query.edited edits).Refines fun name => edits.foldl (Edit.onValues name) (query.getAll name) := by
  refine ⟨Multimap.sound _, getAll_edited query edits, ?_⟩
  intro action key value name named
  exact getAll_modify named _ action value name

/-- Headers and queries after any edits are maps from names to values. ASCII names are spelled alike if and only if they
are the same but for case and space around them, and a header that is built of such names has its fields in that spelling. -/
theorem edits_refine {pairs : List (String × String)} (ascii : ∀ pair ∈ pairs, IsAscii pair.1) (edits : List Header.Edit)
    (query : Query) (changes : List Query.Edit) :
    (∀ name, IsAscii name → headerName (headerName name) = headerName name ∧
        ∀ other, IsAscii other → (headerName name = headerName other ↔ SameName name other)) ∧
      ((Header.ofPairs pairs).edited edits).Refines (fun field => edits.foldl (Header.Edit.onValues field)
        (Multimap.valuesOf field (pairs.map fun (name, value) => (headerName name, value)))) ∧
      ((∀ edit ∈ edits, edit.IsAscii) → ((Header.ofPairs pairs).edited edits).IsSpelled) ∧
      (query.edited changes).Refines (fun name => changes.foldl (Query.Edit.onValues name) (query.getAll name)) := by
  refine ⟨?_, ?_, ?_, query.refines_edited changes⟩
  · intro name plain
    exact ⟨headerName_headerName plain, fun other plain' => headerName_eq_iff plain plain'⟩
  · have built := (Header.ofPairs pairs).refines_edited edits
    simpa only [Header.ofPairs, Multimap.getAll_ofPairs] using built
  · exact Header.isSpelled_edited (Header.isSpelled_ofPairs ascii)

/-- The edits of a header that has one field in two spellings: a value in place of both, and one for a field that is not
there. -/
def tracing : List Header.Edit := [.modify .replace " x-Trace" "3", .modify .append "x-span" "4"]

theorem edits_refine_trace :
    ((Header.ofPairs [("x-trace", "1"), ("X-TRACE ", "2")]).edited tracing).getAll "x-trace" = ["3"] ∧
      ((Header.ofPairs [("x-trace", "1"), ("X-TRACE ", "2")]).edited tracing).IsSpelled := by
  have ascii : ∀ pair ∈ [("x-trace", "1"), ("X-TRACE ", "2")], IsAscii pair.1 := by decide
  have asciiEdits : ∀ edit ∈ tracing, edit.IsAscii :=
    List.forall_mem_cons.mpr ⟨(by decide : IsAscii " x-Trace"),
      List.forall_mem_singleton.mpr (by decide : IsAscii "x-span")⟩
  obtain ⟨_, refines, spelled, _⟩ := edits_refine ascii tracing ∅ []
  refine ⟨?_, spelled asciiEdits⟩
  rw [Header.getAll, refines.values]
  decide +kernel

end Junction
