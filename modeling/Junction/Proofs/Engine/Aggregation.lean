import Junction.Engine.Aggregate
import Junction.Proofs.Json.Leaves
import Junction.Proofs.Json.Written
import Junction.Proofs.Message.Body

/-!
What an aggregate holds of the bodies in it. Groups and fields are joined without loss; a body that is no object takes the
name of its position, whatever stands there. So an aggregate and what is overwritten on the way hold the scalars of all
bodies (`leaves_fieldsFrom`), and nothing is lost if and only if nothing but nulls is overwritten (`leaves_object_iff`).
-/

namespace Junction.Aggregate

variable {name group : String} {value : Json} {fields : List (String × Json)} {position : Nat} {entry : Entry}
  {entries earlier later : List Entry}

/-! ## One body -/

theorem leaves_addField (position : Nat) (fields : List (String × Json)) (field : String × Json) :
    ((Json.object (addField position fields field)).leaves : Multiset Json) =
      (Json.object fields).leaves + field.2.leaves :=
  Json.leaves_addField fields _

theorem leaves_addToGroup (group : String) (fields : List (String × Json)) (value : Json) :
    ((Json.object (addToGroup group fields value)).leaves : Multiset Json) = (Json.object fields).leaves + value.leaves := by
  rw [addToGroup]
  cases found : Keyed.get? group fields with
  | none => exact Json.leaves_put_new found value
  | some present => exact Json.leaves_put_joined found (Json.leaves_merge present value)

/-- The value that gives way to an entry: a body that is no object and has no group takes the name of its position. -/
def overwritten? (fields : List (String × Json)) (position : Nat) (entry : Entry) : Option Json :=
  match entry.body, entry.group? with
  | some body, none => if body.value.isObject then none else Keyed.get? ("response" ++ toString position) fields
  | _, _ => none

theorem leaves_addEntry (fields : List (String × Json)) (position : Nat) (entry : Entry) :
    ((Json.object (addEntry fields position entry)).leaves : Multiset Json) +
      ((overwritten? fields position entry).getD .null).leaves =
      (Json.object fields).leaves + (bodyView entry.body).leaves := by
  rw [addEntry, overwritten?]
  cases entry.body with
  | none => rfl
  | some body =>
    cases entry.group? with
    | some group => exact (add_zero _).trans (leaves_addToGroup group fields body.value)
    | none =>
      simp only [bodyView, Option.map_some, Option.getD_some]
      cases body.value with
      | object more => exact (add_zero _).trans (Json.leaves_foldl (leaves_addField position) fields more)
      | null | bool | number | text | array => exact Json.leaves_put _ _ fields

/-! ## All bodies -/

/-- The scalars that give way to entries from a position on. -/
def lostFrom : (position : Nat) → (fields : List (String × Json)) → List Entry → Multiset Json
  | _, _, [] => 0
  | position, fields, entry :: rest =>
    ((overwritten? fields position entry).getD .null).leaves + lostFrom (position + 1) (addEntry fields position entry) rest

theorem leaves_fieldsFrom (position : Nat) (fields : List (String × Json)) (entries : List Entry) :
    ((Json.object (fieldsFrom position fields entries)).leaves : Multiset Json) + lostFrom position fields entries =
      (Json.object fields).leaves + (entries.map fun entry => ((bodyView entry.body).leaves : Multiset Json)).sum := by
  induction entries generalizing position fields with
  | nil => rfl
  | cons entry rest ih =>
    have step := leaves_addEntry fields position entry
    have later := ih (position + 1) (addEntry fields position entry)
    rw [fieldsFrom, lostFrom, List.map_cons, List.sum_cons, ← add_assoc, add_right_comm, later, add_right_comm, step,
      add_assoc]

theorem lostFrom_eq_zero_iff (position : Nat) (fields : List (String × Json)) (entries : List Entry) :
    lostFrom position fields entries = 0 ↔ ∀ earlier entry later kept, entries = earlier ++ entry :: later →
      overwritten? (fieldsFrom position fields earlier) (position + earlier.length) entry = some kept →
        kept.leaves = [] := by
  induction entries generalizing position fields with
  | nil =>
    refine ⟨?_, fun _ => rfl⟩
    rintro _ (_ | _) _ _ _ ⟨⟩
  | cons first rest ih =>
    rw [lostFrom, add_eq_zero_iff_of_nonneg (Multiset.zero_le _) (Multiset.zero_le _), ih, Multiset.coe_eq_zero]
    constructor
    · rintro ⟨here, below⟩ (_ | ⟨next, earlier⟩) entry later kept same gives
      · cases same
        rw [fieldsFrom, List.length_nil, Nat.add_zero] at gives
        rw [gives] at here
        exact here
      · cases same
        rw [List.length_cons, Nat.add_comm earlier.length, ← Nat.add_assoc] at gives
        exact below earlier entry later kept rfl gives
    · intro all
      constructor
      · cases gives : overwritten? fields position first with
        | none => rfl
        | some kept => exact all [] first rest kept rfl gives
      · rintro earlier entry later kept rfl gives
        refine all (first :: earlier) entry later kept rfl ?_
        rwa [List.length_cons, Nat.add_comm earlier.length, ← Nat.add_assoc]

/-- An entry that comes after others takes the place of a value of theirs: its body is no object and has no group, and the
document of the others has the value under the name of the position. -/
def Overwrites (earlier : List Entry) (entry : Entry) (kept : Json) : Prop :=
  entry.group? = none ∧ (∃ body, entry.body = some body ∧ body.value.isObject = false) ∧
    (object earlier).child? (.key ("response" ++ toString earlier.length)) = some kept

theorem overwrites_iff (earlier : List Entry) (entry : Entry) (kept : Json) :
    Overwrites earlier entry kept ↔ overwritten? (fieldsFrom 0 [] earlier) (0 + earlier.length) entry = some kept := by
  rw [Overwrites, overwritten?, Nat.zero_add]
  cases entry.body with
  | none => simp
  | some body => cases entry.group? <;> cases other : body.value.isObject <;> simp [object, Json.child?, Json.Segment.name, other]

/-- The scalars in the document of several entries are among those of their bodies, none more often. They are all of them
if and only if no body that is no object comes where the document of the entries before it has something else than nulls
under the name of the position. -/
theorem leaves_object_iff (entries : List Entry) :
    ((object entries).leaves : Multiset Json) ≤
        (entries.map fun entry => ((bodyView entry.body).leaves : Multiset Json)).sum ∧
      (((object entries).leaves : Multiset Json) =
          (entries.map fun entry => ((bodyView entry.body).leaves : Multiset Json)).sum ↔
        ∀ earlier entry later kept, entries = earlier ++ entry :: later → Overwrites earlier entry kept →
          kept.leaves = []) := by
  have whole := leaves_fieldsFrom 0 [] entries
  have empty : ((Json.object []).leaves : Multiset Json) = 0 := rfl
  rw [empty, zero_add] at whole
  simp only [overwrites_iff]
  rw [← lostFrom_eq_zero_iff, ← whole]
  exact ⟨Multiset.le_add_right _ _, left_eq_add⟩

/-- A reply whose body is the JSON text of a value. -/
def giving (value : Json) : Entry := ⟨{}, 200, ∅, some (.ofJson value), false⟩

/-- An object with a field that has the name of a later position. -/
def numbered : Json := .object [("response1", Json.ofNat 5)]

/-- A list of one item. -/
def listed : Json := .array [Json.ofNat 1]

/-- A field with the name of a later position is lost: only the list is left of both bodies. -/
theorem leaves_object_numbered : object [giving numbered, giving listed] = .object [("response1", listed)] ∧
    ((object [giving numbered, giving listed]).leaves : Multiset Json) ≠
      ([giving numbered, giving listed].map fun entry => ((bodyView entry.body).leaves : Multiset Json)).sum := by
  have first : (Body.ofJson numbered).value = numbered :=
    Body.value_ofJson (by decide +kernel) (Json.read?_render ⟨⟨by decide, by decide⟩, trivial⟩ rfl)
  have second : (Body.ofJson listed).value = listed :=
    Body.value_ofJson (by decide +kernel) (Json.read?_render ⟨⟨by decide, by decide⟩, trivial⟩ rfl)
  have whole : object [giving numbered, giving listed] =
      .object (addValue 1 (addValue 0 [] (Body.ofJson numbered).value) (Body.ofJson listed).value) := rfl
  rw [first, second] at whole
  refine ⟨whole, ?_⟩
  intro same
  have size := congrArg Multiset.card same
  have views : bodyView (giving numbered).body = numbered ∧ bodyView (giving listed).body = listed := ⟨first, second⟩
  rw [whole, List.map_cons, List.map_cons, views.1, views.2] at size
  exact absurd size (by decide)

end Junction.Aggregate
