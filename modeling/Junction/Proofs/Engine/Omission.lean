import Junction.Proofs.Engine.Literal
import Mathlib.Data.List.Forall2

/-!
Entries that are left out of the final response when there are others. Only their number counts: header and body
of the final response are made of the entries that are kept, in the shapes that these have by themselves.
-/

namespace Junction

/-- Entries of one backend with one status that are the same, unless they are left out. -/
structure Entry.SameIfKept (one other : Entry) : Prop where
  backend : one.backend = other.backend
  status : one.status = other.status
  shaped : one.shaped = other.shaped
  kept : one.omitted = false → one = other

/-- The same context at another time. -/
def Context.atTime (context : Context) (time : String) : Context :=
  { context with stamp := { context.stamp with time := time } }

/-- Responses that show the same, but for the stamp in the body of one failure at an endpoint. -/
structure Response.SameButStamp (stamp stamp' : Failure.Stamp) (endpoint : String) (one other : Response) : Prop where
  status : one.status = other.status
  header : one.header = other.header
  body : one.body = other.body ∨ ∃ failure : Failure,
    one.body = some (failure.body stamp endpoint) ∧ other.body = some (failure.body stamp' endpoint)

theorem Entry.omitted_formed (entry : Entry) : entry.formed.omitted = entry.omitted := by
  rw [omitted, (formed_sameReply entry).1, omitted]

namespace Response

variable {history history' : List Entry}

theorem kept_formed (same : List.Forall₂ Entry.SameIfKept history history') :
    (history.map Entry.formed).filter (fun entry => !entry.omitted) =
      (history'.map Entry.formed).filter (fun entry => !entry.omitted) := by
  induction same with
  | nil => rfl
  | @cons one other rest rest' here later ih =>
    have marks : other.omitted = one.omitted := by rw [Entry.omitted, ← here.backend, Entry.omitted]
    simp only [List.map_cons, List.filter_cons, Entry.omitted_formed, marks, ih]
    cases omitted : one.omitted with
    | true => rfl
    | false => rw [here.kept omitted]

/-- What is kept of several entries does not depend on those that are left out. -/
theorem retained_formed (several : 1 < history.length) (same : List.Forall₂ Entry.SameIfKept history history') :
    retained (history.map Entry.formed) = retained (history'.map Entry.formed) := by
  have several' : 1 < history'.length := same.length_eq ▸ several
  simp only [retained, List.length_map, gt_iff_lt, several, several', if_true, kept_formed same]

theorem literal_of_sameIfKept (same : List.Forall₂ Entry.SameIfKept history history')
    (literal : ∀ entry ∈ history, entry.backend.modifiers.Literal) :
    ∀ entry ∈ history', entry.backend.modifiers.Literal := by
  induction same with
  | nil => exact literal
  | @cons one other rest rest' here later ih =>
    intro entry member
    rcases List.mem_cons.mp member with rfl | listed
    · exact here.backend ▸ literal one List.mem_cons_self
    · exact ih (fun found inRest => literal found (List.mem_cons_of_mem _ inRest)) entry listed

/-- Next to others, an entry that is left out shows nothing but that it is there: whatever its header and its body
are, the final response is the same, but for the time that it tells if it is an error. -/
theorem write_sameButOmitted (response : Response) (context : Context) (endpoint : Config.Endpoint) (request : Request)
    (time : String) (goesOn : context.policy = .failOpen) (going : response.isTerminal = false)
    (several : 1 < response.history.length)
    (literal : ∀ entry ∈ response.history, entry.backend.modifiers.Literal)
    (same : List.Forall₂ Entry.SameIfKept response.history history') :
    (response.write context endpoint request).SameButStamp context.stamp (context.atTime time).stamp endpoint.path
      (({ response with history := history' } : Response).write (context.atTime time) endpoint request) := by
  have literal' := literal_of_sameIfKept same literal
  have assembled : assemble .failOpen endpoint (response.history.map Entry.formed) =
      assemble .failOpen endpoint (history'.map Entry.formed) := by
    apply assemble_retained
    · rw [List.length_map, List.length_map, same.length_eq]
    · exact retained_formed several same
  have going' : ({ response with history := history' } : Response).isTerminal = false := going
  have goesOn' : (context.atTime time).policy = .failOpen := goesOn
  have shown := shown_write literal going goesOn endpoint request
  have shown' := shown_write literal' going' goesOn' endpoint request
  rw [assembled] at shown
  cases made : assemble .failOpen endpoint (history'.map Entry.formed) with
  | ok final =>
    rw [made] at shown shown'
    have agree := shown.trans shown'.symm
    simp only [Response.shown, Prod.mk.injEq] at agree
    exact ⟨agree.1, agree.2.1, .inl agree.2.2⟩
  | error failure =>
    rw [made] at shown shown'
    simp only [Response.shown, Prod.mk.injEq] at shown shown'
    obtain ⟨status, header, body⟩ := shown
    obtain ⟨status', header', body'⟩ := shown'
    exact ⟨status.trans status'.symm, header.trans header'.symm, .inr ⟨failure, body, body'⟩⟩

/-- A response of two entries, the first of which is left out. -/
def withHidden (body : Option Body) : Response :=
  { history := [⟨{ name := "auth", response := { omitted := true } }, 200, ∅, body, true⟩,
      ⟨{ name := "items" }, 200, ∅, some (.ofText "items"), true⟩] }

/-- A context in which changes that fail are passed over. -/
def lenientContext : Context := ⟨"", .failOpen, ⟨"", 0, "now"⟩⟩

theorem write_sameButOmitted_hidden :
    List.Forall₂ Entry.SameIfKept (withHidden (some (.ofText "ana"))).history (withHidden none).history ∧
      ((withHidden (some (.ofText "ana"))).write lenientContext {} {}).SameButStamp lenientContext.stamp
        (lenientContext.atTime "later").stamp "/" ((withHidden none).write (lenientContext.atTime "later") {} {}) := by
  have same : List.Forall₂ Entry.SameIfKept (withHidden (some (.ofText "ana"))).history (withHidden none).history := by
    refine .cons ⟨rfl, rfl, rfl, ?_⟩ (.cons ⟨rfl, rfl, rfl, fun _ => rfl⟩ .nil)
    intro kept
    cases kept
  have several : 1 < (withHidden (some (.ofText "ana"))).history.length := by decide
  have literal : ∀ entry ∈ (withHidden (some (.ofText "ana"))).history, entry.backend.modifiers.Literal := by
    decide +kernel
  exact ⟨same, write_sameButOmitted (withHidden (some (.ofText "ana"))) lenientContext {} {} "later" rfl rfl several
    literal same⟩

end Response
end Junction
