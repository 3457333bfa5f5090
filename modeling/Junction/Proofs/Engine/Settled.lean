import Junction.Proofs.Engine.FinalHeader
import Junction.Proofs.Engine.Literal

/-!
What writing leaves of a run: the final response is over (`isTerminal_write`), and the entries of the run are still there,
each in its place (`history_write_keeps`). The ways in which a response that is going on ends are told apart in
`write_cases`.
-/

namespace Junction

namespace Entry

/-- What writing keeps of an entry. -/
structure Keeps (entry later : Entry) : Prop where
  backend : later.backend = entry.backend
  status : later.status = entry.status
  group : later.group? = entry.group?
  omitted : later.omitted = entry.omitted
  once : entry.shaped = true → later = entry

variable {policy : Change.Policy} {request : Request} {seen : Response} {entry changed : Entry}

theorem Keeps.refl (entry : Entry) : Keeps entry entry := ⟨rfl, rfl, rfl, rfl, fun _ => rfl⟩

theorem shape_keeps (done : entry.shape policy request seen = .ok changed) : Keeps entry changed := by
  obtain ⟨backend, status⟩ := shape_sameReply done
  refine ⟨backend, status, ?_, ?_, ?_⟩
  · rw [group?, group?, backend]
  · rw [omitted, omitted, backend]
  · intro shaped
    rw [shape, if_pos shaped] at done
    cases done
    rfl

end Entry

namespace Response

variable {context : Context} {endpoint : Config.Endpoint} {request : Request} {response : Response}

/-- A response that is going on is written in one of three ways: it fails as it is, it fails with its entries in their
shapes, or it is finished with them. -/
theorem write_cases (going : response.isTerminal = false) (context : Context) (endpoint : Config.Endpoint)
    (request : Request) :
    (∃ failure, response.write context endpoint request = response.fail context.stamp endpoint.path failure) ∨
      ∃ entries, List.Forall₂ (fun entry shaped => entry.shape context.policy request response = .ok shaped)
          response.history entries ∧
        ((∃ failure, response.write context endpoint request =
            { response with history := entries }.fail context.stamp endpoint.path failure) ∨
          ∃ status header body, response.write context endpoint request =
            { response with history := entries }.finish status header body) := by
  cases shaping : response.shapeEntries context.policy request with
  | error failure =>
    left
    exact ⟨failure, by simp only [write, going, shaping, Bool.false_eq_true, if_false]⟩
  | ok shaped =>
    right
    obtain ⟨shapes, same⟩ := shapeEntries_eq_ok going shaping
    refine ⟨shaped.history, shapes, ?_⟩
    rw [← same]
    cases assembled : assemble context.policy endpoint shaped.history with
    | error failure =>
      left
      exact ⟨failure, by simp only [write, going, shaping, assembled, Bool.false_eq_true, if_false]⟩
    | ok made =>
      right
      exact ⟨made.1, made.2.1, made.2.2, by simp only [write, going, shaping, assembled, Bool.false_eq_true, if_false]⟩

theorem isTerminal_finish (status : Nat) (header : Header) (body : Option Body) :
    (response.finish status header body).isTerminal = true := by
  by_cases written : response.written = true
  · simp [finish, written, isTerminal]
  · simp [finish, written, isTerminal]

theorem isTerminal_write (context : Context) (endpoint : Config.Endpoint) (request : Request) (response : Response) :
    (response.write context endpoint request).isTerminal = true := by
  cases going : response.isTerminal with
  | true =>
    rw [write_terminal going]
    exact going
  | false =>
    obtain ⟨failure, failed⟩ | ⟨entries, _, ⟨failure, failed⟩ | ⟨status, header, body, finished⟩⟩ :=
      write_cases going context endpoint request
    · rw [failed]
      exact isTerminal_fail ..
    · rw [failed]
      exact isTerminal_fail ..
    · rw [finished]
      exact isTerminal_finish ..

/-- The entries of a response that is going on are kept, whether it is finished or fails. -/
theorem history_write_keeps (going : response.isTerminal = false) (context : Context) (endpoint : Config.Endpoint)
    (request : Request) :
    List.Forall₂ Entry.Keeps response.history (response.write context endpoint request).history := by
  obtain ⟨failure, failed⟩ | ⟨entries, shapes, ended⟩ := write_cases going context endpoint request
  · rw [failed, history_fail]
    exact List.forall₂_same.mpr fun entry _ => Entry.Keeps.refl entry
  · have kept : List.Forall₂ Entry.Keeps response.history entries := shapes.imp fun _ _ done => Entry.shape_keeps done
    obtain ⟨failure, failed⟩ | ⟨status, header, body, finished⟩ := ended
    · rw [failed, history_fail]
      exact kept
    · rw [finished, history_finish]
      exact kept

/-- A final response has come to its end and stays what it is. Of a response that was going on it has every entry, and
when it is written, with no failure, all of them are in their shapes. -/
theorem write_settles (context : Context) (endpoint : Config.Endpoint) (request : Request) (response : Response) :
    let final := response.write context endpoint request
    final.isTerminal = true ∧
      (∀ context' endpoint' request', final.write context' endpoint' request' = final) ∧
      (response.isTerminal = true → final = response) ∧
      (response.isTerminal = false →
        List.Forall₂ Entry.Keeps response.history final.history ∧
          (final.written = true → ∀ entry ∈ final.history, entry.shaped = true)) := by
  intro final
  have ended : final.isTerminal = true := isTerminal_write context endpoint request response
  refine ⟨ended, ?_, ?_, ?_⟩
  · intro context' endpoint' request'
    exact write_terminal ended context' endpoint' request'
  · intro terminal
    exact write_terminal terminal context endpoint request
  · intro going
    refine ⟨history_write_keeps going context endpoint request, ?_⟩
    intro written entry member
    obtain ⟨entries, made, shapes, _, same⟩ := write_of_written going written
    rw [show final.history = entries from congrArg Response.history same] at member
    have told := shapes.flip.imp fun _ _ done => And.intro (Entry.shaped_of_shape done) done
    exact ((List.forall₂_and_left _ _).mp told).1 entry member

end Response
end Junction
