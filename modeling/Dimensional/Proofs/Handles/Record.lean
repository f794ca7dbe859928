import Dimensional.Proofs.Handles.Request

/-!
The record of the last failure.  It is empty exactly after a call that succeeded, tells the cause of
that very call otherwise, and stays as it is while it is looked at.
-/

namespace Dimensional

theorem Operation.name_ne_empty (op : Operation) : op.name ≠ "" := by
  cases op <;> decide

theorem append_ne_empty {text : String} (h : text ≠ "") (rest : String) : text ++ rest ≠ "" :=
  fun empty => h (String.append_eq_empty_iff.mp empty).1

theorem Failure.message_ne_empty (f : Failure) : f.message ≠ "" := by
  cases f with
  | invalidUnitSyntax | unknownUnitSymbol | dimensionMismatch =>
      iterate 3 refine append_ne_empty ?_ _
      decide
  | requiresUnitless op | requiresAngleOrUnitless op | domain op =>
      iterate 2 refine append_ne_empty ?_ _
      exact op.name_ne_empty
  | nonIntegralDimension op =>
      iterate 5 refine append_ne_empty ?_ _
      exact op.name_ne_empty
  | exponentOverflow op =>
      iterate 3 refine append_ne_empty ?_ _
      exact op.name_ne_empty

namespace Handles

theorem Cause.message_ne_empty (cause : Cause) : cause.message ≠ "" := by
  cases cause with
  | null | notUtf8 =>
      iterate 2 refine append_ne_empty ?_ _
      decide
  | refused f => exact f.message_ne_empty

theorem succeeded_lengthReply (text : String) (buffer : Option Bytes) :
    (lengthReply text buffer).Succeeded := by
  have reported : 0 ≤ reportedLength (textBytes text) := by
    rw [reportedLength]
    omega
  exact reported

namespace Session

variable {session : Session} {call : Call} {cause : Cause}

theorem run_of_failsBy (diagnosing : call.isLook = false)
    (h : call.FailsBy session.store cause) :
    session.run call = (call.failure cause, session.keep none (some cause)) := by
  cases h with
  | argument fault =>
      cases session.course diagnosing with
      | fault found run =>
          cases fault.symm.trans found
          exact run
      | asks asks => cases fault.symm.trans (Call.argumentFault?_of_asks asks)
      | @text i q buffer live shape =>
          subst shape
          cases fault.symm.trans (Call.argumentFault?_text live buffer)
  | refused asks => exact run_of_asks_error asks
  | out asks noOut =>
      rw [run_of_asks asks, noOut]
      rfl

theorem failsBy_or_succeeded (session : Session) (diagnosing : call.isLook = false) :
    (∃ cause, call.FailsBy session.store cause) ∨
      (session.run call).1.Succeeded ∧ (session.run call).2.record = none := by
  cases session.course diagnosing with
  | fault found run => exact .inl ⟨_, .argument found⟩
  | @asks outcome asks =>
      cases outcome with
      | error f => exact .inl ⟨_, .refused asks⟩
      | ok output =>
          cases out : call.hasOut with
          | false => exact .inl ⟨_, .out asks out⟩
          | true =>
              rw [run_of_asks_ok asks out]
              exact .inr ⟨call.succeeded_success output, rfl⟩
  | @text i q buffer live shape =>
      subst shape
      rw [run_text live]
      exact .inr ⟨succeeded_lengthReply q.text buffer, rfl⟩

theorem record_run_eq_none_iff (diagnosing : call.isLook = false) :
    (session.run call).2.record = none ↔ (session.run call).1.Succeeded := by
  obtain ⟨cause, fails⟩ | ⟨succeeded, clear⟩ := session.failsBy_or_succeeded diagnosing
  · rw [run_of_failsBy diagnosing fails]
    exact iff_of_false nofun (call.not_succeeded_failure cause)
  · exact iff_of_true clear succeeded

theorem record_run_eq_some_iff (diagnosing : call.isLook = false) :
    (session.run call).2.record = some cause ↔ call.FailsBy session.store cause := by
  constructor
  · intro recorded
    obtain ⟨found, fails⟩ | ⟨-, clear⟩ := session.failsBy_or_succeeded diagnosing
    · rw [run_of_failsBy diagnosing fails] at recorded
      cases recorded
      exact fails
    · cases clear.symm.trans recorded
  · intro fails
    rw [run_of_failsBy diagnosing fails]
    rfl

theorem record_runs_of_isLook (session : Session) {looks : List Call}
    (looking : ∀ look ∈ looks, look.isLook = true) :
    (session.runs looks).record = session.record := by
  induction looks generalizing session with
  | nil => rfl
  | cons look looks ih =>
      rw [runs_cons, ih _ fun c mem => looking c (List.mem_cons_of_mem _ mem)]
      exact record_run_of_isLook (looking look List.mem_cons_self)

/-- What the record of a session tells of a call that was made in another one. -/
structure Tells (last : Session) (call : Call) (session : Session) : Prop where
  empty_iff : last.record = none ↔ (session.run call).1.Succeeded
  cause_iff : ∀ cause, last.record = some cause ↔ call.FailsBy session.store cause
  reply : ∀ cause, call.FailsBy session.store cause →
    (session.run call).1 = call.failure cause ∧ cause.code < 0
  code : (last.run .errorCode).1 = .number (last.record.elim okCode Cause.code)
  message : ∀ buffer,
    (last.run (.errorMessage buffer)).1 = lengthReply (last.record.elim "" Cause.message) buffer
  message_ne_empty : ∀ cause, last.record = some cause → cause.message ≠ ""

theorem tells_run (session : Session) (diagnosing : call.isLook = false) {last : Session}
    (kept : last.record = (session.run call).2.record) : last.Tells call session where
  empty_iff := kept ▸ record_run_eq_none_iff diagnosing
  cause_iff _ := kept ▸ record_run_eq_some_iff diagnosing
  reply cause fails := ⟨congrArg Prod.fst (run_of_failsBy diagnosing fails), cause.code_neg⟩
  code := by
    simp only [run, Call.effect, apply, errorCode]
    cases last.record <;> rfl
  message buffer := by
    simp only [run, Call.effect, apply, errorMessage]
    cases last.record <;> rfl
  message_ne_empty cause _ := cause.message_ne_empty

theorem record_coherent (before : List Call) (call : Call) (looks : List Call)
    (diagnosing : call.isLook = false) (looking : ∀ look ∈ looks, look.isLook = true) :
    (after (before ++ call :: looks)).Tells call (after before) ∧
      ∀ session : Session, (session.runs looks).record = session.record := by
  have kept : (after (before ++ call :: looks)).record = ((after before).run call).2.record := by
    rw [after, runs_append, runs_cons]
    exact record_runs_of_isLook _ looking
  exact ⟨tells_run _ diagnosing kept, fun session => record_runs_of_isLook session looking⟩

theorem record_coherent_missingHandle :
    let calls := [.unitless 2, .value none true, .errorMessage (some [1, 2, 3]), .free (some 0)]
    (after calls).record = some (.null .v) ∧ ((after calls).run .errorCode).1 = .number (-8) := by
  have tells := (record_coherent [.unitless 2] (.value none true)
    [.errorMessage (some [1, 2, 3]), .free (some 0)] rfl (by decide)).1
  have recorded := (tells.cause_iff (.null .v)).mpr (.argument rfl)
  have code := tells.code
  rw [recorded] at code
  exact ⟨recorded, code⟩

end Session

end Handles

end Dimensional
