import Mathlib.Data.List.Induction
import Dimensional.Proofs.Handles.Bytes
import Dimensional.Proofs.Handles.Request
import Dimensional.Proofs.Quantity.Range

/-!
Sessions refine the engine.  After any calls, a handle denotes what the engine made of the
quantities that the handles of its call denoted then, as long as it has not been freed; a call
succeeds when the engine does; and the exponents of every live handle are in range, so that its unit
can be read back.
-/

namespace Dimensional.Handles

section Store

variable {store : Store} {i : Nat} {q : Quantity}

theorem Store.lt_size_of_denotes (h : store.Denotes i q) : i < store.size := by
  by_contra outside
  have absent : store[i]? = none := Array.getElem?_eq_none (Nat.le_of_not_lt outside)
  simp [Denotes, find?, absent] at h

theorem Store.denotes_push {made : Option Quantity} :
    Denotes (store.push made) i q ↔ (i = store.size ∧ made = some q) ∨ store.Denotes i q := by
  by_cases last : i = store.size
  · have absent : ¬ store.Denotes store.size q := fun h =>
      absurd (Store.lt_size_of_denotes h) (Nat.lt_irrefl _)
    subst last
    simp only [absent, or_false, true_and]
    simp [Denotes, find?]
  · simp [Denotes, find?, Array.getElem?_push, last]

theorem Store.denotes_free {handle : Handle} :
    (store.free handle).Denotes i q ↔ store.Denotes i q ∧ handle ≠ some i := by
  cases handle with
  | none => simp [free]
  | some j =>
      by_cases same : j = i
      · subst same
        by_cases inside : j < store.size
        · simp [Denotes, find?, free, inside]
        · simp [Denotes, find?, free, inside]
      · simp [Denotes, find?, free, Array.getElem?_setIfInBounds, same]

theorem Store.size_free (handle : Handle) : (store.free handle).size = store.size := by
  cases handle with
  | none => rfl
  | some j => exact Array.size_setIfInBounds

end Store

def Call.freed (store : Store) : Call → Store
  | .free handle => store.free handle
  | _ => store

theorem Call.freed_of_not_look {call : Call} (store : Store) (diagnosing : call.isLook = false) :
    call.freed store = store := by
  cases call with
  | free v => cases diagnosing
  | _ => rfl

theorem Call.denotes_freed {store : Store} {call : Call} {i : Nat} {q : Quantity} :
    (call.freed store).Denotes i q ↔ store.Denotes i q ∧ call ≠ .free (some i) := by
  cases call with
  | free handle => simp [freed, Store.denotes_free]
  | _ => simp [freed]

theorem Call.size_freed (store : Store) (call : Call) : (call.freed store).size = store.size := by
  cases call with
  | free handle => exact Store.size_free handle
  | _ => rfl

namespace Session

section Step

variable {session : Session} {call : Call} {i : Nat} {q : Quantity}

theorem store_run_of_makes (makes : call.Makes session.store q) :
    (session.run call).2.store = session.store.push (some q) := by
  rw [run_of_asks makes.1, makes.2]
  rfl

/-- Each call adds one slot, and what it keeps there is what it was to make. -/
theorem exists_store_run (session : Session) (call : Call) :
    ∃ made, (session.run call).2.store = (call.freed session.store).push made ∧
      ∀ q, made = some q → call.Makes session.store q := by
  cases look : call.isLook with
  | true =>
      refine ⟨none, ?_, fun _ absent => nomatch absent⟩
      cases call with
      | free | errorCode | errorMessage | version | abiVersion => rfl
      | _ => cases look
  | false =>
      rw [Call.freed_of_not_look session.store look]
      cases session.course look with
      | fault h run =>
          rw [run]
          exact ⟨none, rfl, fun _ absent => nomatch absent⟩
      | @asks outcome h =>
          rw [run_of_asks h]
          cases outcome with
          | error f => exact ⟨none, rfl, fun _ absent => nomatch absent⟩
          | ok output =>
              cases out : call.hasOut with
              | false => exact ⟨none, rfl, fun _ absent => nomatch absent⟩
              | true =>
                  refine ⟨madeBy output, rfl, ?_⟩
                  intro q made
                  cases output with
                  | quantity r =>
                      cases made
                      exact ⟨h, out⟩
                  | number | truth | exponents => cases made
      | text buffer h shape =>
          subst shape
          rw [run_text h]
          exact ⟨none, rfl, fun _ absent => nomatch absent⟩

theorem size_store_run (session : Session) (call : Call) :
    (session.run call).2.store.size = session.store.size + 1 := by
  obtain ⟨made, stored, -⟩ := exists_store_run session call
  rw [stored, Array.size_push, Call.size_freed]

theorem denotes_run_iff :
    (session.run call).2.store.Denotes i q ↔
      (i = session.store.size ∧ call.Makes session.store q) ∨
        (session.store.Denotes i q ∧ call ≠ .free (some i)) := by
  obtain ⟨made, stored, makes⟩ := exists_store_run session call
  constructor
  · intro h
    rw [stored, Store.denotes_push, Call.size_freed, Call.denotes_freed] at h
    obtain ⟨last, found⟩ | kept := h
    · exact .inl ⟨last, makes q found⟩
    · exact .inr kept
  · rintro (⟨rfl, h⟩ | kept)
    · rw [store_run_of_makes h, Store.denotes_push]
      exact .inl ⟨rfl, rfl⟩
    · rw [stored, Store.denotes_push, Call.denotes_freed]
      exact .inr kept

theorem exists_of_map_eq_ok {α : Type} {x : Except Failure α} {wrap : α → Output}
    {output : Output} (h : x.map wrap = .ok output) : ∃ a, x = .ok a ∧ wrap a = output := by
  cases x with
  | error f => cases h
  | ok a =>
      cases h
      exact ⟨a, rfl, rfl⟩

theorem inRange_of_asks {outcome : Except Failure Output}
    (range : ∀ i q, session.store.Denotes i q → q.InRange)
    (h : call.Asks session.store.Denotes outcome) (made : outcome = .ok (.quantity q)) :
    q.InRange := by
  have mapped {x : Except Failure Quantity} (made : x.map Output.quantity = .ok (.quantity q))
      (makes : Quantity.MakesInRange x) : q.InRange := by
    obtain ⟨_, rfl, ⟨⟩⟩ := exists_of_map_eq_ok made
    exact makes q rfl
  cases h with
  | make x decoded => exact mapped made (Quantity.makesInRange_ofUnit x _)
  | unitless x =>
      cases made
      exact Quantity.inRange_unitless x
  | clone h =>
      cases made
      exact range _ _ h
  | value | isUnitless | baseUnits => cases made
  | valueIn | test => obtain ⟨_, -, ⟨⟩⟩ := exists_of_map_eq_ok made
  | add left => exact mapped made (Quantity.makesInRange_binary .add (range _ _ left))
  | sub left => exact mapped made (Quantity.makesInRange_binary .sub (range _ _ left))
  | mul left => exact mapped made (Quantity.makesInRange_binary .mul (range _ _ left))
  | div left => exact mapped made (Quantity.makesInRange_binary .div (range _ _ left))
  | sqrt h => exact mapped made (Quantity.makesInRange_unary .sqrt (range _ _ h))
  | neg h =>
      cases made
      exact Quantity.makesInRange_unary .neg (range _ _ h) _ rfl
  | abs h =>
      cases made
      exact Quantity.makesInRange_unary .abs (range _ _ h) _ rfl
  | ln h => exact mapped made (Quantity.makesInRange_unary .ln (range _ _ h))
  | log2 h => exact mapped made (Quantity.makesInRange_unary .log2 (range _ _ h))
  | log10 h => exact mapped made (Quantity.makesInRange_unary .log10 (range _ _ h))
  | sin h => exact mapped made (Quantity.makesInRange_unary .sin (range _ _ h))
  | cos h => exact mapped made (Quantity.makesInRange_unary .cos (range _ _ h))
  | tan h => exact mapped made (Quantity.makesInRange_unary .tan (range _ _ h))
  | asin h => exact mapped made (Quantity.makesInRange_unary .asin (range _ _ h))
  | acos h => exact mapped made (Quantity.makesInRange_unary .acos (range _ _ h))
  | atan h => exact mapped made (Quantity.makesInRange_unary .atan (range _ _ h))
  | mulScalar h s =>
      cases made
      exact Quantity.inRange_scalar .mul s (range _ _ h)
  | divScalar h s =>
      cases made
      exact Quantity.inRange_scalar .div s (range _ _ h)
  | scalarDiv h s =>
      cases made
      exact Quantity.inRange_scalar .divide s (range _ _ h)
  | intPower h n out => exact mapped made (Quantity.makesInRange_intPower n)
  | realPower h e out => exact mapped made (Quantity.makesInRange_realPower e (range _ _ h))
  | arcsine x => exact mapped made (Quantity.makesInRange_arc .asin x)
  | arccosine x => exact mapped made (Quantity.makesInRange_arc .acos x)
  | arctangent x =>
      cases made
      exact Quantity.makesInRange_arc .atan x _ rfl

end Step

variable {calls : List Call} {i : Nat} {q : Quantity}

theorem size_store_after (calls : List Call) : (after calls).store.size = calls.length := by
  induction calls using List.reverseRecOn with
  | nil => rfl
  | append_singleton calls call ih =>
      rw [after_append_singleton, size_store_run, ih, List.length_append, List.length_singleton]

theorem not_denotes_empty : ¬ (after []).store.Denotes i q := by
  intro h
  exact absurd (Store.lt_size_of_denotes h) (Nat.not_lt_zero i)

theorem denotes_after_iff :
    (after calls).store.Denotes i q ↔
      ∃ before call behind, calls = before ++ call :: behind ∧ before.length = i ∧
        call.Makes (after before).store q ∧ Call.free (some i) ∉ behind := by
  -- The last call either makes the handle or comes behind the call that made it.
  induction calls using List.reverseRecOn with
  | nil =>
      constructor
      · intro h
        exact absurd h not_denotes_empty
      · rintro ⟨before, call, behind, shape, -⟩
        simp at shape
  | append_singleton calls call ih =>
      rw [after_append_singleton, denotes_run_iff, size_store_after, ih]
      constructor
      · rintro (⟨rfl, makes⟩ | ⟨⟨before, made, behind, rfl, rfl, makes, kept⟩, other⟩)
        · exact ⟨calls, call, [], rfl, rfl, makes, List.not_mem_nil⟩
        · refine ⟨before, made, behind ++ [call], by simp, rfl, makes, ?_⟩
          simp [kept, Ne.symm other]
      · rintro ⟨before, made, behind, shape, rfl, makes, kept⟩
        cases behind using List.reverseRecOn with
        | nil =>
            obtain ⟨rfl, same⟩ := List.append_inj' shape rfl
            cases same
            exact .inl ⟨rfl, makes⟩
        | append_singleton behind last =>
            rw [← List.cons_append, ← List.append_assoc] at shape
            obtain ⟨rfl, same⟩ := List.append_inj' shape rfl
            cases same
            simp only [List.mem_append, List.mem_singleton, not_or] at kept
            exact .inr ⟨⟨before, made, behind, rfl, rfl, makes, kept.1⟩, Ne.symm kept.2⟩

theorem inRange_of_denotes_after (h : (after calls).store.Denotes i q) : q.InRange := by
  induction calls using List.reverseRecOn generalizing i q with
  | nil => exact absurd h not_denotes_empty
  | append_singleton calls call ih =>
      rw [after_append_singleton, denotes_run_iff] at h
      obtain ⟨-, makes, -⟩ | ⟨kept, -⟩ := h
      · exact inRange_of_asks (fun _ _ => ih) makes rfl
      · exact ih kept

/-! The unit of a live handle, read back through a buffer. -/

theorem run_baseUnits {session : Session} (h : session.store.Denotes i q) :
    session.run (.baseUnits (some i) true) =
      (.status okCode (some (.exponents q.dimension.exponents)), session.keep none none) :=
  run_of_asks_ok (.baseUnits h true) rfl

theorem makes_unitPart {store : Store} {buffer : Bytes} (x : Float) (range : q.InRange)
    (room : (textBytes q.text).length < buffer.length) :
    (Call.make x (some (unitPart (untilZero (copyInto (textBytes q.text) buffer))))).Makes store
      ⟨x * 1.0, q.dimension⟩ := by
  have unit : decodeText? (unitPart (untilZero (copyInto (textBytes q.text) buffer))) =
      some (String.ofList q.dimension.unitText) := by
    rw [untilZero_copyInto (fun _ => nonzero_text) room, unitPart_text range]
    exact decodeText?_textBytes fun _ mem =>
      (byte_of_plain (Dimension.plain_unitText q.dimension) mem).1
  have parsed : Units.Registry.standard.parse (String.ofList q.dimension.unitText) =
      .ok ⟨q.dimension, 1.0⟩ := by
    rw [Units.Registry.parse_eq_ok_iff_read, String.toList_ofList]
    exact Units.Registry.read_unitText range
  have asks : Call.Asks store.Denotes _ _ := .make x unit
  rw [Quantity.ofUnit, parsed] at asks
  exact ⟨asks, rfl⟩

theorem readBack_after {buffer : Bytes} (x : Float) (h : (after calls).store.Denotes i q)
    (room : (textBytes q.text).length < buffer.length) :
    let asText := Call.text (some i) (some buffer)
    let made := Call.make x (some (unitPart (untilZero (copyInto (textBytes q.text) buffer))))
    ((after (calls ++ [asText])).run made).1 = .handle true ∧
      ((after (calls ++ [asText, made])).run (.baseUnits (some (calls.length + 1)) true)).1 =
        ((after (calls ++ [asText, made])).run (.baseUnits (some i) true)).1 := by
  intro asText made
  have makes (store : Store) : made.Makes store ⟨x * 1.0, q.dimension⟩ :=
    makes_unitPart x (inRange_of_denotes_after h) room
  have size : (after (calls ++ [asText])).store.size = calls.length + 1 := by
    rw [size_store_after, List.length_append, List.length_singleton]
  have last : after (calls ++ [asText, made]) = ((after (calls ++ [asText])).run made).2 := by
    rw [← after_append_singleton, List.append_assoc, List.singleton_append]
  have kept : (after (calls ++ [asText])).store.Denotes i q := by
    rw [after_append_singleton, denotes_run_iff]
    exact .inr ⟨h, nofun⟩
  constructor
  · have there := makes (after (calls ++ [asText])).store
    rw [run_of_asks_ok there.1 there.2]
    rfl
  · have new : (after (calls ++ [asText, made])).store.Denotes (calls.length + 1)
        ⟨x * 1.0, q.dimension⟩ := by
      rw [last, denotes_run_iff, size]
      exact .inl ⟨rfl, makes _⟩
    have old : (after (calls ++ [asText, made])).store.Denotes i q := by
      rw [last, denotes_run_iff]
      exact .inr ⟨kept, nofun⟩
    rw [run_baseUnits new, run_baseUnits old]

/-- What a session owes to the engine after these calls. -/
structure Refines (calls : List Call) : Prop where
  /-- A handle denotes what the engine made for its call, from then on until it is freed. -/
  denotes_iff : ∀ i q, (after calls).store.Denotes i q ↔
    ∃ before call behind, calls = before ++ call :: behind ∧ before.length = i ∧
      call.Makes (after before).store q ∧ Call.free (some i) ∉ behind
  succeeds_iff : ∀ call outcome, call.Asks (after calls).store.Denotes outcome →
    call.hasOut = true → (((after calls).run call).1.Succeeded ↔ ∃ output, outcome = .ok output)
  success : ∀ call output, call.Asks (after calls).store.Denotes (.ok output) →
    call.hasOut = true → ((after calls).run call).1 = call.success output
  failure : ∀ call f, call.Asks (after calls).store.Denotes (.error f) →
    ((after calls).run call).1 = call.failure (.refused f) ∧
      ((after calls).run call).2.errorCode = kindCode f.kind
  text : ∀ i q buffer, (after calls).store.Denotes i q →
    ((after calls).run (.text (some i) buffer)).1 = lengthReply q.text buffer
  baseUnits : ∀ i q, (after calls).store.Denotes i q →
    ∃ es, ((after calls).run (.baseUnits (some i) true)).1 = .status okCode (some (.exponents es)) ∧
      es = q.dimension.exponents ∧ ∀ e ∈ es, e.num.natAbs.Coprime e.den ∧ 0 < e.den ∧
        e.num.natAbs ≤ Dimension.maxPart ∧ e.den ≤ Dimension.maxPart
  /-- The unit in the text of a handle makes a handle with the same exponents. -/
  readBack : ∀ i q buffer x, (after calls).store.Denotes i q →
    (textBytes q.text).length < buffer.length →
      ∃ filled, ((after calls).run (.text (some i) (some buffer))).1 =
          .length (reportedLength (textBytes q.text)) (some filled) ∧
        let asText := Call.text (some i) (some buffer)
        let made := Call.make x (some (unitPart (untilZero filled)))
        ((after (calls ++ [asText])).run made).1 = .handle true ∧
          ((after (calls ++ [asText, made])).run (.baseUnits (some (calls.length + 1)) true)).1 =
            ((after (calls ++ [asText, made])).run (.baseUnits (some i) true)).1

theorem succeeded_run_iff {session : Session} {call : Call} {outcome : Except Failure Output}
    (h : call.Asks session.store.Denotes outcome) (out : call.hasOut = true) :
    (session.run call).1.Succeeded ↔ ∃ output, outcome = .ok output := by
  cases outcome with
  | ok output =>
      rw [run_of_asks_ok h out]
      exact iff_of_true (call.succeeded_success output) ⟨output, rfl⟩
  | error f =>
      rw [run_of_asks_error h]
      exact iff_of_false (call.not_succeeded_failure _) nofun

theorem refines_engine (calls : List Call) : Refines calls where
  denotes_iff _ _ := denotes_after_iff
  succeeds_iff _ _ h out := succeeded_run_iff h out
  success _ _ h out := congrArg Prod.fst (run_of_asks_ok h out)
  failure _ _ h := by
    rw [run_of_asks_error h]
    exact ⟨rfl, rfl⟩
  text _ _ buffer h := congrArg Prod.fst (run_text h buffer)
  baseUnits i q h := by
    refine ⟨q.dimension.exponents, congrArg Prod.fst (run_baseUnits h), rfl, ?_⟩
    intro e mem
    have range := inRange_of_denotes_after h e mem
    exact ⟨e.reduced, e.den_pos, range.1, range.2⟩
  readBack i q buffer x h room :=
    ⟨copyInto (textBytes q.text) buffer, congrArg Prod.fst (run_text h (some buffer)),
      readBack_after x h room⟩

end Session

end Dimensional.Handles
