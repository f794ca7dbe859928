import Dimensional.Proofs.Handles.Record
import Dimensional.Proofs.Handles.Refinement

/-!
Calls that write their result through a pointer.  Such a call either writes it and succeeds, or
leaves every handle as it was and reports the first cause to fail: handles from the left to the
right, then the unit, then the engine, and the pointer itself last.
-/

namespace Dimensional.Handles

/-- The order in which causes are looked for; no call has both one handle and two. -/
def Cause.rank : Cause → Nat
  | null .v | null .a => 0
  | null .b => 1
  | null .unit => 2
  | notUtf8 _ => 3
  | refused _ => 4
  | null .out => 5

namespace Call

/-- Whether there is a place to write to, for the calls that need one. -/
def out? : Call → Option Bool
  | value _ out | valueIn _ _ out | isUnitless _ out | baseUnits _ out => some out
  | binary _ _ _ out | unary _ _ out | scalar _ _ _ out | intPower _ _ out => some out
  | realPower _ _ out | arc _ _ out | test _ _ _ out => some out
  | _ => none

/-- All that is wrong with a call, in whatever order.  The engine refuses only what it is asked,
hence only where the arguments are in order. -/
inductive HasCause (store : Store) (call : Call) : Cause → Prop
  | handle {parameter : Parameter} {handle : Handle} (mem : (parameter, handle) ∈ call.handles)
      (missing : store.find? handle = none) : HasCause store call (.null parameter)
  | noUnit (h : call.unit? = some none) : HasCause store call (.null .unit)
  | notText {bytes : Bytes} (h : call.unit? = some (some bytes))
      (decoded : decodeText? bytes = none) : HasCause store call (.notUtf8 .unit)
  | engine {f : Failure} (h : call.Asks store.Denotes (.error f)) : HasCause store call (.refused f)
  | noOut (h : call.out? = some false) : HasCause store call (.null .out)

variable {store : Store} {call : Call} {cause : Cause} {out : Bool}

theorem isLook_of_out? (takes : call.out? = some out) : call.isLook = false := by
  cases call with
  | free | errorCode | errorMessage | version | abiVersion => cases takes
  | _ => rfl

theorem hasOut_of_out? (takes : call.out? = some out) : call.hasOut = out := by
  cases call with
  | make | unitless | clone | free | text | errorCode | errorMessage | version | abiVersion =>
      cases takes
  | _ => exact Option.some.inj takes

theorem success_of_out? (takes : call.out? = some out) (output : Output) :
    call.success output = .status okCode (some output) := by
  cases call with
  | make | unitless | clone => cases takes
  | _ => rfl

theorem failure_of_out? (takes : call.out? = some out) (cause : Cause) :
    call.failure cause = .status cause.code none := by
  cases call with
  | make | unitless | clone | text => cases takes
  | _ => rfl

/-- Handles stand in the order of the causes that they may be, before all others. -/
theorem handles_ordered (call : Call) :
    call.handles.Pairwise (fun x y => (Cause.null x.1).rank < (Cause.null y.1).rank) ∧
      ∀ x ∈ call.handles, (Cause.null x.1).rank < (Cause.null .unit).rank := by
  cases call <;> simp [handles, Cause.rank]

theorem missing?_eq_none (h : call.missing? store = none) {parameter : Parameter} {handle : Handle}
    (mem : (parameter, handle) ∈ call.handles) : store.find? handle ≠ none := by
  have found := List.find?_eq_none.mp (Option.map_eq_none_iff.mp h) _ mem
  simpa using found

/-- The cause is found, and nothing that is wrong is looked for earlier. -/
def FirstCause (store : Store) (call : Call) (cause : Cause) : Prop :=
  call.HasCause store cause ∧ ∀ other, call.HasCause store other → cause.rank ≤ other.rank

theorem HasCause.rank_le_of_live (has : call.HasCause store cause)
    (live : call.missing? store = none) : (Cause.null .unit).rank ≤ cause.rank := by
  cases has with
  | handle mem missing => exact absurd missing (missing?_eq_none live mem)
  | noUnit | notText | engine | noOut => simp [Cause.rank]

theorem firstCause_of_missing? (h : call.missing? store = some cause) :
    call.FirstCause store cause := by
  obtain ⟨⟨parameter, handle⟩, found, rfl⟩ := Option.map_eq_some_iff.mp h
  obtain ⟨missing, before, behind, shape, live⟩ := List.find?_eq_some_iff_append.mp found
  obtain ⟨ordered, early⟩ := call.handles_ordered
  have mem : (parameter, handle) ∈ call.handles := by simp [shape]
  refine ⟨.handle mem (by simpa using missing), fun other has => ?_⟩
  have second : (Cause.null parameter).rank < (Cause.null .unit).rank := early _ mem
  cases has with
  | @handle parameter' handle' mem' missing' =>
      rw [shape] at mem' ordered
      obtain front | same | back := by simpa using mem'
      · have := live _ front
        simp [missing'] at this
      · rw [same.1]
      · have behindFirst := (List.pairwise_cons.mp (List.pairwise_append.mp ordered).2.1).1
        exact Nat.le_of_lt (behindFirst _ back)
  | noUnit | notText | engine | noOut =>
      simp only [Cause.rank] at second ⊢
      omega

theorem firstCause_of_unitFault? (live : call.missing? store = none)
    (h : call.unitFault? = some cause) : call.FirstCause store cause := by
  unfold unitFault? at h
  split at h
  case h_1 noUnit =>
    cases h
    exact ⟨.noUnit noUnit, fun other has => has.rank_le_of_live live⟩
  case h_2 bytes unit =>
    split at h
    case isTrue notText =>
      cases h
      refine ⟨.notText unit (by simpa using notText), fun other has => ?_⟩
      cases has with
      | handle mem missing => exact absurd missing (missing?_eq_none live mem)
      | noUnit noUnit => cases unit.symm.trans noUnit
      | notText | engine | noOut => simp [Cause.rank]
    case isFalse => cases h
  case h_3 => cases h

theorem firstCause_of_argumentFault? (h : call.argumentFault? store = some cause) :
    call.FirstCause store cause := by
  obtain missing | ⟨live, unit⟩ := Option.or_eq_some_iff.mp h
  · exact firstCause_of_missing? missing
  · exact firstCause_of_unitFault? live unit

theorem rank_le_of_argumentFault? (h : call.argumentFault? store = some cause) :
    cause.rank ≤ (Cause.notUtf8 .unit).rank := by
  obtain missing | ⟨-, unit⟩ := Option.or_eq_some_iff.mp h
  · obtain ⟨argument, found, rfl⟩ := Option.map_eq_some_iff.mp missing
    have early := call.handles_ordered.2 argument (List.mem_of_find?_eq_some found)
    exact Nat.le_trans (Nat.le_of_lt early) (by decide)
  · unfold unitFault? at unit
    repeat' split at unit
    all_goals cases unit
    all_goals decide

/-- Behind the arguments come the engine and the place to write to. -/
theorem HasCause.cases_of_argumentFault? (has : call.HasCause store cause)
    (sound : call.argumentFault? store = none) :
    (∃ f, cause = .refused f ∧ call.Asks store.Denotes (.error f)) ∨
      cause = .null .out ∧ call.out? = some false := by
  obtain ⟨live, unit⟩ := Option.or_eq_none_iff.mp sound
  cases has with
  | handle mem missing => exact absurd missing (missing?_eq_none live mem)
  | noUnit noUnit => simp [unitFault?, noUnit] at unit
  | notText taken decoded => simp [unitFault?, taken, decoded] at unit
  | @engine f asks => exact .inl ⟨f, rfl, asks⟩
  | noOut noOut => exact .inr ⟨rfl, noOut⟩

/-- Only one cause is ever recorded. -/
theorem FailsBy.unique {other : Cause} (diagnosing : call.isLook = false)
    (fails : call.FailsBy store cause) (fails' : call.FailsBy store other) : cause = other := by
  have recorded : ((Session.mk store none).run call).2.record = some cause :=
    (Session.record_run_eq_some_iff diagnosing).mpr fails
  have recorded' : ((Session.mk store none).run call).2.record = some other :=
    (Session.record_run_eq_some_iff diagnosing).mpr fails'
  exact Option.some.inj (recorded.symm.trans recorded')

theorem FailsBy.firstCause (takes : call.out? = some out) (fails : call.FailsBy store cause) :
    call.FirstCause store cause := by
  cases fails with
  | argument fault => exact firstCause_of_argumentFault? fault
  | @refused f asks =>
      refine ⟨.engine asks, fun other has => ?_⟩
      obtain ⟨g, rfl, -⟩ | ⟨rfl, -⟩ := has.cases_of_argumentFault? (argumentFault?_of_asks asks)
      · exact Nat.le_refl _
      · simp [Cause.rank]
  | @out output asks noOut =>
      have missing := hasOut_of_out? takes ▸ noOut
      refine ⟨.noOut (missing ▸ takes), fun other has => ?_⟩
      obtain ⟨g, rfl, refused⟩ | ⟨rfl, -⟩ :=
        has.cases_of_argumentFault? (argumentFault?_of_asks asks)
      · cases FailsBy.unique (isLook_of_out? takes) (.out asks noOut) (.refused refused)
      · exact Nat.le_refl _

theorem failsBy_or_asks (store : Store) (takes : call.out? = some out) :
    (∃ cause, call.FailsBy store cause) ∨
      ∃ output, call.Asks store.Denotes (.ok output) ∧ call.hasOut = true := by
  cases (Session.mk store none).course (isLook_of_out? takes) with
  | @fault cause fault => exact .inl ⟨cause, .argument fault⟩
  | @asks outcome asks =>
      cases outcome with
      | error f => exact .inl ⟨.refused f, .refused asks⟩
      | ok output =>
          cases written : call.hasOut with
          | false => exact .inl ⟨.null .out, .out asks written⟩
          | true => exact .inr ⟨output, asks, rfl⟩
  | text buffer live shape =>
      subst shape
      cases takes

theorem HasCause.exists_failsBy (takes : call.out? = some out) (has : call.HasCause store cause) :
    ∃ found, call.FailsBy store found := by
  obtain fails | ⟨output, asks, written⟩ := call.failsBy_or_asks store takes
  · exact fails
  · obtain ⟨f, -, refused⟩ | ⟨-, noOut⟩ := has.cases_of_argumentFault? (argumentFault?_of_asks asks)
    · exact ⟨.refused f, .refused refused⟩
    · cases written.symm.trans (hasOut_of_out? noOut)

end Call

namespace Session

variable {session : Session} {call : Call} {out : Bool}

/-- What a call that writes through a pointer owes to its caller, by the status that it returns,
what it writes and the session that it leaves. -/
structure AllOrNothing (session : Session) (call : Call) (status : Int) (written : Option Output)
    (after : Session) : Prop where
  written_iff : written.isSome = true ↔ status = okCode
  succeeds_iff : status = okCode ↔ ∀ cause, ¬ call.HasCause session.store cause
  kept : status ≠ okCode → ∀ i q, after.store.Denotes i q ↔ session.store.Denotes i q
  cause : status ≠ okCode → ∃ cause, call.FirstCause session.store cause ∧ status = cause.code ∧
    after.record = some cause
  /-- The place to write to is looked at when the engine has made what goes there. -/
  made : after.record = some (.null .out) →
    ∃ output, call.Asks session.store.Denotes (.ok output)

theorem allOrNothing_of_failsBy {cause : Cause} (takes : call.out? = some out)
    (fails : call.FailsBy session.store cause) :
    session.AllOrNothing call cause.code none (session.keep none (some cause)) where
  written_iff := iff_of_false Bool.false_ne_true (Int.ne_of_lt cause.code_neg)
  succeeds_iff := iff_of_false (Int.ne_of_lt cause.code_neg) fun clear =>
    clear cause (fails.firstCause takes).1
  kept _ i q := by
    rw [keep, Store.denotes_push]
    simp
  cause _ := ⟨cause, fails.firstCause takes, rfl, rfl⟩
  made recorded := by
    cases recorded
    cases fails with
    | argument fault => exact absurd (Call.rank_le_of_argumentFault? fault) (by decide)
    | out asks => exact ⟨_, asks⟩

theorem allOrNothing_of_asks {output : Output} (takes : call.out? = some out)
    (asks : call.Asks session.store.Denotes (.ok output)) (written : call.hasOut = true) :
    session.AllOrNothing call okCode (some output) (session.keep (madeBy output) none) where
  written_iff := iff_of_true rfl rfl
  succeeds_iff := by
    refine iff_of_true rfl fun cause has => ?_
    obtain ⟨found, fails⟩ := has.exists_failsBy takes
    have failed := run_of_failsBy (Call.isLook_of_out? takes) fails
    rw [run_of_asks_ok asks written] at failed
    cases congrArg (·.2.record) failed
  kept failed := absurd rfl failed
  cause failed := absurd rfl failed
  made := nofun

/-- Whatever else is wrong with a call, it reports the first cause and does nothing. -/
theorem run_allOrNothing (session : Session) (call : Call) {out : Bool}
    (takes : call.out? = some out) :
    ∃ status written, (session.run call).1 = .status status written ∧
      session.AllOrNothing call status written (session.run call).2 := by
  obtain ⟨cause, fails⟩ | ⟨output, asks, made⟩ := call.failsBy_or_asks session.store takes
  · rw [run_of_failsBy (Call.isLook_of_out? takes) fails]
    exact ⟨cause.code, none, Call.failure_of_out? takes cause, allOrNothing_of_failsBy takes fails⟩
  · rw [run_of_asks_ok asks made]
    exact ⟨okCode, some output, Call.success_of_out? takes output,
      allOrNothing_of_asks takes asks made⟩

theorem run_allOrNothing_allAmiss :
    let session := after [.unitless 2]
    let call := Call.binary .add (some 0) (some 7) false
    call.out? = some false ∧
      ∃ status written, (session.run call).1 = .status status written ∧ status ≠ okCode ∧
        session.AllOrNothing call status written (session.run call).2 ∧
          (session.run call).2.record = some (.null .b) := by
  intro session call
  obtain ⟨status, written, reply, holds⟩ := run_allOrNothing session call rfl
  refine ⟨rfl, status, written, reply, ?_, holds, rfl⟩
  cases reply
  decide

end Session

end Dimensional.Handles
