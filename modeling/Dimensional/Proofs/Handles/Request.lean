import Dimensional.Handles.Session

/-!
What a call through handles comes to.  Where its handles denote quantities and its unit is text, it
asks the engine for the outcome of one operation; otherwise it fails by the first argument at fault.
-/

namespace Dimensional.Handles

def Store.Denotes (store : Store) (i : Nat) (q : Quantity) : Prop :=
  store.find? (some i) = some q

namespace Call

/-- The engine's outcome on what the handles of a call denote, whatever it is given to write to. -/
inductive Asks (denotes : Nat → Quantity → Prop) : Call → Except Failure Output → Prop
  | make (x : Float) {bytes : Bytes} {unit : String} (decoded : decodeText? bytes = some unit) :
      Asks denotes (.make x (some bytes)) ((Quantity.ofUnit x unit).map .quantity)
  | unitless (x : Float) : Asks denotes (.unitless x) (.ok (.quantity (.unitless x)))
  | clone {i : Nat} {q : Quantity} (h : denotes i q) :
      Asks denotes (.clone (some i)) (.ok (.quantity q))
  | value {i : Nat} {q : Quantity} (h : denotes i q) (out : Bool) :
      Asks denotes (.value (some i) out) (.ok (.number q.value))
  | valueIn {i : Nat} {q : Quantity} (h : denotes i q) {bytes : Bytes} {unit : String}
      (decoded : decodeText? bytes = some unit) (out : Bool) :
      Asks denotes (.valueIn (some i) (some bytes) out) ((q.valueIn unit).map .number)
  | isUnitless {i : Nat} {q : Quantity} (h : denotes i q) (out : Bool) :
      Asks denotes (.isUnitless (some i) out) (.ok (.truth q.isUnitless))
  | baseUnits {i : Nat} {q : Quantity} (h : denotes i q) (out : Bool) :
      Asks denotes (.baseUnits (some i) out) (.ok (.exponents q.dimension.exponents))
  | add {i j : Nat} {p q : Quantity} (left : denotes i p) (right : denotes j q) (out : Bool) :
      Asks denotes (.binary .add (some i) (some j) out) ((p.add q).map .quantity)
  | sub {i j : Nat} {p q : Quantity} (left : denotes i p) (right : denotes j q) (out : Bool) :
      Asks denotes (.binary .sub (some i) (some j) out) ((p.sub q).map .quantity)
  | mul {i j : Nat} {p q : Quantity} (left : denotes i p) (right : denotes j q) (out : Bool) :
      Asks denotes (.binary .mul (some i) (some j) out) ((p.mul q).map .quantity)
  | div {i j : Nat} {p q : Quantity} (left : denotes i p) (right : denotes j q) (out : Bool) :
      Asks denotes (.binary .div (some i) (some j) out) ((p.div q).map .quantity)
  | sqrt {i : Nat} {q : Quantity} (h : denotes i q) (out : Bool) :
      Asks denotes (.unary .sqrt (some i) out) (q.sqrt.map .quantity)
  | neg {i : Nat} {q : Quantity} (h : denotes i q) (out : Bool) :
      Asks denotes (.unary .neg (some i) out) (.ok (.quantity q.neg))
  | abs {i : Nat} {q : Quantity} (h : denotes i q) (out : Bool) :
      Asks denotes (.unary .abs (some i) out) (.ok (.quantity q.abs))
  | ln {i : Nat} {q : Quantity} (h : denotes i q) (out : Bool) :
      Asks denotes (.unary .ln (some i) out) (q.ln.map .quantity)
  | log2 {i : Nat} {q : Quantity} (h : denotes i q) (out : Bool) :
      Asks denotes (.unary .log2 (some i) out) (q.log2.map .quantity)
  | log10 {i : Nat} {q : Quantity} (h : denotes i q) (out : Bool) :
      Asks denotes (.unary .log10 (some i) out) (q.log10.map .quantity)
  | sin {i : Nat} {q : Quantity} (h : denotes i q) (out : Bool) :
      Asks denotes (.unary .sin (some i) out) (q.sin.map .quantity)
  | cos {i : Nat} {q : Quantity} (h : denotes i q) (out : Bool) :
      Asks denotes (.unary .cos (some i) out) (q.cos.map .quantity)
  | tan {i : Nat} {q : Quantity} (h : denotes i q) (out : Bool) :
      Asks denotes (.unary .tan (some i) out) (q.tan.map .quantity)
  | asin {i : Nat} {q : Quantity} (h : denotes i q) (out : Bool) :
      Asks denotes (.unary .asin (some i) out) (q.asin.map .quantity)
  | acos {i : Nat} {q : Quantity} (h : denotes i q) (out : Bool) :
      Asks denotes (.unary .acos (some i) out) (q.acos.map .quantity)
  | atan {i : Nat} {q : Quantity} (h : denotes i q) (out : Bool) :
      Asks denotes (.unary .atan (some i) out) (q.atan.map .quantity)
  | mulScalar {i : Nat} {q : Quantity} (h : denotes i q) (s : Float) (out : Bool) :
      Asks denotes (.scalar .mul (some i) s out) (.ok (.quantity (q.mulScalar s)))
  | divScalar {i : Nat} {q : Quantity} (h : denotes i q) (s : Float) (out : Bool) :
      Asks denotes (.scalar .div (some i) s out) (.ok (.quantity (q.divScalar s)))
  | scalarDiv {i : Nat} {q : Quantity} (h : denotes i q) (s : Float) (out : Bool) :
      Asks denotes (.scalar .divide (some i) s out) (.ok (.quantity (Quantity.scalarDiv s q)))
  | intPower {i : Nat} {q : Quantity} (h : denotes i q) (n : Int) (out : Bool) :
      Asks denotes (.intPower (some i) n out) ((q.intPower n).map .quantity)
  | realPower {i : Nat} {q : Quantity} (h : denotes i q) (exponent : Float) (out : Bool) :
      Asks denotes (.realPower (some i) exponent out) ((q.realPower exponent).map .quantity)
  | arcsine (x : Float) (out : Bool) :
      Asks denotes (.arc .asin x out) ((Quantity.arcsine x).map .quantity)
  | arccosine (x : Float) (out : Bool) :
      Asks denotes (.arc .acos x out) ((Quantity.arccosine x).map .quantity)
  | arctangent (x : Float) (out : Bool) :
      Asks denotes (.arc .atan x out) (.ok (.quantity (Quantity.arctangent x)))
  | test (c : Quantity.Comparison) {i j : Nat} {p q : Quantity} (left : denotes i p)
      (right : denotes j q) (out : Bool) :
      Asks denotes (.test c (some i) (some j) out) ((Quantity.test c p q).map .truth)

namespace Asks

variable {denotes : Nat → Quantity → Prop} {i j : Nat} {p q : Quantity}

theorem binary (op : Quantity.Binary) (left : denotes i p) (right : denotes j q) (out : Bool) :
    Asks denotes (.binary op (some i) (some j) out) ((op.apply p q).map .quantity) := by
  cases op with
  | add => exact .add left right out
  | sub => exact .sub left right out
  | mul => exact .mul left right out
  | div => exact .div left right out

theorem unary (op : Quantity.Unary) (h : denotes i q) (out : Bool) :
    Asks denotes (.unary op (some i) out) ((op.apply q).map .quantity) := by
  cases op with
  | sqrt => exact .sqrt h out
  | neg => exact .neg h out
  | abs => exact .abs h out
  | ln => exact .ln h out
  | log2 => exact .log2 h out
  | log10 => exact .log10 h out
  | sin => exact .sin h out
  | cos => exact .cos h out
  | tan => exact .tan h out
  | asin => exact .asin h out
  | acos => exact .acos h out
  | atan => exact .atan h out

theorem scalar (op : Quantity.Scalar) (h : denotes i q) (s : Float) (out : Bool) :
    Asks denotes (.scalar op (some i) s out) (.ok (.quantity (op.apply q s))) := by
  cases op with
  | mul => exact .mulScalar h s out
  | div => exact .divScalar h s out
  | divide => exact .scalarDiv h s out

theorem arc (op : Quantity.Arc) (x : Float) (out : Bool) :
    Asks denotes (.arc op x out) ((op.apply x).map .quantity) := by
  cases op with
  | asin => exact .arcsine x out
  | acos => exact .arccosine x out
  | atan => exact .arctangent x out

end Asks

/-- Handles are looked at in this order. -/
def handles : Call → List (Parameter × Handle)
  | clone v | value v _ | valueIn v _ _ | isUnitless v _ | baseUnits v _ => [(.v, v)]
  | unary _ v _ | scalar _ v _ _ | intPower v _ _ | realPower v _ _ | text v _ => [(.v, v)]
  | binary _ a b _ | test _ a b _ => [(.a, a), (.b, b)]
  | _ => []

def unit? : Call → Option (Option Bytes)
  | make _ unit | valueIn _ unit _ => some unit
  | _ => none

/-- A call that returns its result itself needs no place to write it to. -/
def hasOut : Call → Bool
  | value _ out | valueIn _ _ out | isUnitless _ out | baseUnits _ out => out
  | binary _ _ _ out | unary _ _ out | scalar _ _ _ out | intPower _ _ out => out
  | realPower _ _ out | arc _ _ out | test _ _ _ out => out
  | _ => true

/-- The calls that neither set nor clear the record. -/
def isLook : Call → Bool
  | free _ | errorCode | errorMessage _ | version | abiVersion => true
  | _ => false

def missing? (store : Store) (call : Call) : Option Cause :=
  (call.handles.find? fun argument => (store.find? argument.2).isNone).map fun argument =>
    .null argument.1

def unitFault? (call : Call) : Option Cause :=
  match call.unit? with
  | some none => some (.null .unit)
  | some (some bytes) => if (decodeText? bytes).isNone then some (.notUtf8 .unit) else none
  | none => none

def argumentFault? (store : Store) (call : Call) : Option Cause :=
  (call.missing? store).or call.unitFault?

def Makes (store : Store) (call : Call) (q : Quantity) : Prop :=
  call.Asks store.Denotes (.ok (.quantity q)) ∧ call.hasOut = true

/-- Why a call fails: by an argument first, then by a refusal, and by the place to write to last. -/
inductive FailsBy (store : Store) (call : Call) : Cause → Prop
  | argument {cause : Cause} (h : call.argumentFault? store = some cause) :
      FailsBy store call cause
  | refused {f : Failure} (h : call.Asks store.Denotes (.error f)) :
      FailsBy store call (.refused f)
  | out {output : Output} (h : call.Asks store.Denotes (.ok output)) (noOut : call.hasOut = false) :
      FailsBy store call (.null .out)

def success (call : Call) (output : Output) : Reply :=
  match call with
  | make _ _ | unitless _ | clone _ => .handle true
  | _ => .status okCode (some output)

def failure (call : Call) (cause : Cause) : Reply :=
  match call with
  | make _ _ | unitless _ | clone _ => .handle false
  | text _ buffer => .length cause.code buffer
  | _ => .status cause.code none

end Call

/-- A handle, the code of success, a length that is not negative, or nothing that can fail. -/
def Reply.Succeeded : Reply → Prop
  | handle made => made = true
  | status code _ => code = okCode
  | length n _ => 0 ≤ n
  | number _ | text _ | nothing => True

namespace Session

/-- What a call returns and leaves, once it is known what it writes or why it fails. -/
def settle (session : Session) (call : Call) : Except Cause Output → Reply × Session
  | .ok output => (call.success output, session.keep (madeBy output) none)
  | .error cause => (call.failure cause, session.keep none (some cause))

end Session

section Arguments

variable {α : Type} {store : Store} {handle : Handle} {parameter : Parameter} {i : Nat}
  {q : Quantity}

theorem Store.get_bind_of_denotes (h : store.Denotes i q) (f : Quantity → Except Cause α) :
    (store.get parameter (some i) >>= f) = f q := by
  have found : store.find? (some i) = some q := h
  rw [Store.get, found]
  rfl

theorem Store.get_bind_of_find?_eq_none (missing : store.find? handle = none)
    (f : Quantity → Except Cause α) :
    (store.get parameter handle >>= f) = .error (.null parameter) := by
  rw [Store.get, missing]
  rfl

theorem Store.find?_cases (store : Store) (handle : Handle) :
    store.find? handle = none ∨ ∃ i q, handle = some i ∧ store.Denotes i q := by
  cases found : store.find? handle with
  | none => exact .inl rfl
  | some q =>
      cases handle with
      | none => cases found
      | some i => exact .inr ⟨i, q, rfl, found⟩

theorem unitText_cases (unit : Option Bytes) :
    (∃ cause, unitText unit = .error cause ∧
        ∀ call : Call, call.unit? = some unit → call.unitFault? = some cause) ∨
      ∃ bytes text, unit = some bytes ∧ decodeText? bytes = some text := by
  cases unit with
  | none =>
      refine .inl ⟨.null .unit, rfl, ?_⟩
      intro call taken
      rw [Call.unitFault?, taken]
  | some bytes =>
      cases decoded : decodeText? bytes with
      | none =>
          refine .inl ⟨.notUtf8 .unit, by rw [unitText, decoded], ?_⟩
          intro call taken
          simp [Call.unitFault?, taken, decoded]
      | some text => exact .inr ⟨bytes, text, rfl, decoded⟩

theorem unitText_bind_of_decode {bytes : Bytes} {unit : String}
    (decoded : decodeText? bytes = some unit) (f : String → Except Cause α) :
    (unitText (some bytes) >>= f) = f unit := by
  rw [unitText, decoded]
  rfl

theorem settled_bind_pure {β : Type} (outcome : Except Failure α) (wrap : α → β) :
    (settled outcome >>= fun a => pure (wrap a)) = settled (outcome.map wrap) := by
  cases outcome <;> rfl

end Arguments

namespace Session

variable {session : Session} {call : Call}

theorem apply_output {outcome : Except Cause Output}
    (success : ∀ output, call.success output = .status okCode (some output))
    (failure : ∀ cause, call.failure cause = .status cause.code none) :
    session.apply (.output outcome) = session.settle call outcome := by
  cases outcome with
  | ok output => rw [settle, success]; rfl
  | error cause => rw [settle, failure]; rfl

theorem run_of_asks {outcome : Except Failure Output}
    (h : call.Asks session.store.Denotes outcome) :
    session.run call = session.settle call (written call.hasOut (settled outcome)) := by
  cases h with
  | @make x bytes unit decoded =>
      simp only [run, Call.effect, unitText_bind_of_decode decoded]
      cases Quantity.ofUnit x unit <;> rfl
  | unitless x => rfl
  | @clone i q h =>
      have found : (session.store.get .v (some i) >>= pure) = .ok q :=
        Store.get_bind_of_denotes h pure
      rw [bind_pure] at found
      simp only [run, Call.effect, found]
      rfl
  | value h out =>
      simp only [run, Call.effect, Store.get_bind_of_denotes h]
      exact apply_output (fun _ => rfl) (fun _ => rfl)
  | valueIn h decoded out =>
      simp only [run, Call.effect, Store.get_bind_of_denotes h, unitText_bind_of_decode decoded,
        settled_bind_pure]
      exact apply_output (fun _ => rfl) (fun _ => rfl)
  | isUnitless h out =>
      simp only [run, Call.effect, Store.get_bind_of_denotes h]
      exact apply_output (fun _ => rfl) (fun _ => rfl)
  | baseUnits h out =>
      simp only [run, Call.effect, Store.get_bind_of_denotes h]
      exact apply_output (fun _ => rfl) (fun _ => rfl)
  | add left right out | sub left right out | mul left right out | div left right out =>
      simp only [run, Call.effect, Store.get_bind_of_denotes left,
        Store.get_bind_of_denotes right, settled_bind_pure]
      exact apply_output (fun _ => rfl) (fun _ => rfl)
  | sqrt h out | neg h out | abs h out | ln h out | log2 h out | log10 h out | sin h out
    | cos h out | tan h out | asin h out | acos h out | atan h out =>
      simp only [run, Call.effect, Store.get_bind_of_denotes h, settled_bind_pure]
      exact apply_output (fun _ => rfl) (fun _ => rfl)
  | mulScalar h s out | divScalar h s out | scalarDiv h s out =>
      simp only [run, Call.effect, Store.get_bind_of_denotes h]
      exact apply_output (fun _ => rfl) (fun _ => rfl)
  | intPower h n out =>
      simp only [run, Call.effect, Store.get_bind_of_denotes h, settled_bind_pure]
      exact apply_output (fun _ => rfl) (fun _ => rfl)
  | realPower h exponent out =>
      simp only [run, Call.effect, Store.get_bind_of_denotes h, settled_bind_pure]
      exact apply_output (fun _ => rfl) (fun _ => rfl)
  | arcsine x out | arccosine x out | arctangent x out =>
      simp only [run, Call.effect, settled_bind_pure]
      exact apply_output (fun _ => rfl) (fun _ => rfl)
  | test c left right out =>
      simp only [run, Call.effect, Store.get_bind_of_denotes left,
        Store.get_bind_of_denotes right, settled_bind_pure]
      exact apply_output (fun _ => rfl) (fun _ => rfl)

theorem run_of_asks_ok {output : Output} (h : call.Asks session.store.Denotes (.ok output))
    (out : call.hasOut = true) :
    session.run call = (call.success output, session.keep (madeBy output) none) := by
  rw [run_of_asks h, out]
  rfl

theorem run_of_asks_error {f : Failure} (h : call.Asks session.store.Denotes (.error f)) :
    session.run call = (call.failure (.refused f), session.keep none (some (.refused f))) := by
  rw [run_of_asks h]
  rfl

end Session

namespace Call

variable {store : Store} {call : Call}

theorem succeeded_success (call : Call) (output : Output) : (call.success output).Succeeded := by
  cases call <;> rfl

theorem not_succeeded_failure (call : Call) (cause : Cause) :
    ¬ (call.failure cause).Succeeded := by
  have negative := cause.code_neg
  cases call with
  | make | unitless | clone => exact Bool.false_ne_true
  | text v buffer => exact Int.not_le.mpr negative
  | _ => exact Int.ne_of_lt negative

theorem argumentFault?_of_asks {outcome : Except Failure Output}
    (h : call.Asks store.Denotes outcome) : call.argumentFault? store = none := by
  cases h with
  | make x decoded => simp [argumentFault?, missing?, handles, unitFault?, unit?, decoded]
  | unitless x => rfl
  | valueIn h decoded out =>
      have found : store.find? _ = some _ := h
      simp [argumentFault?, missing?, handles, unitFault?, unit?, found, decoded]
  | clone h | value h | isUnitless h | baseUnits h | sqrt h | neg h | abs h | ln h | log2 h
    | log10 h | sin h | cos h | tan h | asin h | acos h | atan h | mulScalar h | divScalar h
    | scalarDiv h | intPower h | realPower h =>
      have found : store.find? _ = some _ := h
      simp [argumentFault?, missing?, handles, unitFault?, unit?, found]
  | arcsine x | arccosine x | arctangent x => rfl
  | add left right | sub left right | mul left right | div left right | test _ left right =>
      have foundL : store.find? _ = some _ := left
      have foundR : store.find? _ = some _ := right
      simp [argumentFault?, missing?, handles, unitFault?, unit?, foundL, foundR]

theorem argumentFault?_text {i : Nat} {q : Quantity} (h : store.Denotes i q)
    (buffer : Option Bytes) : (text (some i) buffer).argumentFault? store = none := by
  have found : store.find? (some i) = some q := h
  simp [argumentFault?, missing?, handles, unitFault?, unit?, found]

/-- The first handle that denotes nothing is at fault, whatever else is. -/
theorem argumentFault?_of_missing (before : List (Parameter × Handle))
    {behind : List (Parameter × Handle)} {parameter : Parameter} {handle : Handle}
    (order : call.handles = before ++ (parameter, handle) :: behind)
    (live : ∀ argument ∈ before, (store.find? argument.2).isNone = false)
    (missing : store.find? handle = none) :
    call.argumentFault? store = some (.null parameter) := by
  have skipped : before.find? (fun argument => (store.find? argument.2).isNone) = none := by
    rw [List.find?_eq_none]
    intro argument member
    simp [live argument member]
  simp [argumentFault?, missing?, order, List.find?_append, skipped, missing]

end Call

namespace Session

variable {session : Session} {call : Call}

/-- A call fails by an argument or asks the engine for something; a text needs no engine. -/
inductive Course (session : Session) (call : Call) : Prop
  | fault {cause : Cause} (h : call.argumentFault? session.store = some cause)
      (run : session.run call = session.settle call (.error cause))
  | asks {outcome : Except Failure Output} (h : call.Asks session.store.Denotes outcome)
  | text {i : Nat} {q : Quantity} (buffer : Option Bytes) (h : session.store.Denotes i q)
      (shape : call = .text (some i) buffer)

section Handles

variable {a b : Handle} {out : Bool}

theorem course_of_get (order : call.handles = [(.v, a)])
    (failure : ∀ cause, call.failure cause = .status cause.code none)
    {next : Quantity → Except Cause Output}
    (effect : call.effect session = .output (written out (session.store.get .v a >>= next)))
    (found : ∀ i q, a = some i → session.store.Denotes i q → Course session call) :
    Course session call := by
  obtain missing | ⟨i, q, shape, h⟩ := session.store.find?_cases a
  · refine .fault (Call.argumentFault?_of_missing [] order (by simp) missing) ?_
    rw [run, effect, Store.get_bind_of_find?_eq_none missing, settle, failure]
    rfl
  · exact found i q shape h

theorem course_of_get_get (order : call.handles = [(.a, a), (.b, b)])
    (failure : ∀ cause, call.failure cause = .status cause.code none)
    {next : Quantity → Quantity → Except Cause Output}
    (effect : call.effect session = .output (written out
      (session.store.get .a a >>= fun p => session.store.get .b b >>= next p)))
    (found : ∀ i j p q, a = some i → b = some j → session.store.Denotes i p →
      session.store.Denotes j q → Course session call) : Course session call := by
  obtain missing | ⟨i, p, rfl, left⟩ := session.store.find?_cases a
  · refine .fault (Call.argumentFault?_of_missing [] order (by simp) missing) ?_
    rw [run, effect, Store.get_bind_of_find?_eq_none missing, settle, failure]
    rfl
  · obtain missing | ⟨j, q, rfl, right⟩ := session.store.find?_cases b
    · have live : (session.store.find? (some i)).isNone = false := by
        have found : session.store.find? (some i) = some p := left
        rw [found]
        rfl
      refine .fault
        (Call.argumentFault?_of_missing [(.a, some i)] order (by simpa using live)
          missing) ?_
      rw [run, effect, Store.get_bind_of_denotes left,
        Store.get_bind_of_find?_eq_none missing, settle, failure]
      rfl
    · exact found i j p q rfl rfl left right

end Handles

theorem course (session : Session) (diagnosing : call.isLook = false) : Course session call := by
  cases call with
  | make x unit =>
      obtain ⟨cause, failed, fault⟩ | ⟨bytes, text, rfl, decoded⟩ := unitText_cases unit
      · refine .fault (fault _ rfl) ?_
        simp only [run, Call.effect, failed]
        rfl
      · exact .asks (.make x decoded)
  | unitless x => exact .asks (.unitless x)
  | clone v =>
      obtain missing | ⟨i, q, rfl, h⟩ := session.store.find?_cases v
      · refine .fault (Call.argumentFault?_of_missing [] rfl (by simp) missing) ?_
        simp only [run, Call.effect, Store.get, missing]
        rfl
      · exact .asks (.clone h)
  | value v out =>
      refine course_of_get rfl (fun _ => rfl) rfl ?_
      rintro i q rfl h
      exact .asks (.value h out)
  | valueIn v unit out =>
      refine course_of_get rfl (fun _ => rfl) rfl ?_
      rintro i q rfl h
      obtain ⟨cause, failed, fault⟩ | ⟨bytes, text, rfl, decoded⟩ := unitText_cases unit
      · have found : session.store.find? (some i) = some q := h
        have atUnit := fault (.valueIn (some i) unit out) rfl
        refine @Course.fault _ _ cause ?_ ?_
        · simp [Call.argumentFault?, Call.missing?, Call.handles, found, atUnit]
        · simp only [run, Call.effect, Store.get_bind_of_denotes h, failed]
          rfl
      · exact .asks (.valueIn h decoded out)
  | isUnitless v out =>
      refine course_of_get rfl (fun _ => rfl) rfl ?_
      rintro i q rfl h
      exact .asks (.isUnitless h out)
  | baseUnits v out =>
      refine course_of_get rfl (fun _ => rfl) rfl ?_
      rintro i q rfl h
      exact .asks (.baseUnits h out)
  | binary op a b out =>
      refine course_of_get_get rfl (fun _ => rfl) rfl ?_
      rintro i j p q rfl rfl left right
      exact .asks (.binary op left right out)
  | unary op v out =>
      refine course_of_get rfl (fun _ => rfl) rfl ?_
      rintro i q rfl h
      exact .asks (.unary op h out)
  | scalar op v s out =>
      refine course_of_get rfl (fun _ => rfl) rfl ?_
      rintro i q rfl h
      exact .asks (.scalar op h s out)
  | intPower v n out =>
      refine course_of_get rfl (fun _ => rfl) rfl ?_
      rintro i q rfl h
      exact .asks (.intPower h n out)
  | realPower v exponent out =>
      refine course_of_get rfl (fun _ => rfl) rfl ?_
      rintro i q rfl h
      exact .asks (.realPower h exponent out)
  | arc op x out => exact .asks (.arc op x out)
  | test c a b out =>
      refine course_of_get_get rfl (fun _ => rfl) rfl ?_
      rintro i j p q rfl rfl left right
      exact .asks (.test c left right out)
  | text v buffer =>
      obtain missing | ⟨i, q, rfl, h⟩ := session.store.find?_cases v
      · refine .fault (Call.argumentFault?_of_missing [] rfl (by simp) missing) ?_
        simp only [run, Call.effect, Store.get, missing]
        rfl
      · exact .text buffer h rfl
  | free v => cases diagnosing
  | errorCode => cases diagnosing
  | errorMessage buffer => cases diagnosing
  | version => cases diagnosing
  | abiVersion => cases diagnosing

theorem run_text {i : Nat} {q : Quantity} (h : session.store.Denotes i q)
    (buffer : Option Bytes) :
    session.run (.text (some i) buffer) = (lengthReply q.text buffer, session.keep none none) := by
  have found : session.store.find? (some i) = some q := h
  simp only [run, Call.effect, Store.get, found]
  rfl

theorem record_run_of_isLook (look : call.isLook = true) :
    (session.run call).2.record = session.record := by
  cases call with
  | free | errorCode | errorMessage | version | abiVersion => rfl
  | _ => cases look

def runs (session : Session) (calls : List Call) : Session :=
  calls.foldl (fun session call => (session.run call).2) session

theorem runs_cons (session : Session) (call : Call) (calls : List Call) :
    session.runs (call :: calls) = (session.run call).2.runs calls :=
  rfl

theorem runs_append (session : Session) (calls more : List Call) :
    session.runs (calls ++ more) = (session.runs calls).runs more :=
  List.foldl_append

/-- The session that calls come to from the first on. -/
def after (calls : List Call) : Session :=
  Session.empty.runs calls

theorem after_append_singleton (calls : List Call) (call : Call) :
    after (calls ++ [call]) = ((after calls).run call).2 :=
  runs_append .empty calls [call]

end Session

end Dimensional.Handles
