import Dimensional.Handles.Buffer
import Dimensional.Handles.Status
import Dimensional.Quantity
import Dimensional.Quantity.Operations
import Dimensional.Version

/-!
Sessions of calls through handles.  Call number `i` may make handle `i`, which keeps denoting the
same quantity until it is freed.  A failed call leaves a record of its cause, a successful one
clears it, and looking at the record or freeing a handle does neither.
-/

namespace Dimensional.Handles

/-- A handle argument: none, or the number of the call that made it. -/
abbrev Handle := Option Nat

inductive Call where
  | make (value : Float) (unit : Option Bytes)
  | unitless (value : Float)
  | clone (v : Handle)
  | free (v : Handle)
  | value (v : Handle) (out : Bool)
  | valueIn (v : Handle) (unit : Option Bytes) (out : Bool)
  | isUnitless (v : Handle) (out : Bool)
  | baseUnits (v : Handle) (out : Bool)
  | binary (op : Quantity.Binary) (a b : Handle) (out : Bool)
  | unary (op : Quantity.Unary) (v : Handle) (out : Bool)
  | scalar (op : Quantity.Scalar) (v : Handle) (s : Float) (out : Bool)
  | intPower (v : Handle) (n : Int) (out : Bool)
  | realPower (v : Handle) (exponent : Float) (out : Bool)
  | arc (op : Quantity.Arc) (x : Float) (out : Bool)
  | test (c : Quantity.Comparison) (a b : Handle) (out : Bool)
  | text (v : Handle) (buffer : Option Bytes)
  | errorCode
  | errorMessage (buffer : Option Bytes)
  | version
  | abiVersion

inductive Output where
  | quantity (q : Quantity)
  | number (x : Float)
  | truth (b : Bool)
  | exponents (es : Vector Rat 8)

inductive Reply where
  /-- A new handle, or null. -/
  | handle (made : Bool)
  | status (code : Int) (out : Option Output)
  | length (n : Int) (buffer : Option Bytes)
  | number (n : Int)
  | text (t : String)
  | nothing

abbrev Store := Array (Option Quantity)

structure Session where
  store : Store
  record : Option Cause

namespace Session

def empty : Session :=
  ⟨#[], none⟩

def errorCode (session : Session) : Int :=
  match session.record with
  | some cause => cause.code
  | none => okCode

def errorMessage (session : Session) : String :=
  match session.record with
  | some cause => cause.message
  | none => ""

end Session

namespace Store

def find? (store : Store) (handle : Handle) : Option Quantity :=
  handle.bind fun i => (store[i]?).join

def get (store : Store) (parameter : Parameter) (handle : Handle) : Except Cause Quantity :=
  match store.find? handle with
  | some q => .ok q
  | none => .error (.null parameter)

def free (store : Store) (handle : Handle) : Store :=
  match handle with
  | some i => store.setIfInBounds i none
  | none => store

end Store

def unitText (unit : Option Bytes) : Except Cause String :=
  match unit with
  | none => .error (.null .unit)
  | some bytes =>
      match decodeText? bytes with
      | some text => .ok text
      | none => .error (.notUtf8 .unit)

def settled {α : Type} (outcome : Except Failure α) : Except Cause α :=
  match outcome with
  | .ok a => .ok a
  | .error f => .error (.refused f)

/-- An out-pointer is looked at only when there is something to write through it. -/
def written (out : Bool) (outcome : Except Cause Output) : Except Cause Output :=
  match outcome with
  | .error cause => .error cause
  | .ok output => if out then .ok output else .error (.null .out)

/-- What a call computes, and how its outcome is handed over. -/
inductive Effect where
  | handle (outcome : Except Cause Quantity)
  | output (outcome : Except Cause Output)
  | text (outcome : Except Cause String) (buffer : Option Bytes)
  /-- Leaves the record alone. -/
  | look (reply : Reply)
  | free (handle : Handle)

def lengthReply (text : String) (buffer : Option Bytes) : Reply :=
  .length (reportedLength (textBytes text)) (buffer.map (copyInto (textBytes text)))

namespace Call

def effect (session : Session) : Call → Effect
  | make x unit => .handle do
      let unit ← unitText unit
      settled (Quantity.ofUnit x unit)
  | unitless x => .handle (.ok (Quantity.unitless x))
  | clone v => .handle (session.store.get .v v)
  | free v => .free v
  | value v out => .output <| written out do
      let q ← session.store.get .v v
      return .number q.value
  | valueIn v unit out => .output <| written out do
      let q ← session.store.get .v v
      let unit ← unitText unit
      return .number (← settled (q.valueIn unit))
  | isUnitless v out => .output <| written out do
      let q ← session.store.get .v v
      return .truth q.isUnitless
  | baseUnits v out => .output <| written out do
      let q ← session.store.get .v v
      return .exponents q.dimension.exponents
  | binary op a b out => .output <| written out do
      let p ← session.store.get .a a
      let q ← session.store.get .b b
      return .quantity (← settled (op.apply p q))
  | unary op v out => .output <| written out do
      let q ← session.store.get .v v
      return .quantity (← settled (op.apply q))
  | scalar op v s out => .output <| written out do
      let q ← session.store.get .v v
      return .quantity (op.apply q s)
  | intPower v n out => .output <| written out do
      let q ← session.store.get .v v
      return .quantity (← settled (q.intPower n))
  | realPower v exponent out => .output <| written out do
      let q ← session.store.get .v v
      return .quantity (← settled (q.realPower exponent))
  | arc op x out => .output <| written out do
      return .quantity (← settled (op.apply x))
  | test c a b out => .output <| written out do
      let p ← session.store.get .a a
      let q ← session.store.get .b b
      return .truth (← settled (Quantity.test c p q))
  | text v buffer => .text ((session.store.get .v v).map (·.text)) buffer
  | errorCode => .look (.number session.errorCode)
  | errorMessage buffer => .look (lengthReply session.errorMessage buffer)
  | version => .look (.text Dimensional.version)
  | abiVersion => .look (.number 1)

end Call

namespace Session

/-- The session after a call that makes this handle, if any. -/
def keep (session : Session) (made : Option Quantity) (record : Option Cause) : Session :=
  ⟨session.store.push made, record⟩

def madeBy : Output → Option Quantity
  | .quantity q => some q
  | _ => none

def apply (session : Session) : Effect → Reply × Session
  | .handle (.ok q) => (.handle true, session.keep (some q) none)
  | .handle (.error cause) => (.handle false, session.keep none (some cause))
  | .output (.ok output) => (.status okCode (some output), session.keep (madeBy output) none)
  | .output (.error cause) => (.status cause.code none, session.keep none (some cause))
  | .text (.ok text) buffer => (lengthReply text buffer, session.keep none none)
  | .text (.error cause) buffer => (.length cause.code buffer, session.keep none (some cause))
  | .look reply => (reply, session.keep none session.record)
  | .free handle => (.nothing, ⟨(session.store.free handle).push none, session.record⟩)

def run (session : Session) (call : Call) : Reply × Session :=
  session.apply (call.effect session)

def runAll (session : Session) : List Call → List (Reply × Session)
  | [] => []
  | call :: rest =>
      let (reply, next) := session.run call
      (reply, next) :: next.runAll rest

end Session

end Dimensional.Handles
