import MeshOperator.Reconcile.Component
import MeshOperator.Reconcile.Status

/-!
Passes over a record.

`reconcilePass` reads a record and brings every component to its desired state. `decommission`
lets go of a record: it takes the finalizer of the operator off and marks the record unmanaged.
`releaseAll` does so with all records of a namespace, or with all there are.
-/

namespace MeshOperator

set_option autoImplicit false

inductive PassOutcome where
  /-- There is no record, or it is being deleted. -/
  | deleted
  /-- The operator does not install this version. -/
  | unsupportedVersion
  /-- The operator has let go of the record. -/
  | unmanaged
  | reconciled
  deriving DecidableEq, Repr

def PassOutcome.text : PassOutcome → String
  | .deleted => "deleted"
  | .unsupportedVersion => "unsupported_version"
  | .unmanaged => "unmanaged"
  | .reconciled => "reconciled"

def fetchRecord (key : ObjectKey) : Attempt ReconcileError (Option Record) := do
  match ← Attempt.find (ReconcileError.store key) key with
  | none => return none
  | some object =>
    match Record.ofObject object with
    | .ok record => return some record
    | .error e => throw (.store key e)

/-- Write the status; the result is the record as it was stored. -/
def setPhase (phase : Phase) (message : String) (record : Record) :
    Attempt ReconcileError Record := do
  let (result, record) ← updateStatus phase message record
  match result with
  | .ok () => return record
  | .error e => throw (.status phase e)

/-! ## Letting go -/

def Record.withoutFinalizer (r : Record) : Record :=
  { r with metadata := { r.metadata with
      finalizers := some (r.metadata.finalizerList.filter (· ≠ operatorFinalizer)) } }

def Record.hasFinalizer (r : Record) : Bool := r.metadata.finalizerList.contains operatorFinalizer

/-- Take the finalizer off, writing the record if it had one. -/
def dropFinalizer (record : Record) : Attempt ReconcileError Record :=
  if record.hasFinalizer then
    match record.withoutFinalizer.toObject with
    | .error e => throw (.store record.key e)
    | .ok object => do
      let written ← Attempt.ask (ReconcileError.store record.key) (.replace object)
      match Record.ofObject written with
      | .ok written => return written
      | .error e => throw (.store record.key e)
  else return record.withoutFinalizer

/-- How letting go of a record ends once it was to be marked. Without finalizers a record that is
being deleted may be gone before it can be marked. -/
def releaseResult (record : Record) (marked : Except StatusError Unit) :
    Except ReconcileError Unit :=
  match marked with
  | .ok () => .ok ()
  | .error (.store (.notFound key)) =>
    if record.metadata.deletionTimestamp.isSome ∧ record.metadata.finalizerList = [] then .ok ()
    else .error (.status .unmanaged (.store (.notFound key)))
  | .error e => .error (.status .unmanaged e)

def release (record : Record) : Attempt ReconcileError Unit := do
  let record ← dropFinalizer record
  let (result, _) ← updateStatus .unmanaged "" record
  Attempt.ofExcept (releaseResult record result)

/-- Let go of the record with this key. Was there one? -/
def decommission (key : ObjectKey) : Attempt ReconcileError Bool := do
  match ← fetchRecord key with
  | none => return false
  | some record =>
    release record
    return true

/-- The key that stands for all records of a namespace. -/
def recordsKey (ns : Option String) : ObjectKey :=
  ⟨Record.type.apiVersion, Record.type.kind, ns, ""⟩

/-- Let go of listed records one after another, counting those that are still there. -/
def releaseListed (ns : Option String) : List Object → Nat → Attempt ReconcileError Nat
  | [], released => return released
  | object :: rest, released =>
    match object.key with
    | .error defect => throw (.store (recordsKey ns) (.invalid defect.text))
    | .ok key => do
      let found ← decommission key
      releaseListed ns rest (if found then released + 1 else released)

def releaseAll (ns : Option String) : Attempt ReconcileError Nat := do
  let objects ← Attempt.ask (ReconcileError.store (recordsKey ns)) (.list Record.type ns)
  releaseListed ns objects 0

/-! ## Passes -/

def reconcileComponents (c : Configuration) : List Component → Attempt ReconcileError Unit
  | [] => return ()
  | component :: rest => do
    let _ ← ExceptT.adapt (ReconcileError.component component.name) (component.reconcile c)
    reconcileComponents c rest

/-- What a pass finds out about a record before it touches anything else. -/
inductive Preparation where
  | ended (outcome : PassOutcome)
  | ready (c : Configuration) (record : Record)

/-- Find out what is to be installed, unless the record is gone, on its way out, let go of, or of a
version that the operator does not install. A record that was never written to is marked. -/
def prepare (key : ObjectKey) : Attempt ReconcileError Preparation := do
  match ← fetchRecord key with
  | none => return .ended .deleted
  | some record =>
    if record.metadata.deletionTimestamp.isSome then
      if record.hasFinalizer then release record
      return .ended .deleted
    else if record.phase = some .unmanaged then return .ended .unmanaged
    else if isSupported record.spec.version then
      match Configuration.resolve record with
      | .error e => throw (.build e)
      | .ok c =>
        if record.phase.isNone then return .ready c (← setPhase .created "" record)
        else return .ready c record
    else return .ended .unsupportedVersion

/-- Run the components for a record that is to be installed. A failure is kept in the status of the
record; if that fails as well, the first failure is what counts. -/
def install (components : List Component) (c : Configuration) (record : Record) :
    Attempt ReconcileError PassOutcome := do
  match ← ExceptT.lift (reconcileComponents c components).run with
  | .error e =>
    let _ ← updateStatus .reconcileFailed e.text record
    throw e
  | .ok () =>
    let _ ← setPhase .available "" record
    return .reconciled

/-- Bring everything that a record declares to its desired state. -/
def reconcilePass (components : List Component) (key : ObjectKey) :
    Attempt ReconcileError PassOutcome := do
  match ← prepare key with
  | .ended outcome => return outcome
  | .ready c record => install components c record

end MeshOperator
