import MeshOperator.Proofs.StatusWrites
import MeshOperator.Proofs.Unmanaged

/-!
The operator never rewrites what a record declares.

Whatever passes and releases do, and however often they fail half-way, the stored record keeps its
specification as it was written, defaults left out, and its metadata except resource version and
finalizers; of the finalizers it can lose that of the operator. This holds of each call of a careful
client, so of every procedure that obeys, so of any sequence of errands.
-/

namespace MeshOperator

set_option autoImplicit false

/-- Metadata without what the operator may change. -/
def Metadata.lasting (m : Metadata) : Metadata :=
  { m with resourceVersion := none, finalizers := none }

/-! ## Records that declare the same -/

namespace Record

/-- The second record declares what the first one does, and has all its finalizers, perhaps without
that of the operator. -/
structure SameDeclaration (r r' : Record) : Prop where
  spec : r'.spec = r.spec
  metadata : r'.metadata.lasting = r.metadata.lasting
  finalizers : r'.metadata.finalizerList = r.metadata.finalizerList ∨
    r'.metadata.finalizerList = r.metadata.finalizerList.filter (· ≠ operatorFinalizer)

variable {r r' r'' : Record}

theorem SameDeclaration.refl (r : Record) : r.SameDeclaration r := ⟨rfl, rfl, .inl rfl⟩

theorem SameDeclaration.trans (h : r.SameDeclaration r') (h' : r'.SameDeclaration r'') :
    r.SameDeclaration r'' where
  spec := h'.spec.trans h.spec
  metadata := h'.metadata.trans h.metadata
  finalizers := by
    rcases h'.finalizers with hsame | hless
    · rw [hsame]
      exact h.finalizers
    · right
      rcases h.finalizers with hsame | hless'
      · rw [hless, hsame]
      · rw [hless, hless', List.filter_filter]
        simp only [Bool.and_self]

/-- A configuration needs no more of a record than what the operator leaves alone. -/
theorem SameDeclaration.resolve (h : r.SameDeclaration r') :
    Configuration.resolve r' = Configuration.resolve r := by
  have hname : r'.metadata.name = r.metadata.name := (congrArg Metadata.name h.metadata :)
  have hns : r'.metadata.ns = r.metadata.ns := (congrArg Metadata.ns h.metadata :)
  have huid : r'.metadata.uid = r.metadata.uid := (congrArg Metadata.uid h.metadata :)
  simp only [Configuration.resolve, asOwner, hname, hns, huid, h.spec]

theorem sameDeclaration_stage {staged : Record} {phase : Phase} {message : String}
    (h : r.stage phase message = .ok staged) : r.SameDeclaration staged := by
  have hspec : staged.spec = r.spec := by
    unfold stage at h
    split at h
    · split at h
      · cases h
        rfl
      · cases h
    · cases h
      rfl
  refine ⟨hspec, ?_, .inl ?_⟩ <;> rw [metadata_stage h]

theorem sameDeclaration_withoutFinalizer (r : Record) : r.SameDeclaration r.withoutFinalizer :=
  ⟨rfl, rfl, .inr rfl⟩

/-- Whatever the operator makes from a record declares the same. -/
theorem Derived.sameDeclaration {o : Object} (h : r'.Derived o) (hr : ofObject o = .ok r) :
    r.SameDeclaration r' := by
  induction h with
  | read h =>
    cases hr.symm.trans h
    exact .refl r
  | staged _ hs ih => exact ih.trans (sameDeclaration_stage hs)
  | @withoutFinalizer r₁ _ ih => exact ih.trans r₁.sameDeclaration_withoutFinalizer

/-- What is read from an object with this specification and metadata declares the same. -/
theorem sameDeclaration_of_ofObject {o : Object} (h : ofObject o = .ok r')
    (hspec : o.body.find? "spec" = some r.spec.toJson)
    (hmetadata : o.metadata.lasting = r.metadata.lasting)
    (hfinalizers : o.metadata.finalizers = r.metadata.finalizers) : r.SameDeclaration r' := by
  obtain ⟨hread, hdeclared, -⟩ := ofObject_eq_ok.1 h
  rw [hspec, Option.bind_some, r.spec.ofJson?_toJson] at hdeclared
  refine ⟨(Option.some.inj hdeclared).symm, hread ▸ hmetadata, .inl ?_⟩
  rw [hread, Metadata.finalizerList, hfinalizers]
  rfl

end Record

/-! ## Calls and procedures -/

namespace Memory

variable {h : List Effect} {m : Memory} {key : ObjectKey} {r : Record}

theorem Rewritten.sameDeclaration {o o' : Object} (hrewritten : Rewritten m key o o')
    (hr : Record.ofObject o = .ok r) : ∃ r', Record.ofObject o' = .ok r' ∧ r.SameDeclaration r' := by
  have ho : o.IsRecord := ⟨r, hr⟩
  cases hrewritten with
  | same => exact ⟨r, hr, .refl r⟩
  | @whole r₁ hderived =>
    have hreplaced : (m.replaced key r₁.object o).IsRecord :=
      isRecord_replaced m key r₁ ho
    obtain ⟨r', hr'⟩ := isRecord_stamp m hreplaced
    have hsame := hderived.sameDeclaration hr
    -- unique identifier and time of creation come from the stored record, which agrees on them
    have hown : r₁.metadata.lasting = o.metadata.lasting :=
      hsame.metadata.trans (by rw [Record.metadata_of_ofObject hr])
    have huid : o.metadata.uid = r₁.metadata.uid := (congrArg Metadata.uid hown.symm :)
    have hcreation : o.metadata.creationTimestamp = r₁.metadata.creationTimestamp :=
      (congrArg Metadata.creationTimestamp hown.symm :)
    refine ⟨r', hr', hsame.trans (Record.sameDeclaration_of_ofObject hr' ?_ ?_ ?_)⟩
    · unfold replaced
      split
      · exact (Object.spec_withStatusOf _ _).trans r₁.object_spec
      · exact r₁.object_spec
    · unfold replaced
      split <;> simp only [stamp, Metadata.lasting, huid, hcreation] <;> rfl
    · unfold replaced
      split <;> rfl
  | @status r₁ hderived =>
    obtain ⟨r', hr'⟩ := isRecord_stamp m (isRecord_withStatusOf r₁ ho)
    obtain ⟨hmetadata, hspec, -⟩ := Record.ofObject_eq_ok.1 hr
    obtain ⟨hmetadata', hspec', -⟩ := Record.ofObject_eq_ok.1 hr'
    have hread : (m.stamp (o.withStatusOf r₁.object)).body.find? "spec" = o.body.find? "spec" :=
      Object.spec_withStatusOf _ _
    rw [hread, hspec] at hspec'
    refine ⟨r', hr', (Option.some.inj hspec').symm, ?_, .inl ?_⟩
    · rw [hmetadata, hmetadata']
      rfl
    · rw [hmetadata, hmetadata']
      rfl

/-- A procedure of a careful client leaves what a record declares alone, if records are not synced,
whatever is arranged. -/
theorem Run.keeps_declaration {α : Type} {p : Procedure α} {result : List Object → α → Prop}
    {seen : List Object} {synced : ObjectKey → Prop} (hrun : Run h m) (hseen : Witnessed h seen)
    (hspared : ¬synced key) (hobeys : Obeys (Careful synced) result p seen)
    (hstored : Record.StoredAs m key r) :
    ∃ r', Record.StoredAs (p.run Memory.answer m).2 key r' ∧ r.SameDeclaration r' := by
  induction p generalizing h m seen r with
  | done a => exact ⟨r, hstored, .refl r⟩
  | ask c next ih =>
    obtain ⟨o, hget, hr⟩ := hstored
    obtain ⟨o₁, hget₁, hrewritten⟩ := hrun.recorded.rewritten hseen hspared hget hobeys.1
    obtain ⟨r₁, hr₁, hsame⟩ := hrewritten.sameDeclaration hr
    obtain ⟨r₂, hstored₂, hsame₂⟩ := ih _ (hrun.step (.call c)) (hseen.call hrun.recorded c)
      (hobeys.2 _) ⟨o₁, hget₁, hr₁⟩
    exact ⟨r₂, hstored₂, hsame.trans hsame₂⟩

theorem Reachable.keeps_declaration {α : Type} {p : Procedure α} {result : List Object → α → Prop}
    {seen : List Object} (hm : m.Reachable) (hkey : key.type = Record.type)
    (hseen : ∀ x ∈ seen, ∃ key, m.objects.get? key = some x)
    (hobeys : Obeys (Careful NoRecord) result p seen) (hstored : Record.StoredAs m key r) :
    ∃ r', Record.StoredAs (p.run Memory.answer m).2 key r' ∧ r.SameDeclaration r' := by
  obtain ⟨h, hrun⟩ := hm
  refine hrun.keeps_declaration (fun x hx => ?_) (fun hspared => hspared hkey) hobeys hstored
  obtain ⟨other, hget⟩ := hseen x hx
  exact ⟨other, hrun.recorded.mem_history hget⟩

end Memory

/-! ## Releasing all records -/

section Release

variable {synced : ObjectKey → Prop} {seen : List Object}

theorem careful_releaseListed (ns : Option String) (objects : List Object) (released : Nat) :
    Obeys (Careful synced) (OnSuccess anyResult) (releaseListed ns objects released).run seen := by
  induction objects generalizing seen released with
  | nil => exact OnSuccess.ok trivial
  | cons object rest ih =>
    unfold releaseListed
    cases object.key with
    | error defect => exact OnSuccess.error _ _
    | ok key => exact Obeys.attempt_bind anyResult (careful_decommission key) fun _ _ _ _ => ih _

theorem careful_releaseAll (ns : Option String) :
    Obeys (Careful synced) (OnSuccess anyResult) (releaseAll ns).run seen :=
  Obeys.attempt_bind anyResult (Obeys.attempt_ask _ trivial fun _ => trivial)
    fun _ objects _ _ => careful_releaseListed ns objects 0

end Release

/-! ## Errands -/

/-- What the operator can be sent to do. -/
inductive Errand where
  | pass (key : ObjectKey)
  | decommission (key : ObjectKey)
  | releaseAll (ns : Option String)

namespace Errand

/-- The store after an errand, however it ended. A pass is over the default control plane. -/
def apply : Errand → Memory → Memory
  | .pass key, m => ((reconcilePass (Catalogue.controlPlane.map Component.ofSubsystem) key).run.run
      Memory.answer m).2
  | .decommission key, m => ((MeshOperator.decommission key).run.run Memory.answer m).2
  | .releaseAll ns, m => ((MeshOperator.releaseAll ns).run.run Memory.answer m).2

variable {m : Memory} {key : ObjectKey} {r : Record}

theorem reachable (errand : Errand) (hm : m.Reachable) : (errand.apply m).Reachable := by
  cases errand with
  | pass key => exact hm.run _
  | decommission key => exact hm.run _
  | releaseAll ns => exact hm.run _

theorem keeps_declaration (errand : Errand) (hm : m.Reachable) (hkey : key.type = Record.type)
    (hstored : Record.StoredAs m key r) :
    ∃ r', Record.StoredAs (errand.apply m) key r' ∧ r.SameDeclaration r' := by
  cases errand with
  | pass other =>
    exact hm.keeps_declaration hkey (List.forall_mem_nil _)
      (careful_reconcilePass within_controlPlane other) hstored
  | decommission other =>
    exact hm.keeps_declaration hkey (List.forall_mem_nil _) (careful_decommission other) hstored
  | releaseAll ns =>
    exact hm.keeps_declaration hkey (List.forall_mem_nil _) (careful_releaseAll ns) hstored

end Errand

/-- The operation arranges something and leaves the objects alone. -/
def Memory.Operation.Arranges : Operation → Prop
  | .fail _ | .clearFaults | .conflictNext _ _ | .withoutStatus _ | .wait _ => True
  | .call _ | .insert _ | .touch _ => False

theorem Memory.Operation.Arranges.objects {op : Operation} (h : op.Arranges) (m : Memory) :
    (op.apply m).objects = m.objects := by
  cases op with
  | call c => cases h
  | insert object => cases h
  | touch key => cases h
  | _ => rfl

/-- What the store comes to while the operator runs errands, and errors, conflicts and the loss of a
status subresource are arranged between them. -/
inductive Memory.Tended (m : Memory) : Memory → Prop where
  | refl : Tended m m
  | errand {m' : Memory} (errand : Errand) (h : Tended m m') : Tended m (errand.apply m')
  | arranged {m' : Memory} (op : Operation) (hop : op.Arranges) (h : Tended m m') :
      Tended m (op.apply m')

theorem Memory.Tended.reachable {m m' : Memory} (h : Tended m m') (hm : m.Reachable) :
    m'.Reachable := by
  induction h with
  | refl => exact hm
  | errand errand _ ih => exact errand.reachable ih
  | arranged op _ _ ih =>
    obtain ⟨effects, hrun⟩ := ih
    exact ⟨_, hrun.step op⟩

/-- A record that is stored is stored ever after while the operator runs its errands, with the same
specification and the same metadata but for its resource version and the finalizer of the operator,
whether the errands succeed or fail. -/
theorem declaration_kept {m m' : Memory} (hm : m.Reachable) {key : ObjectKey}
    (hkey : key.type = Record.type) {r : Record} (hstored : Record.StoredAs m key r)
    (htended : m.Tended m') : ∃ r', Record.StoredAs m' key r' ∧ r.SameDeclaration r' := by
  induction htended with
  | refl => exact ⟨r, hstored, .refl r⟩
  | errand errand h ih =>
    obtain ⟨r₁, hstored₁, hsame⟩ := ih
    obtain ⟨r₂, hstored₂, hsame₂⟩ := errand.keeps_declaration (h.reachable hm) hkey hstored₁
    exact ⟨r₂, hstored₂, hsame.trans hsame₂⟩
  | arranged op hop _ ih =>
    obtain ⟨r₁, ⟨o, hget, hr₁⟩, hsame⟩ := ih
    exact ⟨r₁, ⟨o, (by rw [hop.objects]; exact hget), hr₁⟩, hsame⟩

/-- A record that is held by a finalizer of somebody else and by that of the operator. -/
def Record.held : Record :=
  { plain none with metadata := { (plain none).metadata with
      finalizers := some ["backup", operatorFinalizer] } }

/-- The record, in a store that does not keep its status apart, with a conflict ahead. -/
def Memory.withHeld : Memory :=
  ((ofRecord .held).withoutStatus Record.type.kind).conflictNext .replace 1

/-- A pass over the record and its release leave its declaration as it is. -/
theorem declaration_kept_withHeld :
    let key := Record.held.key
    let errands := (Errand.releaseAll none).apply ((Errand.pass key).apply .withHeld)
    ∃ r', Record.StoredAs errands key r' ∧
      (Record.held.inserted (.empty .epoch)).SameDeclaration r' := by
  intro key errands
  have hm : Memory.withHeld.Reachable := by
    obtain ⟨effects, hrun⟩ := Memory.reachable_ofRecord .held
    exact ⟨_, (hrun.step (.withoutStatus _)).step (.conflictNext _ _)⟩
  have hstored : Record.StoredAs .withHeld key (Record.held.inserted (.empty .epoch)) :=
    Record.storedAs_ofRecord rfl
  exact declaration_kept hm rfl hstored (.errand _ (.errand _ .refl))

end MeshOperator
