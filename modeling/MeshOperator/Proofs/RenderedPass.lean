import MeshOperator.Catalogue.Rendering
import MeshOperator.Proofs.FailStop
import MeshOperator.Proofs.Settled
import MeshOperator.Proofs.StatusApart

/-!
What is rendered is what a pass creates.

Rendering builds all objects of the control plane before it shows any; a pass builds one and brings
it to the cluster before it builds the next. On a store that holds nothing but the record both come
to the same: the pass creates the rendered objects in their order, and where a production cannot be
built, it creates what comes before and ends with the error that rendering ends with. `Created` is
what some productions of the pass leave, from one production to all; it is put together along the
list, which takes that no key occurs twice.
-/

namespace MeshOperator

set_option autoImplicit false

/-! ## Traversals that stop -/

section Traversals

variable {α β γ ε : Type} {f : α → Except ε β}

theorem map_error_inv {g : β → γ} {r : Except ε β} {e : ε} (h : r.map g = .error e) :
    r = .error e := by
  cases r with
  | ok b => cases h
  | error e' =>
    cases h
    rfl

/-- A traversal fails at the first item that does. -/
theorem mapM_error_inv {items : List α} {e : ε} (h : items.mapM f = .error e) :
    ∃ before a after bs, items = before ++ a :: after ∧ before.mapM f = .ok bs ∧ f a = .error e := by
  induction items with
  | nil => cases h
  | cons a rest ih =>
    cases ha : f a with
    | error e' =>
      rw [List.mapM_cons, ha] at h
      cases h
      exact ⟨[], a, rest, [], rfl, rfl, ha⟩
    | ok b =>
      cases hrest : rest.mapM f with
      | ok bs =>
        cases (mapM_cons_of_ok ha hrest).symm.trans h
      | error e' =>
        rw [List.mapM_cons, ha, hrest] at h
        cases h
        obtain ⟨before, x, after, bs, rfl, hbefore, hx⟩ := ih hrest
        exact ⟨a :: before, x, after, b :: bs, rfl, mapM_cons_of_ok ha hbefore, hx⟩

theorem mapM_append_ok {xs ys : List α} {bs cs : List β} (hxs : xs.mapM f = .ok bs)
    (hys : ys.mapM f = .ok cs) : (xs ++ ys).mapM f = .ok (bs ++ cs) := by
  rw [List.mapM_append, hxs, hys]
  rfl

theorem mapM_map_result (g : β → γ) (items : List α) :
    (items.mapM fun a => (f a).map g) = (items.mapM f).map (List.map g) := by
  induction items with
  | nil => rfl
  | cons a rest ih =>
    rw [List.mapM_cons, List.mapM_cons, ih]
    cases f a with
    | error e => rfl
    | ok b => cases rest.mapM f <;> rfl

theorem mapM_congr_result {g : α → Except ε β} {items : List α} (h : ∀ a ∈ items, f a = g a) :
    items.mapM f = items.mapM g := by
  induction items with
  | nil => rfl
  | cons a rest ih =>
    obtain ⟨ha, hrest⟩ := List.forall_mem_cons.1 h
    rw [List.mapM_cons, List.mapM_cons, ha, ih hrest]

end Traversals

/-! ## The productions of the control plane -/

/-- The objects that the productions make, in order. -/
def Production.buildAll (c : Configuration) (ps : List Production) :
    Except BuildError (List Managed) := ps.mapM fun p => p.build c

/-- The productions in order, each with the name of its subsystem. -/
def Subsystem.named (s : Subsystem) : List (String × Production) :=
  s.productions.map fun p => (s.name, p)

namespace Catalogue

def productions : List (String × Production) := controlPlane.flatMap Subsystem.named

theorem present_controlPlane :
    ∀ s ∈ controlPlane, ∀ p ∈ s.productions, s.effectiveState p = .present := by
  simp only [controlPlane, List.forall_mem_cons, Controller.subsystem, Destination.subsystem,
    Heartbeat.subsystem, Identity.subsystem, Prometheus.subsystem, ProxyInjector.subsystem,
    Web.subsystem, Tap.subsystem, SecurityPolicy.subsystem, Production.always, Production.present,
    Subsystem.effectiveState, Existence.combine, List.not_mem_nil, false_implies, implies_true,
    and_self]

theorem makes_named {subsystems : List Subsystem} {rows : List (List (Kind × String))}
    (h : List.Forall₂ Subsystem.Makes subsystems rows) :
    List.Forall₂ (fun q n => q.2.Makes n) (subsystems.flatMap Subsystem.named) rows.flatten := by
  induction h with
  | nil => exact .nil
  | @cons s row _ _ hs _ ih =>
    have hrow : List.Forall₂ (fun q n => q.2.Makes n) s.named row :=
      List.forall₂_map_left_iff.2 hs
    rw [List.flatMap_cons, List.flatten_cons]
    exact List.rel_append hrow ih

theorem names_of_named {c : Configuration} {qs : List (String × Production)}
    {row : List (Kind × String)} (h : List.Forall₂ (fun q n => q.2.Makes n) qs row)
    {built : List Managed} (hbuilt : (qs.mapM fun q => q.2.build c) = .ok built) :
    built.map (fun d => (d.key.type, d.key.name)) = row.map fun n => (n.1.type, n.2) := by
  induction h generalizing built with
  | nil =>
    cases hbuilt
    rfl
  | cons hq _ ih =>
    obtain ⟨d, others, hd, hothers, rfl⟩ := mapM_cons_ok hbuilt
    exact List.cons_eq_cons.2 ⟨hq c d hd, ih hothers⟩

/-- What the first productions make has keys of its own, and none of them is that of a record. -/
theorem keys_of_productions {c : Configuration} {before after : List (String × Production)}
    (hsplit : productions = before ++ after) {built : List Managed}
    (hbuilt : (before.mapM fun q => q.2.build c) = .ok built) :
    (built.map (·.key)).Nodup ∧ ∀ d ∈ built, d.key.type ≠ Record.type := by
  have hmakes := List.forall₂_take before.length (makes_named makes_controlPlane)
  have htake : (controlPlane.flatMap Subsystem.named).take before.length = before := by
    rw [← productions, hsplit, List.take_left]
  rw [htake] at hmakes
  have hnames := names_of_named hmakes hbuilt
  have htable : (table.flatten.map fun n => (n.1.type, n.2)).Nodup := by decide +kernel
  have hrecord : ∀ n ∈ table.flatten, n.1.type ≠ Record.type := by decide
  constructor
  · have hall : ((built.map (·.key)).map fun k => (k.type, k.name)).Nodup := by
      rw [List.map_map]
      exact hnames ▸ ((List.take_sublist _ _).map _).nodup htable
    exact List.Pairwise.of_map _
      (fun _ _ hne heq => hne (congrArg (fun k => (k.type, k.name)) heq)) hall
  · intro d hd hd'
    have hname : (d.key.type, d.key.name) ∈
        (table.flatten.take before.length).map fun n => (n.1.type, n.2) :=
      hnames ▸ List.mem_map.2 ⟨d, hd, rfl⟩
    obtain ⟨n, hn, heq⟩ := List.mem_map.1 hname
    exact hrecord n (List.mem_of_mem_take hn) ((congrArg Prod.fst heq).trans hd')

/-- A subsystem all of which is to exist renders what its productions make. -/
theorem render_of_present (c : Configuration) {s : Subsystem}
    (hpresent : ∀ p ∈ s.productions, s.effectiveState p = .present) :
    s.render c = (Production.buildAll c s.productions).map (List.map fun d => (d, .present)) := by
  rw [Production.buildAll, ← mapM_map_result]
  exact mapM_congr_result fun p hp => by rw [hpresent p hp]

theorem renderPresent_eq (c : Configuration) {s : Subsystem}
    (hpresent : ∀ p ∈ s.productions, s.effectiveState p = .present) :
    renderPresent c s = (Production.buildAll c s.productions).mapError (.unbuildable s.name) := by
  unfold renderPresent
  rw [render_of_present c hpresent]
  cases Production.buildAll c s.productions with
  | error e => rfl
  | ok built => simp [Except.map, Except.mapError, List.filter_map, Function.comp_def]

end Catalogue

/-! ## What is created -/

/-- The objects differ at most in what the store assigns. -/
structure Object.SameButAssigned (o o' : Object) : Prop where
  type : o'.type = o.type
  metadata : o'.metadata.unassigned = o.metadata.unassigned
  body : o'.body = o.body

namespace Memory

/-- The keys under which something was created, the oldest first. -/
def creates (m : Memory) : List ObjectKey :=
  (m.journal.filter fun e => e.verb = .create).map (·.key)

theorem creates_write_create (m : Memory) (key : ObjectKey) (x : Object) :
    (m.write .create key x).2.creates = m.creates ++ [key] := by
  simp [creates, write]

theorem creates_write_ne (m : Memory) {verb : Verb} (h : verb ≠ .create) (key : ObjectKey)
    (x : Object) : (m.write verb key x).2.creates = m.creates := by
  simp [creates, write, h]

theorem sameButAssigned_created (m m' : Memory) {key : ObjectKey}
    (hkind : key.type ≠ Record.type) (x : Object) :
    x.SameButAssigned (m'.stamp (m.created key x)) := by
  rw [created, if_neg (not_hasStatusSubresource hkind)]
  exact ⟨rfl, rfl, rfl⟩

/-- These objects were created in this order, and nothing else has changed. -/
structure Created (docs : List Managed) (m m' : Memory) : Prop where
  quiet : m'.Quiet
  creates : m'.creates = m.creates ++ docs.map (·.key)
  stored : ∀ d ∈ docs, ∃ x, m'.objects.get? d.key = some x ∧ d.object.SameButAssigned x
  frame : ∀ key, key ∉ docs.map (·.key) → m'.objects.get? key = m.objects.get? key

namespace Created

variable {m m₁ m₂ : Memory} {docs others : List Managed}

theorem nil (hq : m.Quiet) : Created [] m m :=
  ⟨hq, (List.append_nil _).symm, by simp, fun _ _ => rfl⟩

theorem append (h : Created docs m m₁) (h' : Created others m₁ m₂)
    (hnodup : ((docs ++ others).map (·.key)).Nodup) : Created (docs ++ others) m m₂ where
  quiet := h'.quiet
  creates := by rw [h'.creates, h.creates, List.map_append, List.append_assoc]
  stored := by
    rw [List.map_append, List.nodup_append] at hnodup
    intro d hd
    rcases List.mem_append.1 hd with hd | hd
    · obtain ⟨x, hget, hx⟩ := h.stored d hd
      refine ⟨x, (h'.frame d.key fun hmem => ?_).trans hget, hx⟩
      exact hnodup.2.2 _ (List.mem_map.2 ⟨d, hd, rfl⟩) _ hmem rfl
    · exact h'.stored d hd
  frame := by
    intro key hkey
    rw [List.map_append, List.mem_append, not_or] at hkey
    exact (h'.frame key hkey.2).trans (h.frame key hkey.1)

end Created

end Memory

open Memory

/-- These objects have keys of their own under which the store has nothing, and are no records. -/
structure Memory.Missing (docs : List Managed) (m : Memory) : Prop where
  nodup : (docs.map (·.key)).Nodup
  kind : ∀ d ∈ docs, d.key.type ≠ Record.type
  absent : ∀ d ∈ docs, m.objects.get? d.key = none

namespace Memory.Missing

variable {m m₁ : Memory} {docs others : List Managed}

theorem left (h : Missing (docs ++ others) m) : Missing docs m where
  nodup := by
    have hnodup := h.nodup
    rw [List.map_append] at hnodup
    exact (List.nodup_append.1 hnodup).1
  kind := fun d hd => h.kind d (List.mem_append_left _ hd)
  absent := fun d hd => h.absent d (List.mem_append_left _ hd)

/-- The others are still missing once the first ones were created. -/
theorem right (h : Missing (docs ++ others) m) (hcreated : Created docs m m₁) :
    Missing others m₁ := by
  have hnodup := h.nodup
  rw [List.map_append, List.nodup_append] at hnodup
  refine ⟨hnodup.2.1, fun d hd => h.kind d (List.mem_append_right _ hd), fun d hd => ?_⟩
  refine (hcreated.frame d.key fun hmem => ?_).trans (h.absent d (List.mem_append_right _ hd))
  exact hnodup.2.2 _ hmem _ (List.mem_map.2 ⟨d, hd, rfl⟩) rfl

theorem created {d : Managed} (h : Missing [d] m) (hq : m.Quiet) :
    Created [d] m ({ m with issued := m.issued + 1 }.write .create d.key
      (m.created d.key d.object)).2 where
  quiet := ⟨hq.faults, hq.conflicts⟩
  creates := creates_write_create _ _ _
  stored := by
    intro d' hd'
    cases List.mem_singleton.1 hd'
    have hkind := h.kind d (List.mem_singleton_self d)
    exact ⟨_, SortedMap.get?_insert_self _ _, sameButAssigned_created m m hkind d.object⟩
  frame := fun key hkey => SortedMap.get?_insert_ne _ _ (by simpa using hkey)

end Memory.Missing

section Passes

variable {m : Memory} {c : Configuration}

theorem reconcileOne_created {s : Subsystem} {p : Production} {d : Managed} (hq : m.Quiet)
    (hbuild : p.build c = .ok d) (hpresent : s.effectiveState p = .present)
    (hmissing : Missing [d] m) :
    ∃ m', (s.reconcileOne c p).run.run Memory.answer m = (.ok .created, m') ∧
      Created [d] m m' := by
  refine ⟨_, run_built (r := .ok .created) hbuild ?_, hmissing.created hq⟩
  rw [hpresent]
  exact ensurePresent_missing hq d (hmissing.absent d (List.mem_singleton_self d))

/-- The first productions create what they make, and the run goes on with the rest. -/
theorem reconcileProductions_created (s : Subsystem) {done : List Production}
    (rest : List Production) {docs : List Managed} (hq : m.Quiet)
    (hbuild : Production.buildAll c done = .ok docs)
    (hpresent : ∀ p ∈ done, s.effectiveState p = .present) (hmissing : Missing docs m)
    (report : ComponentReport) :
    ∃ report' m', Created docs m m' ∧
      (s.reconcileProductions c (done ++ rest) report).run.run Memory.answer m =
        (s.reconcileProductions c rest report').run.run Memory.answer m' := by
  induction done generalizing m docs report with
  | nil =>
    cases hbuild
    exact ⟨report, m, .nil hq, rfl⟩
  | cons p done ih =>
    obtain ⟨d, others, hd, hothers, rfl⟩ := mapM_cons_ok hbuild
    obtain ⟨hp, hdone⟩ := List.forall_mem_cons.1 hpresent
    have hsplit : Missing ([d] ++ others) m := hmissing
    obtain ⟨m₁, hone, hcreated⟩ := reconcileOne_created hq hd hp hsplit.left
    obtain ⟨report', m₂, hcreated', hrest⟩ := ih hcreated.quiet hothers hdone
      (hsplit.right hcreated) (report.record .created)
    exact ⟨report', m₂, hcreated.append hcreated' hsplit.nodup,
      (Attempt.run_bind_ok hone).trans hrest⟩

/-- The first subsystems create what they render. -/
theorem succeeded_created {subsystems : List Subsystem} {docs : List (List Managed)}
    (hq : m.Quiet) (hrender : subsystems.mapM (Catalogue.renderPresent c) = .ok docs)
    (hpresent : ∀ s ∈ subsystems, ∀ p ∈ s.productions, s.effectiveState p = .present)
    (hmissing : Missing docs.flatten m) :
    ∃ calls m', Succeeded Memory.answer c (subsystems.map Component.ofSubsystem) m calls m' ∧
      Created docs.flatten m m' := by
  induction subsystems generalizing m docs with
  | nil =>
    cases hrender
    exact ⟨[], m, .nil m, .nil hq⟩
  | cons s rest ih =>
    obtain ⟨own, others, hown, hothers, rfl⟩ := mapM_cons_ok hrender
    obtain ⟨hs, hrest⟩ := List.forall_mem_cons.1 hpresent
    rw [Catalogue.renderPresent_eq c hs] at hown
    rw [List.flatten_cons] at hmissing ⊢
    cases hbuild : Production.buildAll c s.productions with
    | error e =>
      rw [hbuild] at hown
      cases hown
    | ok built =>
      rw [hbuild] at hown
      cases hown
      obtain ⟨report, m₁, hcreated, hrun⟩ :=
        reconcileProductions_created s [] hq hbuild hs hmissing.left .none
      rw [List.append_nil] at hrun
      obtain ⟨calls, m₂, hsucceeded, hcreated'⟩ :=
        ih hcreated.quiet hothers hrest (hmissing.right hcreated)
      exact ⟨_, m₂, .cons hrun hsucceeded, hcreated.append hcreated' hmissing.nodup⟩

theorem Succeeded.run {σ : Type} {answer : (c : Call) → σ → c.Answer × σ}
    {components : List Component} {s s' : σ} {calls : List Call}
    (h : Succeeded answer c components s calls s') :
    (reconcileComponents c components).run.run answer s = (.ok (), s') := by
  induction h with
  | nil s => rfl
  | @cons component rest s s₁ s₂ calls report hrun _ ih =>
    have hfirst := Attempt.run_adapt (ReconcileError.component component.name) hrun
    exact (Attempt.run_bind_ok hfirst).trans ih

end Passes

/-! ## Keeping the status creates nothing -/

section Statuses

variable {m m' : Memory} {key : ObjectKey} {r : Record} {phase : Phase} {message : String}

theorem creates_updateStatus (hm : m.Reachable) (phase : Phase) (message : String) (r : Record) :
    ((updateStatus phase message r).run Memory.answer m).2.creates = m.creates := by
  have hstep := updateStatus_step hm phase message r
  generalize (updateStatus phase message r).run Memory.answer m = result at hstep
  cases hstep with
  | foiled e last f _ => rfl
  | wrote f _ _ _ =>
    have hverb : m.statusVerb r.key ≠ .create := by
      unfold statusVerb
      split <;> simp
    exact creates_write_ne { m with conflicts := f } hverb r.key _

theorem creates_setPhase (hm : m.Reachable) {written : Record}
    (h : (setPhase phase message r).run.run Memory.answer m = (.ok written, m')) :
    m'.creates = m.creates := by
  have hupdate := creates_updateStatus hm phase message r
  unfold setPhase at h
  rw [Attempt.run_lift_bind, Dialogue.run_bind] at h
  generalize (updateStatus phase message r).run Memory.answer m = result at h hupdate
  obtain ⟨⟨result, record⟩, m₁⟩ := result
  cases result with
  | ok _ =>
    cases h
    exact hupdate
  | error e => cases h

theorem creates_prepare (hm : m.Reachable) {c : Configuration}
    (h : (prepare key).run.run Memory.answer m = (.ok (.ready c r), m')) :
    m'.creates = m.creates := by
  cases prepare_cases h with
  | marked _ _ _ _ _ hset => exact creates_setPhase hm hset
  | known _ _ _ _ _ _ => rfl

end Statuses

/-! ## The pass -/

/-- On a store that held nothing but the object with this key, these objects were created in this
order and are there, and there is nothing else. -/
structure Memory.Made (key : ObjectKey) (docs : List Managed) (m m' : Memory) : Prop where
  creates : m'.creates = m.creates ++ docs.map (·.key)
  stored : ∀ d ∈ docs, ∃ x, m'.objects.get? d.key = some x ∧ d.object.SameButAssigned x
  others : ∀ other, other ≠ key → other ∉ docs.map (·.key) → m'.objects.get? other = none

section Passes

variable {m m₁ m₂ m₃ : Memory} {key : ObjectKey} {docs : List Managed}

theorem key_not_mem (hkey : key.type = Record.type) (hkind : ∀ d ∈ docs, d.key.type ≠ Record.type) :
    key ∉ docs.map (·.key) := by
  intro hmem
  obtain ⟨d, hd, rfl⟩ := List.mem_map.1 hmem
  exact hkind d hd hkey

theorem missing_of_only (honly : ∀ other, other ≠ key → m.objects.get? other = none)
    (hkey : key.type = Record.type)
    (hkeys : (docs.map (·.key)).Nodup ∧ ∀ d ∈ docs, d.key.type ≠ Record.type) : Missing docs m :=
  ⟨hkeys.1, hkeys.2, fun d hd => honly _ fun heq => hkeys.2 d hd (heq ▸ hkey)⟩

/-- What was done to the record before and after does not count. -/
theorem made_of_created (honly : ∀ other, other ≠ key → m.objects.get? other = none)
    (hkey : key.type = Record.type) (hkind : ∀ d ∈ docs, d.key.type ≠ Record.type)
    (hbefore : Touched key m m₁) (hnone : m₁.creates = m.creates) (hcreated : Created docs m₁ m₂)
    (hafter : Touched key m₂ m₃) (hnone' : m₃.creates = m₂.creates) : Made key docs m m₃ where
  creates := by rw [hnone', hcreated.creates, hnone]
  stored := by
    intro d hd
    obtain ⟨x, hget, hx⟩ := hcreated.stored d hd
    exact ⟨x, (hafter.frame _ fun heq : d.key = key => hkind d hd (heq ▸ hkey)).trans hget, hx⟩
  others := by
    intro other hother hmem
    exact (hafter.frame _ hother).trans ((hcreated.frame _ hmem).trans
      ((hbefore.frame _ hother).trans (honly _ hother)))

end Passes

namespace Catalogue

variable {c : Configuration}

/-- What is rendered is what the productions make, one after another. -/
theorem built_of_rendered {subsystems : List Subsystem} {docs : List (List Managed)}
    (hrender : subsystems.mapM (renderPresent c) = .ok docs)
    (hpresent : ∀ s ∈ subsystems, ∀ p ∈ s.productions, s.effectiveState p = .present) :
    ((subsystems.flatMap Subsystem.named).mapM fun q => q.2.build c) = .ok docs.flatten := by
  induction subsystems generalizing docs with
  | nil =>
    cases hrender
    rfl
  | cons s rest ih =>
    obtain ⟨own, others, hown, hothers, rfl⟩ := mapM_cons_ok hrender
    obtain ⟨hs, hrest⟩ := List.forall_mem_cons.1 hpresent
    rw [renderPresent_eq c hs] at hown
    cases hbuild : Production.buildAll c s.productions with
    | error e =>
      rw [hbuild] at hown
      cases hown
    | ok built =>
      rw [hbuild] at hown
      have hsame : built = own := Except.ok.inj hown
      subst hsame
      have hnamed : (s.named.mapM fun q => q.2.build c) = .ok built := by
        rw [Subsystem.named, List.mapM_map]
        exact hbuild
      rw [List.flatMap_cons, List.flatten_cons]
      exact mapM_append_ok hnamed (ih hothers hrest)

/-- Rendering the control plane fails with its first production that cannot be built. -/
theorem rendered_error {error : RenderError}
    (h : controlPlane.mapM (renderPresent c) = .error error) :
    ∃ before s after docs done p rest built e, controlPlane = before ++ s :: after ∧
      before.mapM (renderPresent c) = .ok docs ∧ s.productions = done ++ p :: rest ∧
        Production.buildAll c done = .ok built ∧ p.build c = .error e ∧
          error = .unbuildable s.name e := by
  obtain ⟨before, s, after, docs, hsplit, hbefore, hs⟩ := mapM_error_inv h
  have hmem : s ∈ controlPlane := hsplit ▸ List.mem_append_right _ List.mem_cons_self
  rw [renderPresent_eq c (present_controlPlane s hmem)] at hs
  cases hbuild : Production.buildAll c s.productions with
  | ok built =>
    rw [hbuild] at hs
    cases hs
  | error e =>
    rw [hbuild] at hs
    cases hs
    obtain ⟨done, p, rest, built, hprods, hdone, hp⟩ := mapM_error_inv hbuild
    exact ⟨before, s, after, docs, done, p, rest, built, e, hsplit, hbefore, hprods, hdone, hp, rfl⟩

theorem productions_split {before after : List Subsystem} {s : Subsystem}
    {done rest : List Production} {p : Production} (hsplit : controlPlane = before ++ s :: after)
    (hprods : s.productions = done ++ p :: rest) :
    productions = (before.flatMap Subsystem.named ++ done.map fun p => (s.name, p)) ++
      (s.name, p) :: ((rest.map fun p => (s.name, p)) ++ after.flatMap Subsystem.named) := by
  have hnamed : s.named = (done.map fun p => (s.name, p)) ++ (s.name, p) ::
      rest.map fun p => (s.name, p) := by
    rw [Subsystem.named, hprods, List.map_append, List.map_cons]
  rw [productions, hsplit, List.flatMap_append, List.flatMap_cons, hnamed]
  simp only [List.append_assoc, List.cons_append]

theorem render_eq {r : Record} (hversion : isSupported r.spec.version = true)
    (hresolve : Configuration.resolve r = .ok c) :
    render false r = (controlPlane.mapM (renderPresent c)).map List.flatten := by
  unfold render
  rw [if_pos hversion, hresolve]
  simp only [Bool.false_eq_true, if_false, List.append_nil]

end Catalogue

/-! ## Rendering and the pass -/

section Passes

variable {m : Memory} {c : Configuration}

/-- The components before the one that cannot go on create what they render, and that one creates
what its first productions make. -/
theorem components_stop {before : List Subsystem} {s : Subsystem} {docs : List (List Managed)}
    {done rest : List Production} {p : Production} {built : List Managed} {e : BuildError}
    (hq : m.Quiet) (hbefore : before.mapM (Catalogue.renderPresent c) = .ok docs)
    (hpresent : ∀ s ∈ before, ∀ p ∈ s.productions, s.effectiveState p = .present)
    (hprods : s.productions = done ++ p :: rest) (hdone : Production.buildAll c done = .ok built)
    (hdonePresent : ∀ p ∈ done, s.effectiveState p = .present) (hp : p.build c = .error e)
    (hmissing : Missing (docs.flatten ++ built) m) :
    ∃ calls m₁ m₂, Succeeded Memory.answer c (before.map Component.ofSubsystem) m calls m₁ ∧
      ((Component.ofSubsystem s).reconcile c).run.run Memory.answer m₁ =
        (.error (.build p.resource e), m₂) ∧ Created (docs.flatten ++ built) m m₂ := by
  obtain ⟨calls, m₁, hsucceeded, hcreated⟩ := succeeded_created hq hbefore hpresent hmissing.left
  obtain ⟨report, m₂, hcreated', hrun⟩ := reconcileProductions_created s (p :: rest)
    hcreated.quiet hdone hdonePresent (hmissing.right hcreated) .none
  refine ⟨calls, m₁, m₂, hsucceeded, ?_, hcreated.append hcreated' hmissing.nodup⟩
  show (s.reconcileProductions c s.productions .none).run.run Memory.answer m₁ = _
  rw [hprods, hrun]
  exact Attempt.run_bind_error (run_unbuilt hp)

/-- An installation that ends with a failed component marks the record and creates nothing more. -/
theorem install_stops {m₁ m₂ : Memory} {key : ObjectKey} {r : Record} {before : List Component}
    {component : Component} {calls : List Call} {e : ComponentError} (hm : m.Reachable)
    (hkey : key.type = Record.type) (after : List Component)
    (hbefore : Succeeded Memory.answer c before m calls m₁)
    (hfail : (component.reconcile c).run.run Memory.answer m₁ = (.error e, m₂)) (hq : m₂.Quiet)
    (hstored : Record.StoredAs m₂ key r) (hphase : r.phase ≠ some .unmanaged) :
    ∃ m', (install (before ++ component :: after) c r).run.run Memory.answer m =
        (.error (.component component.name e), m') ∧
      Touched key m₂ m' ∧ m'.creates = m₂.creates := by
  let error := ReconcileError.component component.name e
  have hm₂ := (hbefore.reachable hm).of_run hfail
  obtain ⟨hinstall, -⟩ := install_error r after hbefore hfail
  obtain ⟨written, m', hmark, htouched, -, -⟩ :=
    updateStatus_quiet hq hm₂ hkey hstored hphase .reconcileFailed error.text
  have hnone := creates_updateStatus hm₂ .reconcileFailed error.text r
  rw [hmark] at hnone
  rw [markFailed, hmark] at hinstall
  exact ⟨m', hinstall, htouched, hnone⟩

/-- An installation of what can be rendered creates it. -/
theorem install_creates {key : ObjectKey} {r : Record} {docs : List (List Managed)}
    (hm : m.Reachable) (hq : m.Quiet) (hkey : key.type = Record.type)
    (honly : ∀ other, other ≠ key → m.objects.get? other = none)
    (hstored : Record.StoredAs m key r) (hphase : r.phase ≠ some .unmanaged)
    (hrender : Catalogue.controlPlane.mapM (Catalogue.renderPresent c) = .ok docs) :
    ∃ m₁ m', (install (Catalogue.controlPlane.map Component.ofSubsystem) c r).run.run
        Memory.answer m = (.ok .reconciled, m') ∧
      (∀ d ∈ docs.flatten, d.key.type ≠ Record.type) ∧ Created docs.flatten m m₁ ∧
      Touched key m₁ m' ∧ m'.creates = m₁.creates := by
  have hbuilt := Catalogue.built_of_rendered hrender Catalogue.present_controlPlane
  have hkeys := Catalogue.keys_of_productions (List.append_nil _).symm hbuilt
  obtain ⟨calls, m₁, hsucceeded, hcreated⟩ := succeeded_created hq hrender
    Catalogue.present_controlPlane (missing_of_only honly hkey hkeys)
  have hm₁ := hsucceeded.reachable hm
  have hstored₁ := hstored.congr (hcreated.frame key (key_not_mem hkey hkeys.2))
  obtain ⟨written, m', hset, htouched, -, -⟩ :=
    setPhase_quiet hcreated.quiet hm₁ hkey hstored₁ hphase .available ""
  exact ⟨m₁, m', run_install hsucceeded.run hset, hkeys.2, hcreated, htouched,
    creates_setPhase hm₁ hset⟩

/-- An installation of what cannot be rendered creates what comes before the production that cannot
be built. -/
theorem install_fails {key : ObjectKey} {r : Record} {error : RenderError}
    (hm : m.Reachable) (hq : m.Quiet) (hkey : key.type = Record.type)
    (honly : ∀ other, other ≠ key → m.objects.get? other = none)
    (hstored : Record.StoredAs m key r) (hphase : r.phase ≠ some .unmanaged)
    (hrender : Catalogue.controlPlane.mapM (Catalogue.renderPresent c) = .error error) :
    ∃ before name p after built e m₁ m', Catalogue.productions = before ++ (name, p) :: after ∧
      (before.mapM fun q => q.2.build c) = .ok built ∧ p.build c = .error e ∧
      error = .unbuildable name e ∧
      (install (Catalogue.controlPlane.map Component.ofSubsystem) c r).run.run Memory.answer m =
        (.error (.component name (.build p.resource e)), m') ∧
      (∀ d ∈ built, d.key.type ≠ Record.type) ∧ Created built m m₁ ∧ Touched key m₁ m' ∧
      m'.creates = m₁.creates := by
  obtain ⟨before, s, after, rendered, done, p, rest, built, e, hsplit, hbefore, hprods, hdone, hp,
    rfl⟩ := Catalogue.rendered_error hrender
  have hpresent := Catalogue.present_controlPlane
  rw [hsplit] at hpresent
  obtain ⟨hpresent, hpresent'⟩ := List.forall_mem_append.1 hpresent
  have hs := (List.forall_mem_cons.1 hpresent').1
  rw [hprods, List.forall_mem_append] at hs
  have hflat := Catalogue.productions_split hsplit hprods
  have hnamed : ((done.map fun p => (s.name, p)).mapM fun q => q.2.build c) = .ok built := by
    rw [List.mapM_map]
    exact hdone
  have hbuilt := mapM_append_ok (Catalogue.built_of_rendered hbefore hpresent) hnamed
  have hkeys := Catalogue.keys_of_productions hflat hbuilt
  obtain ⟨calls, m₁, m₂, hsucceeded, hfail, hcreated⟩ := components_stop hq hbefore hpresent hprods
    hdone hs.1 hp (missing_of_only honly hkey hkeys)
  have hstored₂ := hstored.congr (hcreated.frame key (key_not_mem hkey hkeys.2))
  obtain ⟨m', hinstall, htouched, hnone⟩ := install_stops hm hkey
    (after.map Component.ofSubsystem) hsucceeded hfail hcreated.quiet hstored₂ hphase
  refine ⟨_, s.name, p, _, _, e, m₂, m', hflat, hbuilt, hp, rfl, ?_, hkeys.2, hcreated, htouched,
    hnone⟩
  rw [hsplit, List.map_append, List.map_cons]
  exact hinstall

end Passes

/-- On a store that holds nothing but a record which is to be installed, and that nobody disturbs,
a pass over the control plane comes to what rendering the record comes to:

* if the record is rendered, the pass reconciles it; it creates the rendered objects in their
  order, and each is stored as it was rendered, apart from what the store assigns;
* if not, a production cannot be built; the pass ends with the error of the same subsystem and the
  same cause, and it has created what the productions before that one make.

The record is taken as the store holds it: its unique identifier is in every reference to the
owner. -/
theorem rendered_as_created {m : Memory} (hm : m.Reachable) (hquiet : m.Quiet) {key : ObjectKey}
    (hkey : key.type = Record.type) (honly : ∀ other, other ≠ key → m.objects.get? other = none)
    {r : Record} (hstored : Record.StoredAs m key r) (hns : r.metadata.ns.isSome)
    (hversion : isSupported r.spec.version = true)
    (hdeletion : r.metadata.deletionTimestamp = none) (hphase : r.phase ≠ some .unmanaged) :
    let pass := reconcilePass (Catalogue.controlPlane.map Component.ofSubsystem) key
    (∀ docs, Catalogue.render false r = .ok docs →
      ∃ m', pass.run.run Memory.answer m = (.ok .reconciled, m') ∧ Made key docs m m') ∧
    ∀ error, Catalogue.render false r = .error error →
      ∃ c before name p after built e m', Configuration.resolve r = .ok c ∧
        Catalogue.productions = before ++ (name, p) :: after ∧
        (before.mapM fun q => q.2.build c) = .ok built ∧ p.build c = .error e ∧
        error = .unbuildable name e ∧
        pass.run.run Memory.answer m = (.error (.component name (.build p.resource e)), m') ∧
          Made key built m m' := by
  intro pass
  have hname : r.metadata.name.isSome := by
    obtain ⟨o, hget, ho⟩ := hstored
    rw [Record.metadata_of_ofObject ho, Object.name_of_key (hm.keyed _ _ hget)]
    rfl
  obtain ⟨c, hresolve⟩ := Configuration.resolve_ok hname hns
  obtain ⟨r₁, m₁, hprepare, htouched₁, hstored₁, hphase₁⟩ :=
    prepare_quiet hquiet hm hkey hstored hdeletion hphase hversion hresolve
  have hm₁ := hm.of_run hprepare
  have hnone₁ := creates_prepare hm hprepare
  have honly₁ : ∀ other, other ≠ key → m₁.objects.get? other = none :=
    fun other hother => (htouched₁.frame other hother).trans (honly other hother)
  rw [Catalogue.render_eq hversion hresolve]
  constructor
  · intro docs hrender
    obtain ⟨rendered, hrendered, rfl⟩ := map_ok_inv hrender
    obtain ⟨m₂, m₃, hinstall, hkinds, hcreated, htouched₃, hnone₃⟩ :=
      install_creates hm₁ htouched₁.quiet hkey honly₁ hstored₁ hphase₁ hrendered
    exact ⟨m₃, (Attempt.run_bind_ok hprepare).trans hinstall,
      made_of_created honly hkey hkinds htouched₁ hnone₁ hcreated htouched₃ hnone₃⟩
  · intro error hrender
    have herror := map_error_inv hrender
    obtain ⟨before, name, p, after, built, e, m₂, m₃, hflat, hbuilt, hp, rfl, hinstall, hkinds,
      hcreated, htouched₃, hnone₃⟩ :=
      install_fails hm₁ htouched₁.quiet hkey honly₁ hstored₁ hphase₁ herror
    exact ⟨c, before, name, p, after, built, e, m₃, hresolve, hflat, hbuilt, hp, rfl,
      (Attempt.run_bind_ok hprepare).trans hinstall,
      made_of_created honly hkey hkinds htouched₁ hnone₁ hcreated htouched₃ hnone₃⟩

/-- A record whose heartbeat has a schedule that is none. -/
def Record.daily : Record :=
  { plain none with spec := { (plain none).spec with heartbeat := ⟨.none, some "daily"⟩ } }

theorem Memory.get?_ofRecord_ne {r : Record} (hname : r.metadata.name.isSome) {other : ObjectKey}
    (hother : other ≠ r.key) : (ofRecord r).objects.get? other = none := by
  rw [ofRecord, Record.objects_insert _ hname, SortedMap.get?_insert_ne _ _ hother]
  rfl

/-- A plain record is rendered, and a pass creates just that; the one with the broken schedule fails
both ways in the heartbeat. -/
theorem rendered_as_created_plain_daily :
    let key := (Record.plain none).key
    let pass := reconcilePass (Catalogue.controlPlane.map Component.ofSubsystem) key
    (∃ docs m', Catalogue.render false ((Record.plain none).inserted (.empty .epoch)) = .ok docs ∧
      pass.run.run Memory.answer (.ofRecord (.plain none)) = (.ok .reconciled, m') ∧
        Made key docs (.ofRecord (.plain none)) m') ∧
    ∃ resource built m', Catalogue.render false (Record.daily.inserted (.empty .epoch)) =
        .error (.unbuildable "heartbeat" (.schedule "daily")) ∧
      pass.run.run Memory.answer (.ofRecord .daily) =
        (.error (.component "heartbeat" (.build resource (.schedule "daily"))), m') ∧
        Made key built (.ofRecord .daily) m' := by
  intro key pass
  constructor
  · obtain ⟨hrendered, -⟩ := rendered_as_created (reachable_ofRecord (.plain none))
      ⟨rfl, fun _ => rfl⟩ rfl (fun _ => get?_ofRecord_ne rfl) (Record.storedAs_ofRecord rfl) rfl
      (by decide) rfl (by decide)
    obtain ⟨m', hpass, hmade⟩ := hrendered _ rfl
    exact ⟨_, m', rfl, hpass, hmade⟩
  · obtain ⟨-, hfailed⟩ := rendered_as_created (reachable_ofRecord .daily)
      ⟨rfl, fun _ => rfl⟩ rfl (fun _ => get?_ofRecord_ne rfl) (Record.storedAs_ofRecord rfl) rfl
      (by decide) rfl (by decide)
    obtain ⟨c, before, name, p, after, built, e, m', -, -, -, -, herror, hpass, hmade⟩ :=
      hfailed (.unbuildable "heartbeat" (.schedule "daily")) rfl
    cases herror
    exact ⟨p.resource, built, m', rfl, hpass, hmade⟩

end MeshOperator
