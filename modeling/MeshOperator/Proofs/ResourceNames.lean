import Mathlib.Data.List.Forall2
import MeshOperator.Catalogue.All
import MeshOperator.Proofs.Convergence

/-!
Resources by kind and name.

Whatever a record says, the resources of the control plane have the kinds and names of one table;
only the namespace depends on the record. No kind has a name twice and no kind is that of records,
so the resources have keys of their own. All of them can be made unless the heartbeat lacks a
schedule.
-/

namespace MeshOperator

set_option autoImplicit false

theorem mapM_cons_of_ok {α β ε : Type} {f : α → Except ε β} {a : α} {rest : List α} {b : β}
    {bs : List β} (ha : f a = .ok b) (hrest : rest.mapM f = .ok bs) :
    (a :: rest).mapM f = .ok (b :: bs) := by
  rw [List.mapM_cons, ha, hrest]
  rfl

theorem mapM_ok {α β ε : Type} {f : α → Except ε β} {items : List α}
    (h : ∀ a ∈ items, ∃ b, f a = .ok b) : ∃ bs, items.mapM f = .ok bs := by
  induction items with
  | nil => exact ⟨[], rfl⟩
  | cons a rest ih =>
    obtain ⟨⟨b, hb⟩, hrest⟩ := List.forall_mem_cons.1 h
    obtain ⟨bs, hbs⟩ := ih hrest
    exact ⟨b :: bs, mapM_cons_of_ok hb hbs⟩

theorem exists_of_forall₂ {α β : Type} {R : α → β → Prop} {as : List α} {bs : List β}
    (h : List.Forall₂ R as bs) {a : α} (ha : a ∈ as) : ∃ b ∈ bs, R a b := by
  induction h with
  | nil => cases ha
  | @cons first b _ _ hfirst _ ih =>
    rcases List.mem_cons.1 ha with rfl | ha
    · exact ⟨b, List.mem_cons_self, hfirst⟩
    · obtain ⟨b', hb', hrest⟩ := ih ha
      exact ⟨b', List.mem_cons_of_mem _ hb', hrest⟩

theorem forall₂_of_mapM {α β ε : Type} {f : α → Except ε β} {items : List α} {bs : List β}
    (h : items.mapM f = .ok bs) : List.Forall₂ (fun a b => f a = .ok b) items bs := by
  induction items generalizing bs with
  | nil =>
    cases h
    exact .nil
  | cons a rest ih =>
    obtain ⟨b, others, hb, hothers, rfl⟩ := mapM_cons_ok h
    exact .cons hb (ih hothers)

theorem mapM_of_forall₂ {α β ε : Type} {f : α → Except ε β} {items : List α} {bs : List β}
    (h : List.Forall₂ (fun a b => f a = .ok b) items bs) : items.mapM f = .ok bs := by
  induction h with
  | nil => rfl
  | cons ha _ ih => exact mapM_cons_of_ok ha ih

/-- Whatever is made has this kind and this name. -/
def Production.Makes (p : Production) (resource : Kind × String) : Prop :=
  ∀ c managed, p.build c = .ok managed →
    (managed.key.type, managed.key.name) = (resource.1.type, resource.2)

namespace Production

variable {label : String} {kind : Kind} {name : String}

theorem makes_present {build : Configuration → Except BuildError Manifest}
    (h : ∀ c m, build c = .ok m → m.content.kind = kind ∧ m.name = name) :
    (present label build).Makes (kind, name) := by
  intro c managed hbuild
  obtain ⟨m, hm, rfl⟩ := map_ok_inv hbuild
  obtain ⟨rfl, rfl⟩ := h c m hm
  rfl

theorem makes_always {build : Configuration → Manifest}
    (h : ∀ c, (build c).content.kind = kind ∧ (build c).name = name) :
    (always label build).Makes (kind, name) := by
  refine makes_present fun c m hm => ?_
  cases hm
  exact h c

end Production

/-! ## Tables of resources -/

/-- The resources of a subsystem, in order. -/
def Subsystem.Makes (s : Subsystem) (row : List (Kind × String)) : Prop :=
  List.Forall₂ Production.Makes s.productions row

section Tables

variable {c : Configuration}

theorem names_of_productions {s : Subsystem} {ps : List Production} {row : List (Kind × String)}
    (h : List.Forall₂ Production.Makes ps row) {rendered : List (Managed × Existence)}
    (hrender : (ps.mapM fun p => (p.build c).map fun x => (x, s.effectiveState p)) =
      .ok rendered) :
    rendered.map (fun e => (e.1.key.type, e.1.key.name)) = row.map fun n => (n.1.type, n.2) := by
  induction h generalizing rendered with
  | nil =>
    cases hrender
    rfl
  | @cons p n ps row hp _ ih =>
    obtain ⟨e, others, he, hothers, rfl⟩ := mapM_cons_ok hrender
    obtain ⟨managed, hbuild, rfl⟩ := map_ok_inv he
    exact List.cons_eq_cons.2 ⟨hp c managed hbuild, ih hothers⟩

theorem names_of_subsystems {subsystems : List Subsystem} {table : List (List (Kind × String))}
    (h : List.Forall₂ Subsystem.Makes subsystems table)
    {rendered : List (List (Managed × Existence))}
    (hrender : subsystems.mapM (·.render c) = .ok rendered) :
    rendered.flatten.map (fun e => (e.1.key.type, e.1.key.name)) =
      table.flatten.map fun n => (n.1.type, n.2) := by
  induction h generalizing rendered with
  | nil =>
    cases hrender
    rfl
  | @cons s row subsystems table hs _ ih =>
    obtain ⟨own, others, hown, hothers, rfl⟩ := mapM_cons_ok hrender
    rw [List.flatten_cons, List.flatten_cons, List.map_append, List.map_append,
      names_of_productions hs hown, ih hothers]

/-- Whatever the subsystems make from a configuration has a key of its own, and not this one. -/
def KeysApart (subsystems : List Subsystem) (c : Configuration) (key : ObjectKey) : Prop :=
  ∀ rendered, subsystems.mapM (·.render c) = .ok rendered →
    (key :: rendered.flatten.map (·.1.key)).Nodup

/-- Resources that differ in kind or name have keys of their own. -/
theorem keysApart_of_makes {subsystems : List Subsystem} {table : List (List (Kind × String))}
    (h : List.Forall₂ Subsystem.Makes subsystems table)
    (hnodup : (table.flatten.map fun n => (n.1.type, n.2)).Nodup) {key : ObjectKey}
    (hkey : ∀ n ∈ table.flatten, n.1.type ≠ key.type) : KeysApart subsystems c key := by
  intro rendered hrender
  have hnames := names_of_subsystems h hrender
  refine List.nodup_cons.2 ⟨fun hmem => ?_, ?_⟩
  · obtain ⟨e, he, rfl⟩ := List.mem_map.1 hmem
    have hname : (e.1.key.type, e.1.key.name) ∈ table.flatten.map fun n => (n.1.type, n.2) :=
      hnames ▸ List.mem_map.2 ⟨e, he, rfl⟩
    obtain ⟨n, hn, heq⟩ := List.mem_map.1 hname
    exact hkey n hn (congrArg Prod.fst heq)
  · have hall : ((rendered.flatten.map (·.1.key)).map fun k => (k.type, k.name)).Nodup := by
      rw [List.map_map]
      exact hnames ▸ hnodup
    exact List.Pairwise.of_map _
      (fun _ _ hne heq => hne (congrArg (fun k => (k.type, k.name)) heq)) hall

end Tables

/-! ## The control plane -/

namespace Catalogue

/-- What the control plane consists of, by kind and name, subsystem by subsystem. -/
def table : List (List (Kind × String)) := [
  [(.serviceAccount, "linkerd-controller"),
    (.clusterRole, "linkerd-linkerd-controller"),
    (.clusterRoleBinding, "linkerd-linkerd-controller"),
    (.configMap, "linkerd-config"),
    (.deployment, "linkerd-controller"),
    (.service, "linkerd-controller-api")],
  [(.serviceAccount, "linkerd-destination"),
    (.clusterRole, "linkerd-linkerd-destination"),
    (.clusterRoleBinding, "linkerd-linkerd-destination"),
    (.deployment, "linkerd-destination"),
    (.service, "linkerd-dst")],
  [(.serviceAccount, "linkerd-heartbeat"),
    (.role, "linkerd-heartbeat"),
    (.roleBinding, "linkerd-heartbeat"),
    (.cronJob, "linkerd-heartbeat")],
  [(.serviceAccount, "linkerd-identity"),
    (.clusterRole, "linkerd-linkerd-identity"),
    (.clusterRoleBinding, "linkerd-linkerd-identity"),
    (.secret, "linkerd-identity-issuer"),
    (.deployment, "linkerd-identity"),
    (.service, "linkerd-identity")],
  [(.serviceAccount, "linkerd-prometheus"),
    (.clusterRole, "linkerd-prometheus"),
    (.clusterRoleBinding, "linkerd-prometheus"),
    (.configMap, "linkerd-prometheus"),
    (.deployment, "linkerd-prometheus"),
    (.service, "linkerd-prometheus")],
  [(.serviceAccount, "linkerd-proxy-injector"),
    (.clusterRole, "linkerd-linkerd-proxy-injector"),
    (.clusterRoleBinding, "linkerd-linkerd-proxy-injector"),
    (.secret, "linkerd-proxy-injector-tls"),
    (.deployment, "linkerd-proxy-injector"),
    (.service, "linkerd-proxy-injector"),
    (.mutatingWebhookConfiguration, "linkerd-proxy-injector-webhook-config")],
  [(.serviceAccount, "linkerd-web"),
    (.role, "linkerd-web"),
    (.roleBinding, "linkerd-web"),
    (.clusterRole, "linkerd-web-check"),
    (.clusterRoleBinding, "linkerd-web-check"),
    (.clusterRoleBinding, "linkerd-web-admin"),
    (.configMap, "linkerd-web-config"),
    (.deployment, "linkerd-web"),
    (.service, "linkerd-web")],
  [(.serviceAccount, "linkerd-tap"),
    (.clusterRole, "linkerd-linkerd-tap"),
    (.clusterRole, "linkerd-linkerd-tap-admin"),
    (.clusterRoleBinding, "linkerd-linkerd-tap"),
    (.clusterRoleBinding, "linkerd-linkerd-tap-auth-delegator"),
    (.roleBinding, "linkerd-linkerd-tap-auth-reader"),
    (.secret, "linkerd-tap-tls"),
    (.deployment, "linkerd-tap"),
    (.service, "linkerd-tap"),
    (.apiService, "v1alpha1.tap.linkerd.io")],
  [(.podSecurityPolicy, "linkerd-control-plane"),
    (.role, "linkerd-psp"),
    (.roleBinding, "linkerd-psp")]]

/-- If the job of the heartbeat can be made, it is this one. -/
theorem cronJob_eq_of_ok {c : Configuration} {m : Manifest} (h : Heartbeat.cronJob c = .ok m) :
    m = namespaced "linkerd-heartbeat" (workloadLabels Heartbeat.component c)
      (.cronJob (Heartbeat.job c)) c := by
  unfold Heartbeat.cronJob at h
  split at h
  · exact (Except.ok.inj h).symm
  · cases h

theorem makes_heartbeat : (Production.present "cron-job" Heartbeat.cronJob).Makes
    (.cronJob, "linkerd-heartbeat") := by
  refine Production.makes_present fun c m hm => ?_
  obtain rfl := cronJob_eq_of_ok hm
  exact ⟨rfl, rfl⟩

theorem makes_controlPlane : List.Forall₂ Subsystem.Makes controlPlane table := by
  repeat' apply List.Forall₂.cons
  all_goals first
    | exact .nil
    | exact makes_heartbeat
    | exact Production.makes_always fun c => ⟨rfl, rfl⟩

theorem keysApart_controlPlane (c : Configuration) {key : ObjectKey}
    (hkey : key.type = Record.type) : KeysApart controlPlane c key :=
  keysApart_of_makes makes_controlPlane (by decide +kernel) (hkey ▸ by decide)

/-- With a schedule for its heartbeat every configuration has its control plane. -/
theorem render_controlPlane {c : Configuration}
    (h : Heartbeat.isSchedule c.heartbeat.schedule = true) :
    ∃ rendered, controlPlane.mapM (·.render c) = .ok rendered := by
  have hjob : Heartbeat.cronJob c = .ok _ := if_pos h
  have hbuilt : ∀ s ∈ controlPlane, ∀ p ∈ s.productions, ∃ managed, p.build c = .ok managed := by
    simp only [controlPlane, List.forall_mem_cons, Controller.subsystem, Destination.subsystem,
      Heartbeat.subsystem, Identity.subsystem, Prometheus.subsystem, ProxyInjector.subsystem,
      Web.subsystem, Tap.subsystem, SecurityPolicy.subsystem, Production.always,
      Production.present, hjob, Except.map, Except.ok.injEq, exists_eq', List.not_mem_nil,
      false_implies, implies_true, and_self]
  refine mapM_ok fun s hs => mapM_ok fun p hp => ?_
  obtain ⟨managed, hmanaged⟩ := hbuilt s hs p hp
  exact ⟨_, by rw [hmanaged]; rfl⟩

end Catalogue

end MeshOperator
