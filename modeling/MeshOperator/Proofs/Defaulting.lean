import MeshOperator.Proofs.KeptDeclaration
import MeshOperator.Proofs.QuietMemory

/-!
Defaults, and the configurations that records have with them.

Defaults are given once: what a declaration sets stays as it is set, and a declaration that has its
defaults has nothing left to be given. So a record has a configuration as soon as it has a name and
a namespace, and the same one whether its defaults are written in its declaration or not. The
defaults never get into the stored record.
-/

namespace MeshOperator

set_option autoImplicit false

/-! ## Giving defaults twice -/

namespace Defaults

/-- The text is given, and not empty. -/
def Given (s : Option String) : Prop := ∃ t, t ≠ "" ∧ s = some t

theorem textOr_of_given (default : String) {s : Option String} (h : Given s) :
    textOr default s = s := by
  obtain ⟨t, ht, rfl⟩ := h
  rw [textOr]
  exact ht

theorem given_textOr {default : String} (h : default ≠ "") (s : Option String) :
    Given (textOr default s) := by
  cases s with
  | none => exact ⟨default, h, rfl⟩
  | some t =>
    by_cases ht : t = ""
    · subst ht
      exact ⟨default, h, rfl⟩
    · rw [textOr_of_given default ⟨t, ht, rfl⟩]
      exact ⟨t, ht, rfl⟩

theorem textOr_textOr (default : String) (h : default ≠ "") (s : Option String) :
    textOr default (textOr default s) = textOr default s :=
  textOr_of_given default (given_textOr h s)

end Defaults

theorem WorkloadSettings.withDefaults_twice (image : String) (resources : Resources)
    (s : WorkloadSettings) :
    (s.withDefaults image resources).withDefaults image resources =
      s.withDefaults image resources := by
  simp only [withDefaults, Option.or_assoc, Option.or_self]

theorem Declaration.withDefaults_twice (d : Declaration) :
    d.withDefaults.withDefaults = d.withDefaults := by
  have hlevel := Defaults.textOr_textOr Defaults.logLevel (by decide) d.logLevel
  have hschedule := Defaults.textOr_textOr Defaults.schedule (by decide) d.heartbeat.schedule
  simp only [withDefaults, WorkloadSettings.withDefaults_twice, Option.or_assoc, Option.or_self,
    hlevel, hschedule]

/-! ## What is set stays as it is -/

/-- The second settings have all that the first ones set, and nothing else of theirs but image,
resources and replica count can differ. -/
structure WorkloadSettings.Kept (s s' : WorkloadSettings) : Prop where
  image : s.image.isSome → s'.image = s.image
  resources : s.resources.isSome → s'.resources = s.resources
  replicaCount : s.replicaCount.isSome → s'.replicaCount = s.replicaCount
  others : { s' with
    image := s.image, resources := s.resources, replicaCount := s.replicaCount } = s

/-- The second declaration has all that the first one sets, and differs from it in nothing that has
no default. -/
structure Declaration.Kept (d d' : Declaration) : Prop where
  logLevel : Defaults.Given d.logLevel → d'.logLevel = d.logLevel
  imagePullPolicy : d.imagePullPolicy.isSome → d'.imagePullPolicy = d.imagePullPolicy
  certificates : d.certificates.isSome → d'.certificates = d.certificates
  schedule : Defaults.Given d.heartbeat.schedule → d'.heartbeat.schedule = d.heartbeat.schedule
  controller : d.controller.Kept d'.controller
  destination : d.destination.Kept d'.destination
  heartbeat : d.heartbeat.workload.Kept d'.heartbeat.workload
  identity : d.identity.Kept d'.identity
  prometheus : d.prometheus.Kept d'.prometheus
  proxyInjector : d.proxyInjector.Kept d'.proxyInjector
  tap : d.tap.Kept d'.tap
  web : d.web.Kept d'.web
  version : d'.version = d.version
  autoInjectionNamespaces : d'.autoInjectionNamespaces = d.autoInjectionNamespaces

theorem WorkloadSettings.kept_withDefaults (image : String) (resources : Resources)
    (s : WorkloadSettings) : s.Kept (s.withDefaults image resources) where
  image h := Option.or_of_isSome h
  resources h := Option.or_of_isSome h
  replicaCount h := Option.or_of_isSome h
  others := rfl

theorem Declaration.kept_withDefaults (d : Declaration) : d.Kept d.withDefaults where
  logLevel h := Defaults.textOr_of_given _ h
  imagePullPolicy h := Option.or_of_isSome h
  certificates h := Option.or_of_isSome h
  schedule h := Defaults.textOr_of_given _ h
  controller := WorkloadSettings.kept_withDefaults _ _ _
  destination := WorkloadSettings.kept_withDefaults _ _ _
  heartbeat := WorkloadSettings.kept_withDefaults _ _ _
  identity := WorkloadSettings.kept_withDefaults _ _ _
  prometheus := WorkloadSettings.kept_withDefaults _ _ _
  proxyInjector := WorkloadSettings.kept_withDefaults _ _ _
  tap := WorkloadSettings.kept_withDefaults _ _ _
  web := WorkloadSettings.kept_withDefaults _ _ _
  version := rfl
  autoInjectionNamespaces := rfl

/-! ## Configurations -/

namespace Configuration

/-- A record without name or namespace has no configuration. Nothing else can be missing. -/
theorem resolve_eq_error {r : Record} {e : ResolveError} : resolve r = .error e ↔
    r.metadata.name = none ∧ e = .missingMetadata "name" ∨
      r.metadata.name.isSome ∧ r.metadata.ns = none ∧ e = .missingMetadata "namespace" := by
  cases hname : r.metadata.name with
  | none => simp [resolve, hname, eq_comm]
  | some name =>
    cases hns : r.metadata.ns with
    | none => simp [resolve, hname, hns, eq_comm]
    | some ns =>
      obtain ⟨c, hc⟩ := resolve_ok (Option.isSome_of_eq_some hname) (Option.isSome_of_eq_some hns)
      simp [hc]

theorem resolve_withDefaults (r : Record) :
    resolve { r with spec := r.spec.withDefaults } = resolve r := by
  have howner : Record.asOwner { r with spec := r.spec.withDefaults } = r.asOwner := rfl
  simp only [resolve, Declaration.withDefaults_twice, howner]

end Configuration

theorem prepare_sameDeclaration {m m' : Memory} {key : ObjectKey} {c : Configuration} {r' : Record}
    (hm : m.Reachable) (hkey : key.type = Record.type)
    (h : (prepare key).run.run Memory.answer m = (.ok (.ready c r'), m')) :
    ∃ r, Record.StoredAs m key r ∧ r.SameDeclaration r' ∧ Configuration.resolve r = .ok c := by
  have hread : ∃ r, Record.StoredAs m key r ∧ Configuration.resolve r = .ok c := by
    cases prepare_cases h with
    | marked hstored _ _ _ hresolve _ => exact ⟨_, hstored, hresolve⟩
    | known hstored _ _ _ _ hresolve => exact ⟨_, hstored, hresolve⟩
  obtain ⟨r, hstored, hresolve⟩ := hread
  obtain ⟨last, hlast, hsame⟩ := hm.keeps_declaration hkey (List.forall_mem_nil _)
    (careful_prepare key) hstored
  rw [h] at hlast
  cases hlast.unique (prepare_stored hm hkey h)
  exact ⟨r, hstored, hsame, hresolve⟩

/-- Defaults are given once, to what is not set, and nothing else changes; log level and schedule
are set when they are not empty. With them every record that has name and namespace has a
configuration, which is the same with the defaults in its declaration. Passes work on such a
configuration while their record keeps declaring what is stored. -/
theorem defaults_given_once :
    (∀ d : Declaration, d.withDefaults.withDefaults = d.withDefaults ∧ d.Kept d.withDefaults) ∧
    (∀ r : Record,
      ((∃ e, Configuration.resolve r = .error e) ↔
        r.metadata.name = none ∨ r.metadata.ns = none) ∧
      (∀ field, Configuration.resolve r ≠ .error (.undefaulted field)) ∧
      Configuration.resolve { r with spec := r.spec.withDefaults } = Configuration.resolve r) ∧
    ∀ (m m' : Memory) (key : ObjectKey) (c : Configuration) (r' : Record), m.Reachable →
      key.type = Record.type →
      (prepare key).run.run Memory.answer m = (.ok (.ready c r'), m') →
      Record.StoredAs m' key r' ∧ Configuration.resolve r' = .ok c ∧
        ∃ r, Record.StoredAs m key r ∧ r.SameDeclaration r' := by
  refine ⟨fun d => ⟨d.withDefaults_twice, d.kept_withDefaults⟩,
    fun r => ⟨⟨?_, ?_⟩, fun field h => ?_, Configuration.resolve_withDefaults r⟩,
    fun m m' key c r' hm hkey h => ?_⟩
  · rintro ⟨e, he⟩
    rcases Configuration.resolve_eq_error.1 he with ⟨hname, -⟩ | ⟨-, hns, -⟩
    · exact .inl hname
    · exact .inr hns
  · intro hmissing
    cases hc : Configuration.resolve r with
    | error e => exact ⟨e, rfl⟩
    | ok c =>
      obtain ⟨hname, hns, -⟩ := Configuration.identity_of_resolve hc
      rcases hmissing with hnone | hnone
      · cases hnone.symm.trans hname
      · cases hnone.symm.trans hns
  · rcases Configuration.resolve_eq_error.1 h with ⟨-, he⟩ | ⟨-, -, he⟩ <;> cases he
  · obtain ⟨r, hstored, hsame, hresolve⟩ := prepare_sameDeclaration hm hkey h
    exact ⟨prepare_stored hm hkey h, hsame.resolve.trans hresolve, r, hstored, hsame⟩

/-- A pass over a plain record finds the configuration, and the record goes on without defaults. -/
theorem defaults_given_once_plain :
    ∃ c r' m', (prepare (Record.plain none).key).run.run Memory.answer (.ofRecord (.plain none)) =
        (.ok (.ready c r'), m') ∧
      Configuration.resolve r' = .ok c ∧ r'.spec = (Record.plain none).spec ∧
        r'.spec.withDefaults ≠ r'.spec := by
  have hm := Memory.reachable_ofRecord (.plain none)
  have hstored : Record.StoredAs (.ofRecord (.plain none)) (Record.plain none).key
      ((Record.plain none).inserted (.empty .epoch)) := Record.storedAs_ofRecord rfl
  obtain ⟨c, hresolve⟩ := Configuration.resolve_ok
    (r := (Record.plain none).inserted (.empty .epoch)) rfl rfl
  obtain ⟨r', m', hrun, -⟩ :=
    prepare_quiet ⟨rfl, fun _ => rfl⟩ hm rfl hstored rfl (by decide) rfl hresolve
  obtain ⟨-, -, hpasses⟩ := defaults_given_once
  obtain ⟨-, hresolve', r, hread, hsame⟩ := hpasses _ _ _ _ _ hm rfl hrun
  cases hread.unique hstored
  refine ⟨c, r', m', hrun, hresolve', hsame.spec, ?_⟩
  rw [hsame.spec]
  exact fun heq => Option.some_ne_none _ (congrArg Declaration.logLevel heq)

end MeshOperator
