import MeshOperator.Proofs.RenderedPass
import MeshOperator.Proofs.ServerFields

/-!
Settings that are no longer declared.

A resource that lacks something is overwritten as a whole, so the first change that asks for
anything new takes away what is asked for no longer. A resource that lacks nothing is left alone and
keeps what it has beyond that. Most resources have the same fields whatever the configuration says,
and then to lack nothing is to be the same; `Content.Alike` says which ones. It is the workloads, a
part of whose fields is optional, that can keep a setting nobody declares any more.
-/

namespace MeshOperator

set_option autoImplicit false

/-! ## Values with the same fields -/

namespace Json

mutual

/-- The values are put together the same way and differ at most in their texts. -/
def SameButTexts : Json → Json → Prop
  | .str _, .str _ => True
  | .arr items, .arr others => SameButTextsItems items others
  | .obj members, .obj others => SameButTextsMembers members others
  | v, w => v = w

def SameButTextsItems : List Json → List Json → Prop
  | [], [] => True
  | v :: rest, w :: others => SameButTexts v w ∧ SameButTextsItems rest others
  | _, _ => False

def SameButTextsMembers : Members → Members → Prop
  | [], [] => True
  | (name, v) :: rest, (other, w) :: others =>
    name = other ∧ SameButTexts v w ∧ SameButTextsMembers rest others
  | _, _ => False

end

mutual

/-- Of two values that are put together the same way, one has all of the other only if they are
the same. -/
theorem eq_of_isSubset : (v w : Json) → w.Canonical → SameButTexts v w → v.isSubset w = true →
    v = w
  | .str a, .str b, _, _, h => by
    have h : (a == b) = true := h
    rw [eq_of_beq h]
  | .arr items, .arr others, hc, hs, h => congrArg _ (items_eq_of_subset items others hc hs h)
  | .obj members, .obj others, hc, hs, h =>
    congrArg _ (members_eq_of_subset members others others (fun _ hm => hm) hc.1 hc.2 hs h)
  | .null, _, _, hs, _ => by simpa [SameButTexts] using hs
  | .bool _, _, _, hs, _ => by simpa [SameButTexts] using hs
  | .int _, _, _, hs, _ => by simpa [SameButTexts] using hs
  | .float _, _, _, hs, _ => by simpa [SameButTexts] using hs

theorem items_eq_of_subset : (items others : List Json) → CanonicalItems others →
    SameButTextsItems items others → itemsSubset items others = true → items = others
  | [], [], _, _, _ => rfl
  | v :: rest, w :: others, hc, hs, h => by
    rw [itemsSubset, Bool.and_eq_true] at h
    rw [eq_of_isSubset v w hc.1 hs.1 h.1, items_eq_of_subset rest others hc.2 hs.2 h.2]

/-- Members are looked up among all of the other object, of which only the rest is compared. -/
theorem members_eq_of_subset : (members others live : Members) → (∀ m ∈ others, m ∈ live) →
    Assoc.Ascending live → CanonicalMembers others → SameButTextsMembers members others →
      membersSubset members live = true → members = others
  | [], [], _, _, _, _, _, _ => rfl
  | (name, v) :: rest, (_, w) :: others, live, hlive, ha, hc, hs, h => by
    obtain ⟨rfl, hv, hrest⟩ := hs
    have hfind := Assoc.find?_of_mem (Assoc.nodup_keys ha) (hlive _ List.mem_cons_self)
    rw [membersSubset, Bool.and_eq_true, hfind] at h
    have hothers := members_eq_of_subset rest others live
      (fun m hm => hlive m (List.mem_cons_of_mem _ hm)) ha hc.2 hrest h.2
    rw [eq_of_isSubset v w hc.1 hv h.1, hothers]

end

theorem sameButTexts_texts {a b : StringMap} (h : a.keys = b.keys) (text : String → String) :
    SameButTexts (.obj (a.entries.map fun e => (e.1, .str (text e.2))))
      (.obj (b.entries.map fun e => (e.1, .str (text e.2)))) := by
  have hall : ∀ xs ys : List (String × String), xs.map (·.1) = ys.map (·.1) →
      SameButTextsMembers (xs.map fun e => (e.1, .str (text e.2)))
        (ys.map fun e => (e.1, .str (text e.2))) := by
    intro xs
    induction xs with
    | nil =>
      intro ys hys
      cases List.map_eq_nil_iff.1 hys.symm
      trivial
    | cons x xs ih =>
      intro ys hys
      cases ys with
      | nil => cases hys
      | cons y ys =>
        obtain ⟨hname, hrest⟩ := List.cons_eq_cons.1 hys
        exact ⟨hname, trivial, ih ys hrest⟩
  exact hall _ _ h

end Json

/-! ## What settled means -/

namespace Object

variable {desired live : Object}

/-- What the store assigned is among what servers fill in. -/
theorem SameButAssigned.sameButStatus {o o' : Object} (h : o.SameButAssigned o') :
    o.SameButStatus .withoutServerFields o' where
  type := h.type
  metadata := by
    have hkept : ∀ m : Metadata, m.withoutServerFields = m.unassigned.withoutServerFields :=
      fun _ => rfl
    rw [hkept, h.metadata, ← hkept]
  members := fun _ _ => by rw [h.body]

/-- The body of an object that is settled is covered by the live one, where it says nothing that
counts as something else. -/
theorem bodies_of_isSettled (h : desired.isSettled live = true)
    (hnames : ∀ m ∈ desired.body.members, m.1 ≠ "status" ∧ m.1 ≠ "apiVersion" ∧ m.1 ≠ "kind") :
    Json.membersSubset desired.body.members live.body.members = true := by
  have h : Json.membersSubset _ live.members = true := h
  rw [Json.membersSubset_iff] at h ⊢
  intro m hm
  obtain ⟨hstatus, hversion, hkind⟩ := hnames m hm
  have hmetadata := desired.body.unreserved m hm
  have hfind : Assoc.find? m.1 desired.members = some m.2 :=
    (desired.find?_members_of_ne hmetadata hversion hkind).trans
      (Json.find?_of_mem_canonical desired.body.canonical hm)
  have hcovered := h m (List.mem_map.2 ⟨m, List.mem_filter.2
    ⟨Assoc.mem_of_find? hfind, by simpa using hstatus⟩, if_neg hmetadata⟩)
  rw [live.find?_members_of_ne hmetadata hversion hkind] at hcovered
  exact hcovered

/-- A live object that was given no addresses passes none on. -/
theorem overlay_body (desired : Object) (hip : allocated? "clusterIP" live.body = none)
    (hips : allocated? "clusterIPs" live.body = none) :
    (desired.overlay live).body = desired.body := by
  have hkeep : ∀ {name : String} {body : Body}, allocated? name live.body = none →
      keepAllocated name live.body body = body := by
    intro name body hnone
    unfold keepAllocated
    split
    next v spec hv _ =>
      rw [hnone] at hv
      cases hv
    next => rfl
  unfold overlay
  split
  · rw [hkeep hips, hkeep hip]
  · rfl

end Object

theorem Memory.sameButAssigned_replaced (m m' : Memory) {key : ObjectKey}
    (hkind : key.type ≠ Record.type) (x stored : Object) :
    x.SameButAssigned (m'.stamp (m.replaced key x stored)) := by
  rw [replaced, if_neg (not_hasStatusSubresource hkind)]
  exact ⟨rfl, rfl, rfl⟩

/-! ## Contents with the same fields -/

namespace Content

/-- Contents that differ at most in texts, unless they are workloads. -/
inductive Alike : Content → Content → Prop
  | same (x : Content) : Alike x x
  | configMap {a b : StringMap} (h : a.keys = b.keys) : Alike (.configMap a) (.configMap b)
  | secret {type : Option String} {a b : StringMap} (h : a.keys = b.keys) :
    Alike (.secret ⟨type, a⟩) (.secret ⟨type, b⟩)
  | webhook (w : Webhook) (anchors : String) :
    Alike (.webhook w) (.webhook { w with trustAnchors := anchors })
  | apiService (a : ApiService) (anchors : String) :
    Alike (.apiService a) (.apiService { a with trustAnchors := anchors })
  | deployment (a b : Deployment) : Alike (.deployment a) (.deployment b)
  | cronJob (a b : CronJob) : Alike (.cronJob a) (.cronJob b)

variable {x y : Content}

theorem Alike.kind (h : x.Alike y) : y.kind = x.kind := by
  cases h <;> rfl

theorem Alike.sameButTexts (h : x.Alike y) (hdeployment : x.kind ≠ .deployment)
    (hcronJob : x.kind ≠ .cronJob) : x = y ∨ Json.SameButTextsMembers y.members x.members := by
  cases h with
  | same => exact .inl rfl
  | configMap h => exact .inr ⟨rfl, Json.sameButTexts_texts h.symm id, trivial⟩
  | @secret type a b h =>
    refine .inr ⟨rfl, Json.sameButTexts_texts h.symm Base64.ofText, ?_⟩
    cases type with
    | none => trivial
    | some t => exact ⟨rfl, trivial, trivial⟩
  | webhook w anchors =>
    right
    simp [members, Webhook.toJson, Json.strings, Json.SameButTextsMembers, Json.SameButTexts,
      Json.SameButTextsItems]
  | apiService a anchors =>
    right
    simp [members, ApiService.toJson, Json.SameButTextsMembers, Json.SameButTexts]
  | deployment => exact absurd rfl hdeployment
  | cronJob => exact absurd rfl hcronJob

theorem names_members (x : Content) :
    ∀ m ∈ x.members, m.1 ≠ "status" ∧ m.1 ≠ "apiVersion" ∧ m.1 ≠ "kind" := by
  cases x <;> simp [members, Binding.members, SecretData.members]

/-- No content says anything about the addresses that a service is given. -/
theorem allocated?_body (x : Content) :
    Object.allocated? "clusterIP" x.body = none ∧
      Object.allocated? "clusterIPs" x.body = none := by
  cases x with
  | secret data =>
    obtain ⟨_ | _, _⟩ := data <;> exact ⟨rfl, rfl⟩
  | _ => exact ⟨rfl, rfl⟩

end Content

/-- The manifests are of one resource, and their contents are alike. -/
structure Manifest.Alike (m m' : Manifest) : Prop where
  name : m'.name = m.name
  ns : m'.ns = m.ns
  content : m.content.Alike m'.content

namespace Manifest.Alike

variable {m m' : Manifest}

theorem key_eq (h : m.Alike m') : m'.key = m.key := by
  rw [Manifest.key, Manifest.key, h.name, h.ns, h.content.kind]

/-- Other than a workload, what is settled in an object that is alike has the same body. -/
theorem body_eq (h : m.Alike m') (hdeployment : m.content.kind ≠ .deployment)
    (hcronJob : m.content.kind ≠ .cronJob)
    (hsettled : m'.managed.object.isSettled m.managed.object = true) :
    m'.managed.object.body = m.managed.object.body := by
  rcases h.content.sameButTexts hdeployment hcronJob with hsame | hsame
  · exact congrArg Content.body hsame.symm
  · have hcovered := Object.bodies_of_isSettled hsettled m'.content.names_members
    have hcanonical := m.content.canonical_members
    have hmembers := Json.members_eq_of_subset m'.content.members m.content.members
      m.content.members (fun _ hm => hm) hcanonical.1 hcanonical.2 hsame hcovered
    exact Body.eq_of_find? fun name => congrArg (Assoc.find? name) hmembers

end Manifest.Alike

/-! ## The productions of the control plane -/

/-- What is made for one namespace is always of the same resource, with contents that are alike. -/
def Production.Steady (p : Production) : Prop :=
  ∀ c₁ c₂ d₁ d₂, c₁.ns = c₂.ns → p.build c₁ = .ok d₁ → p.build c₂ = .ok d₂ →
    ∃ m₁ m₂ : Manifest, d₁ = m₁.managed ∧ d₂ = m₂.managed ∧ m₁.Alike m₂

namespace Production

variable {label : String}

theorem steady_present {build : Configuration → Except BuildError Manifest}
    (h : ∀ c₁ c₂ m₁ m₂, c₁.ns = c₂.ns → build c₁ = .ok m₁ → build c₂ = .ok m₂ → m₁.Alike m₂) :
    (present label build).Steady := by
  intro c₁ c₂ d₁ d₂ hns h₁ h₂
  obtain ⟨m₁, hm₁, rfl⟩ := map_ok_inv h₁
  obtain ⟨m₂, hm₂, rfl⟩ := map_ok_inv h₂
  exact ⟨m₁, m₂, rfl, rfl, h c₁ c₂ m₁ m₂ hns hm₁ hm₂⟩

theorem steady_always {build : Configuration → Manifest}
    (h : ∀ c₁ c₂, c₁.ns = c₂.ns → (build c₁).Alike (build c₂)) :
    (always label build).Steady := by
  refine steady_present fun c₁ c₂ m₁ m₂ hns h₁ h₂ => ?_
  cases h₁
  cases h₂
  exact h c₁ c₂ hns

end Production

namespace Catalogue

section Parts

variable {c₁ c₂ : Configuration} {x₁ x₂ : Content} {name : String} {labels₁ labels₂ : StringMap}

theorem alike_namespaced (hns : c₁.ns = c₂.ns) (h : x₁.Alike x₂) :
    (namespaced name labels₁ x₁ c₁).Alike (namespaced name labels₂ x₂ c₂) :=
  ⟨rfl, congrArg some hns.symm, h⟩

theorem alike_clusterWide (h : x₁.Alike x₂) :
    (clusterWide name labels₁ x₁ c₁).Alike (clusterWide name labels₂ x₂ c₂) := ⟨rfl, rfl, h⟩

end Parts

theorem steady_heartbeat : (Production.present "cron-job" Heartbeat.cronJob).Steady := by
  refine Production.steady_present fun c₁ c₂ m₁ m₂ hns h₁ h₂ => ?_
  obtain rfl := cronJob_eq_of_ok h₁
  obtain rfl := cronJob_eq_of_ok h₂
  exact alike_namespaced hns (.cronJob _ _)

theorem steady_controlPlane : ∀ s ∈ controlPlane, ∀ p ∈ s.productions, p.Steady := by
  simp only [controlPlane, List.forall_mem_cons, Controller.subsystem, Destination.subsystem,
    Heartbeat.subsystem, Identity.subsystem, Prometheus.subsystem, ProxyInjector.subsystem,
    Web.subsystem, Tap.subsystem, SecurityPolicy.subsystem, List.not_mem_nil, false_implies,
    implies_true, and_true, steady_heartbeat]
  repeat' apply And.intro
  all_goals
    refine Production.steady_always fun c₁ c₂ hns => ?_
    obtain ⟨⟩ := c₁
    obtain ⟨⟩ := c₂
    cases hns
    -- names and places come first: comparing whole manifests would evaluate the texts in them. One
    -- binding lives in the system namespace, so it is neither of the two usual forms.
    first
      | refine alike_namespaced rfl ?_
      | refine alike_clusterWide ?_
      | refine ⟨rfl, rfl, ?_⟩
    first
      | exact .deployment _ _
      | exact .configMap (SortedMap.keys_ofList (by simp only [List.map_cons, List.map_nil]))
      | exact .secret (SortedMap.keys_ofList (by simp only [List.map_cons, List.map_nil]))
      | exact .webhook _ _
      | exact .apiService _ _
      | exact .same _

end Catalogue

/-! ## One configuration after another -/

open Memory

section Runs

variable {m : Memory} {d : Managed}

theorem ensure_created (hq : m.Quiet) (hkind : d.key.type ≠ Record.type)
    (hmissing : m.objects.get? d.key = none) :
    ∃ m' live, (ensure d .present).run.run Memory.answer m = (.ok .created, m') ∧ m'.Quiet ∧
      m'.objects.get? d.key = some live ∧ d.object.SameButAssigned live := by
  have hone : Missing [d] m := by
    refine ⟨by simp, fun d' hd' => ?_, fun d' hd' => ?_⟩
    · cases List.mem_singleton.1 hd'
      exact hkind
    · cases List.mem_singleton.1 hd'
      exact hmissing
  have hcreated := hone.created hq
  obtain ⟨live, hget, hlive⟩ := hcreated.stored d (List.mem_singleton_self d)
  exact ⟨_, live, ensurePresent_missing hq d hmissing, hcreated.quiet, hget, hlive⟩

/-- What is overwritten has the type and the body that are asked for. -/
theorem ensure_updated (hq : m.Quiet) (hkind : d.key.type ≠ Record.type) {live : Object}
    (hget : m.objects.get? d.key = some live) (hstale : d.object.isSettled live = false)
    (hip : Object.allocated? "clusterIP" live.body = none)
    (hips : Object.allocated? "clusterIPs" live.body = none) :
    ∃ m' stored, (ensure d .present).run.run Memory.answer m = (.ok .updated, m') ∧
      m'.objects.get? d.key = some stored ∧ stored.type = d.object.type ∧
        stored.body = d.object.body := by
  have hstored := sameButAssigned_replaced m m hkind (d.object.overlay live) live
  exact ⟨_, _, ensurePresent_stale hq d hget (Bool.eq_false_iff.1 hstale),
    SortedMap.get?_insert_self _ _, hstored.type,
    hstored.body.trans (Object.overlay_body d.object hip hips)⟩

end Runs

/-- A resource that is missing is created as one configuration says, and then brought to what
another one for the same namespace says of it.

If it lacks anything of that, it is overwritten: type and body are those of the second
configuration, and nothing is left of the first one. If it lacks nothing, it is left alone with the
body of the first configuration, which may then have more. That can be only with workloads: the
bodies of all other resources are in the end those of the second configuration. -/
theorem rolled_back {s : Subsystem} (hs : s ∈ Catalogue.controlPlane) {p : Production}
    (hp : p ∈ s.productions) {c₁ c₂ : Configuration} (hns : c₁.ns = c₂.ns) {d₁ d₂ : Managed}
    (h₁ : p.build c₁ = .ok d₁) (h₂ : p.build c₂ = .ok d₂) {m : Memory} (hq : m.Quiet)
    (hmissing : m.objects.get? d₁.key = none) :
    ∃ m₁ outcome m₂ stored,
      (ensure d₁ .present).run.run Memory.answer m = (.ok .created, m₁) ∧
      (ensure d₂ .present).run.run Memory.answer m₁ = (.ok outcome, m₂) ∧
      d₂.key = d₁.key ∧ m₂.objects.get? d₂.key = some stored ∧ stored.type = d₂.object.type ∧
      (d₂.object.isSettled d₁.object = false →
        outcome = .updated ∧ stored.body = d₂.object.body) ∧
      (d₂.object.isSettled d₁.object = true →
        outcome = .unchanged ∧ m₂ = m₁ ∧ stored.body = d₁.object.body) ∧
      (d₂.key.type ≠ Kind.deployment.type → d₂.key.type ≠ Kind.cronJob.type →
        stored.body = d₂.object.body) := by
  obtain ⟨x₁, x₂, rfl, rfl, halike⟩ := Catalogue.steady_controlPlane s hs p hp c₁ c₂ _ _ hns h₁ h₂
  have hkey : x₂.managed.key = x₁.managed.key := halike.key_eq
  have hkind : x₁.managed.key.type ≠ Record.type := x₁.content.kind_ne_record
  obtain ⟨m₁, live, hcreated, hq₁, hget, hlive⟩ := ensure_created hq hkind hmissing
  rw [← hkey] at hget hkind
  -- the store added to what was created, but nothing that the comparison looks at
  have hsame := x₂.managed.object.isSettled_congr hlive.sameButStatus
  cases hsettled : x₂.managed.object.isSettled x₁.managed.object with
  | true =>
    have hrun := ensurePresent_settled hq₁ x₂.managed hget (hsame.trans hsettled)
    refine ⟨m₁, .unchanged, m₁, live, hcreated, hrun, hkey, hget, ?_, ?_, ?_, ?_⟩
    · refine hlive.type.trans ?_
      exact congrArg (fun kind => some kind.type) halike.content.kind.symm
    · exact fun h => nomatch h
    · exact fun _ => ⟨rfl, rfl, hlive.body⟩
    · intro hdeployment hcronJob
      rw [hkey] at hdeployment hcronJob
      refine hlive.body.trans (halike.body_eq ?_ ?_ hsettled).symm
      · exact fun hkind => hdeployment (congrArg Kind.type hkind)
      · exact fun hkind => hcronJob (congrArg Kind.type hkind)
  | false =>
    obtain ⟨hip, hips⟩ := x₁.content.allocated?_body
    have hbody : live.body = x₁.content.body := hlive.body
    rw [← hbody] at hip hips
    obtain ⟨m₂, stored, hrun, hget₂, htype, hstored⟩ :=
      ensure_updated hq₁ hkind hget (hsame.trans hsettled) hip hips
    exact ⟨m₁, .updated, m₂, stored, hcreated, hrun, hkey, hget₂, htype, fun _ => ⟨rfl, hstored⟩,
      fun h => (nomatch h), fun _ _ => hstored⟩

/-! ## A choice of nodes that is taken back -/

namespace Record

/-- A record whose heartbeat is to run on nodes with a certain label. -/
def selective : Record :=
  { plain none with spec := { (plain none).spec with
      heartbeat := { HeartbeatSettings.none with
        workload := { WorkloadSettings.none with nodeSelector := .ofList [("disk", "ssd")] } } } }

/-- A record that leaves the nodes open and asks for more to be logged. -/
def debugging : Record :=
  { plain none with spec := { (plain none).spec with logLevel := some "debug" } }

end Record

/-- The nodes that the pods of a job on a schedule are to run on. -/
def Body.jobNodes? (b : Body) : Option Json := do
  let job ← (← b.find? "spec").member? "jobTemplate"
  let pod ← (← job.member? "spec").member? "template"
  (← pod.member? "spec").member? "nodeSelector"

theorem mem_controlPlane_heartbeat : Catalogue.Heartbeat.subsystem ∈ Catalogue.controlPlane := by
  simp [Catalogue.controlPlane]

theorem mem_heartbeat_cronJob : Production.present "cron-job" Catalogue.Heartbeat.cronJob ∈
    Catalogue.Heartbeat.subsystem.productions := by
  simp [Catalogue.Heartbeat.subsystem]

/-- The logs change, so the job is overwritten and its pods may run anywhere again. -/
theorem rolled_back_selective_debugging :
    ∃ c₁ c₂ d₁ d₂ m₁ m₂ stored,
      Configuration.resolve .selective = .ok c₁ ∧ Configuration.resolve .debugging = .ok c₂ ∧
      Catalogue.Heartbeat.cronJob c₁ = .ok d₁ ∧ Catalogue.Heartbeat.cronJob c₂ = .ok d₂ ∧
      (ensure d₁.managed .present).run.run Memory.answer (.empty .epoch) = (.ok .created, m₁) ∧
      (ensure d₂.managed .present).run.run Memory.answer m₁ = (.ok .updated, m₂) ∧
      m₂.objects.get? d₂.key = some stored ∧ stored.body = d₂.content.body ∧
      d₁.content.body.jobNodes? = some (.obj [("disk", .str "ssd")]) ∧
      stored.body.jobNodes? = none := by
  obtain ⟨c₁, c₂, d₁, d₂, hc₁, hc₂, hns, hd₁, hd₂, hstale, hnodes, hnone⟩ :
      ∃ c₁ c₂ d₁ d₂,
        Configuration.resolve .selective = .ok c₁ ∧ Configuration.resolve .debugging = .ok c₂ ∧
        c₁.ns = c₂.ns ∧
        Catalogue.Heartbeat.cronJob c₁ = .ok d₁ ∧ Catalogue.Heartbeat.cronJob c₂ = .ok d₂ ∧
        d₂.managed.object.isSettled d₁.managed.object = false ∧
        d₁.content.body.jobNodes? = some (.obj [("disk", .str "ssd")]) ∧
        d₂.content.body.jobNodes? = none :=
    ⟨_, _, _, _, rfl, rfl, rfl, rfl, rfl, by decide +kernel, rfl, rfl⟩
  have hq : (Memory.empty .epoch).Quiet := ⟨rfl, fun _ => rfl⟩
  obtain ⟨m₁, outcome, m₂, stored, hcreated, hrun, -, hget, -, hupdated, -, -⟩ :=
    rolled_back mem_controlPlane_heartbeat mem_heartbeat_cronJob hns
      (congrArg (Except.map Manifest.managed) hd₁) (congrArg (Except.map Manifest.managed) hd₂)
      hq rfl
  obtain ⟨rfl, hbody⟩ := hupdated hstale
  have hgone : stored.body.jobNodes? = none := (congrArg Body.jobNodes? hbody).trans hnone
  exact ⟨c₁, c₂, d₁, d₂, m₁, m₂, stored, hc₁, hc₂, hd₁, hd₂, hcreated, hrun, hget, hbody, hnodes,
    hgone⟩

/-- If the heartbeat may run anywhere again and nothing else changes, nothing is written: its pods
keep the nodes that are no longer asked for. -/
theorem chosen_nodes_survive :
    ∃ s ∈ Catalogue.controlPlane, ∃ p ∈ s.productions, ∃ c₁ c₂ d₁ d₂ m stored,
      Configuration.resolve .selective = .ok c₁ ∧ Configuration.resolve (.plain none) = .ok c₂ ∧
      c₁.ns = c₂.ns ∧ p.build c₁ = .ok d₁ ∧ p.build c₂ = .ok d₂ ∧
      (ensure d₁ .present).run.run Memory.answer (.empty .epoch) = (.ok .created, m) ∧
      (ensure d₂ .present).run.run Memory.answer m = (.ok .unchanged, m) ∧
      m.objects.get? d₂.key = some stored ∧ stored.body ≠ d₂.object.body ∧
      stored.body.jobNodes? = some (.obj [("disk", .str "ssd")]) ∧
      d₂.object.body.jobNodes? = none := by
  obtain ⟨c₁, c₂, d₁, d₂, hc₁, hc₂, hns, hd₁, hd₂, hkey, hsettled, hnodes, hnone⟩ :
      ∃ c₁ c₂ d₁ d₂,
        Configuration.resolve .selective = .ok c₁ ∧ Configuration.resolve (.plain none) = .ok c₂ ∧
        c₁.ns = c₂.ns ∧
        Catalogue.Heartbeat.cronJob c₁ = .ok d₁ ∧ Catalogue.Heartbeat.cronJob c₂ = .ok d₂ ∧
        d₂.key = d₁.key ∧ d₂.managed.object.isSettled d₁.managed.object = true ∧
        d₁.content.body.jobNodes? = some (.obj [("disk", .str "ssd")]) ∧
        d₂.content.body.jobNodes? = none :=
    ⟨_, _, _, _, rfl, rfl, rfl, rfl, rfl, rfl, by decide +kernel, rfl, rfl⟩
  have hempty : (Memory.empty .epoch).Quiet := ⟨rfl, fun _ => rfl⟩
  have hkind : d₁.managed.key.type ≠ Record.type := d₁.content.kind_ne_record
  obtain ⟨m, live, hcreated, hq, hget, hlive⟩ := ensure_created hempty hkind rfl
  have hget : m.objects.get? d₂.managed.key = some live :=
    (congrArg m.objects.get? hkey).trans hget
  have hrun := ensurePresent_settled hq d₂.managed hget
    ((d₂.managed.object.isSettled_congr hlive.sameButStatus).trans hsettled)
  have hkept : live.body.jobNodes? = some (.obj [("disk", .str "ssd")]) :=
    (congrArg Body.jobNodes? hlive.body).trans hnodes
  refine ⟨_, mem_controlPlane_heartbeat, _, mem_heartbeat_cronJob, c₁, c₂, d₁.managed, d₂.managed, m,
    live, hc₁, hc₂, hns, congrArg (Except.map Manifest.managed) hd₁,
    congrArg (Except.map Manifest.managed) hd₂, hcreated, hrun, hget, fun hsame => ?_, hkept, hnone⟩
  cases hkept.symm.trans ((congrArg Body.jobNodes? hsame).trans hnone)

end MeshOperator
