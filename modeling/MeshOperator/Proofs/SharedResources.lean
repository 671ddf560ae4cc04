import MeshOperator.Proofs.SharedKeys

/-!
Records in different namespaces.

Objects with shared keys are taken over by whichever record comes last. A pass for another record
leaves all the rest alone, so the next pass for the first one has to write nothing but what was
taken over. `Repaired` says what such a pass writes: all that is there but lacks something.
-/

namespace MeshOperator

set_option autoImplicit false

open Memory

/-! ## Repairs -/

namespace Memory

/-- The resource is there, but it lacks something. -/
def lacks (m : Memory) (d : Managed) : Bool :=
  (m.objects.get? d.key).any fun live => !d.object.isSettled live

theorem lacks_of_get? {m : Memory} {d : Managed} {live : Object}
    (hget : m.objects.get? d.key = some live) : m.lacks d = !d.object.isSettled live := by
  rw [lacks, hget, Option.any_some]

theorem not_isAs_of_lacks {m : Memory} {d : Managed} (h : m.lacks d = true) :
    ¬d.IsAs m .present := by
  rintro ⟨live, hget, hsettled⟩
  rw [lacks_of_get? hget, hsettled] at h
  cases h

/-- What these resources lacked was written, in their order, and nothing else. -/
structure Repaired (docs : List Managed) (m m' : Memory) : Prop where
  quiet : m'.Quiet
  journal : m'.journal = m.journal ++ (docs.filter m.lacks).map fun d => ⟨.replace, d.key⟩
  verb : ∀ key, m'.statusVerb key = m.statusVerb key
  frame : ∀ key, key ∉ (docs.filter m.lacks).map (·.key) →
    m'.objects.get? key = m.objects.get? key

namespace Repaired

variable {m m₁ m₂ : Memory} {docs others : List Managed}

theorem nil (hq : m.Quiet) : Repaired [] m m :=
  ⟨hq, (List.append_nil _).symm, fun _ => rfl, fun _ _ => rfl⟩

theorem get?_eq (h : Repaired docs m m₁) {key : ObjectKey} (hkey : key ∉ docs.map (·.key)) :
    m₁.objects.get? key = m.objects.get? key := by
  have hsub : (docs.filter m.lacks).map (·.key) ⊆ docs.map (·.key) :=
    List.map_subset _ (List.filter_subset_self docs)
  exact h.frame key fun hmem => hkey (hsub hmem)

theorem append (h : Repaired docs m m₁) (h' : Repaired others m₁ m₂)
    (hnodup : ((docs ++ others).map (·.key)).Nodup) : Repaired (docs ++ others) m m₂ := by
  rw [List.map_append, List.nodup_append] at hnodup
  have hlacks : others.filter m₁.lacks = others.filter m.lacks := by
    refine List.filter_congr fun d hd => ?_
    -- no resource has the key of another, so what one repair leaves the next one finds
    rw [lacks, lacks, h.get?_eq fun hmem => hnodup.2.2 _ hmem _ (List.mem_map_of_mem hd) rfl]
  refine ⟨h'.quiet, ?_, fun key => (h'.verb key).trans (h.verb key), fun key hkey => ?_⟩
  · rw [h'.journal, h.journal, hlacks, List.filter_append, List.map_append, List.append_assoc]
  · rw [List.filter_append, List.map_append, List.mem_append, not_or] at hkey
    exact (h'.frame key (hlacks ▸ hkey.2)).trans (h.frame key hkey.1)

end Repaired

end Memory

section Repairs

variable {m : Memory}

theorem ensure_repairs (hq : m.Quiet) {d : Managed} (hstored : (m.objects.get? d.key).isSome) :
    ∃ outcome m', (ensure d .present).run.run Memory.answer m = (.ok outcome, m') ∧
      Repaired [d] m m' := by
  obtain ⟨live, hget⟩ := Option.isSome_iff_exists.1 hstored
  cases hsettled : d.object.isSettled live with
  | true =>
    have hlacks : m.lacks d = false := by
      rw [lacks_of_get? hget, hsettled]
      rfl
    refine ⟨.unchanged, m, ensurePresent_settled hq d hget hsettled, hq, ?_, fun _ => rfl,
      fun _ _ => rfl⟩
    rw [List.filter_singleton, hlacks]
    exact (List.append_nil _).symm
  | false =>
    have hlacks : m.lacks d = true := by
      rw [lacks_of_get? hget, hsettled]
      rfl
    refine ⟨.updated, _, ensurePresent_stale hq d hget (Bool.eq_false_iff.1 hsettled),
      ⟨hq.faults, hq.conflicts⟩, ?_, fun _ => rfl, fun key hkey => ?_⟩
    · rw [List.filter_singleton, hlacks]
      rfl
    · rw [List.filter_singleton, hlacks] at hkey
      exact SortedMap.get?_insert_ne _ _ (List.ne_of_not_mem_cons hkey)

theorem ensured_repaired {docs : List Managed} (hq : m.Quiet)
    (hnodup : (docs.map (·.key)).Nodup)
    (hstored : ∀ d ∈ docs, (m.objects.get? d.key).isSome) :
    ∃ m', Ensured (docs.map fun d => (d, .present)) m m' ∧ Repaired docs m m' := by
  induction docs generalizing m with
  | nil => exact ⟨m, .nil m, .nil hq⟩
  | cons d rest ih =>
    obtain ⟨hfirst, hrest⟩ := List.forall_mem_cons.1 hstored
    obtain ⟨hmem, hnodup'⟩ := List.nodup_cons.1 hnodup
    obtain ⟨outcome, m₁, hensure, hrepaired⟩ := ensure_repairs hq hfirst
    have hrest₁ : ∀ other ∈ rest, (m₁.objects.get? other.key).isSome := by
      intro other hother
      rw [hrepaired.get?_eq fun heq => hmem ?_]
      · exact hrest other hother
      · exact List.mem_singleton.1 heq ▸ List.mem_map_of_mem hother
    obtain ⟨m₂, hensured, hrepaired'⟩ := ih hrepaired.quiet hnodup' hrest₁
    exact ⟨m₂, .cons hensure hensured, hrepaired.append hrepaired' hnodup⟩

end Repairs

/-! ## Passes -/

section Passes

variable {m : Memory} {key : ObjectKey} {c : Configuration} {r : Record}
  {subsystems : List Subsystem} {rows : List (List (Managed × Existence))}

/-- A pass over a record that is to be installed settles what it renders, and touches nothing but
that and the record. -/
theorem Installable.pass (h : Installable key m c r) (hm : m.Reachable)
    (hkey : key.type = Record.type) (hrows : subsystems.mapM (·.render c) = .ok rows)
    (hapart : KeysApart subsystems c key) :
    ∃ m' written, (reconcilePass (subsystems.map Component.ofSubsystem) key).run.run
        Memory.answer m = (.ok .reconciled, m') ∧ Settled subsystems key m' c written ∧
      ∀ other, other ≠ key → other ∉ rows.flatten.map (·.1.key) →
        m'.objects.get? other = m.objects.get? other := by
  obtain ⟨r₁, m₁, hprepare, htouched, -, -⟩ :=
    prepare_quiet h.quiet hm hkey h.stored h.deletion h.managed h.version h.resolved
  obtain ⟨h₁, -⟩ := prepare_installable hm h.quiet hkey hprepare
  obtain ⟨m', written, hinstall, hsettled, hframe⟩ :=
    h₁.install (hm.of_run hprepare) hkey hrows hapart
  exact ⟨m', written, (Attempt.run_bind_ok hprepare).trans hinstall, hsettled,
    fun other hother hmem => (hframe other hother hmem).trans (htouched.frame other hother)⟩

/-- A pass over a record that is available repairs what it renders, if all of that is there, and
writes the status. -/
theorem Installable.repair (h : Installable key m c r) (hm : m.Reachable)
    (hkey : key.type = Record.type) (hphase : r.phase = some .available)
    (hrows : subsystems.mapM (·.render c) = .ok rows) {docs : List Managed}
    (hdocs : rows.flatten = docs.map fun d => (d, .present))
    (hapart : KeysApart subsystems c key)
    (hstored : ∀ d ∈ docs, (m.objects.get? d.key).isSome) :
    ∃ m', (reconcilePass (subsystems.map Component.ofSubsystem) key).run.run Memory.answer m =
        (.ok .reconciled, m') ∧
      m'.journal = m.journal ++ ((docs.filter m.lacks).map fun d => ⟨.replace, d.key⟩) ++
        [⟨m.statusVerb key, key⟩] ∧
      ∀ other, other ≠ key → other ∉ (docs.filter m.lacks).map (·.key) →
        m'.objects.get? other = m.objects.get? other := by
  obtain ⟨o, hget, ho⟩ := id h.stored
  have hprepare := run_prepare_known (run_fetchRecord (Attempt.run_find_ok (h.quiet.get_some hget))
    ho) h.deletion hphase (by decide) h.version h.resolved
  obtain ⟨hrecord, hnodup⟩ := List.nodup_cons.1 (hapart rows hrows)
  have hkeys : rows.flatten.map (·.1.key) = docs.map (·.key) := by
    rw [hdocs, List.map_map]
    rfl
  rw [hkeys] at hrecord hnodup
  obtain ⟨m₁, hensured, hrepaired⟩ := ensured_repaired h.quiet hnodup hstored
  have hcomponents := (hdocs ▸ hensured : Ensured rows.flatten m m₁).components hrows
  have h₁ := h.of_same (.refl r) hrepaired.quiet (h.stored.congr (hrepaired.get?_eq hrecord))
    h.managed
  obtain ⟨written, o₁, -, -, hset, -, -⟩ :=
    h₁.setPhase (hm.of_run hcomponents) hkey .available (by decide) ""
  refine ⟨_, (Attempt.run_bind_ok hprepare).trans (run_install hcomponents hset), ?_, ?_⟩
  · show m₁.journal ++ [⟨m₁.statusVerb key, key⟩] = _
    rw [hrepaired.journal, hrepaired.verb]
  · intro other hother hmem
    exact (SortedMap.get?_insert_ne _ _ hother).trans (hrepaired.frame other hmem)

end Passes

/-! ## One record after another -/

open Catalogue

/-- What became of these objects between two passes, of which the second one was about the others:
those that are not shared are as they were and settled; the shared ones are settled as the others
are to be, and lack something that these are to have. -/
structure Memory.TakenOver (docs others : List Managed) (m₁ m₂ : Memory) : Prop where
  kept : ∀ d ∈ docs, isShared d.key = false →
    m₂.objects.get? d.key = m₁.objects.get? d.key ∧ d.IsAs m₂ .present
  lost : ∀ d ∈ docs, isShared d.key = true → m₂.lacks d = true
  settled : ∀ d ∈ others, d.IsAs m₂ .present

section TakenOver

variable {m m₁ m₂ : Memory} {key other : ObjectKey} {c c' : Configuration} {r r' : Record}
  {docs docs' : List Managed}

theorem Memory.TakenOver.stored (h : TakenOver docs docs' m₁ m₂) {d : Managed} (hd : d ∈ docs) :
    (m₂.objects.get? d.key).isSome := by
  cases hshared : isShared d.key with
  | false =>
    obtain ⟨-, live, hget, -⟩ := h.kept d hd hshared
    rw [hget]
    rfl
  | true =>
    obtain ⟨hsome, -⟩ := (Option.any_eq_true_iff_get _ _).1 (h.lost d hd hshared)
    exact hsome

/-- Just the shared keys are those of objects that lack something. -/
theorem Memory.TakenOver.keys_lacking (h : TakenOver docs docs' m₁ m₂) :
    (docs.filter m₂.lacks).map (·.key) = sharedKeys docs := by
  have hlacks : docs.filter m₂.lacks = docs.filter (isShared ∘ (·.key)) := by
    refine List.filter_congr fun d hd => ?_
    show m₂.lacks d = isShared d.key
    cases hshared : isShared d.key with
    | false =>
      obtain ⟨-, live, hget, hsettled⟩ := h.kept d hd hshared
      rw [lacks_of_get? hget, hsettled]
      rfl
    | true => exact h.lost d hd hshared
  rw [hlacks, sharedKeys, List.filter_map]

theorem Catalogue.Rendered.isAs (h : Rendered c docs) (hsettled : Settled controlPlane key m c r) :
    ∀ d ∈ docs, d.IsAs m .present := by
  obtain ⟨rows, hrows, hdocs⟩ := h.rows
  obtain ⟨rows', hrows', hall⟩ := hsettled.resources
  cases hrows.symm.trans hrows'
  rw [hdocs] at hall
  exact fun d hd => hall (d, .present) (List.mem_map_of_mem hd)

/-- What is settled for one namespace lacks the label of another. -/
theorem Catalogue.Rendered.lacks (h : Rendered c docs) (h' : Rendered c' docs') (hns : c.ns ≠ c'.ns)
    (hsettled : ∀ d ∈ docs', d.IsAs m .present) {d : Managed} (hd : d ∈ docs)
    (hshared : isShared d.key = true) : m.lacks d = true := by
  obtain ⟨d', hd', hsame⟩ := List.mem_map.1 ((isShared_iff_mem hns h.keys h'.keys hd).1 hshared)
  obtain ⟨live, hget, hlive⟩ := hsettled d' hd'
  rw [hsame] at hget
  rw [lacks_of_get? hget, Bool.not_eq_true']
  refine Bool.eq_false_iff.2 fun hown => hns ?_
  obtain ⟨labels, hlabels, hvalue⟩ := h.labelled d hd
  obtain ⟨labels', hlabels', hvalue'⟩ := h'.labelled d' hd'
  obtain ⟨found, hfound, hname⟩ := Object.label_of_isSettled hown hlabels hvalue
  obtain ⟨found', hfound', hname'⟩ := Object.label_of_isSettled hlive hlabels' hvalue'
  cases hfound.symm.trans hfound'
  exact Option.some.inj (hname.symm.trans hname')

theorem Catalogue.Rendered.keys_of_rows (h : Rendered c docs) {rows : List (List (Managed × Existence))}
    (hrows : controlPlane.mapM (·.render c) = .ok rows) :
    rows.flatten.map (·.1.key) = docs.map (·.key) := by
  obtain ⟨rows', hrows', hdocs⟩ := h.rows
  cases hrows.symm.trans hrows'
  rw [hdocs, List.map_map]
  rfl

/-- A pass for one record, and then one for another in a different namespace. -/
theorem Installable.pass_twice (hm : m.Reachable) (hkey : key.type = Record.type)
    (hother : other.type = Record.type) (h : Installable key m c r)
    (h' : Installable other m c' r') (hne : key ≠ other) (hns : c.ns ≠ c'.ns)
    (hdocs : Rendered c docs) (hdocs' : Rendered c' docs') :
    let pass := reconcilePass (controlPlane.map Component.ofSubsystem)
    ∃ m₁ m₂ written, (pass key).run.run Memory.answer m = (.ok .reconciled, m₁) ∧
      (pass other).run.run Memory.answer m₁ = (.ok .reconciled, m₂) ∧
      (∀ d ∈ docs, d.IsAs m₁ .present) ∧ TakenOver docs docs' m₁ m₂ ∧
      Installable key m₂ c written ∧ written.phase = some .available := by
  intro pass
  obtain ⟨rows, hrows, -⟩ := hdocs.rows
  obtain ⟨rows', hrows', -⟩ := hdocs'.rows
  -- neither record is among the resources of the other
  obtain ⟨hmem, -⟩ := List.nodup_cons.1 (keysApart_controlPlane c hother rows hrows)
  obtain ⟨hmem', -⟩ := List.nodup_cons.1 (keysApart_controlPlane c' hkey rows' hrows')
  obtain ⟨m₁, w, hrun, hsettled, hframe⟩ :=
    h.pass hm hkey hrows (keysApart_controlPlane c hkey)
  have hinstallable := h'.of_same (.refl r') hsettled.quiet
    (h'.stored.congr (hframe other hne.symm hmem)) h'.managed
  obtain ⟨m₂, w', hrun', hsettled', hframe'⟩ :=
    hinstallable.pass (hm.of_run hrun) hother hrows' (keysApart_controlPlane c' hother)
  have hstored := hsettled.stored.congr (hframe' key hne hmem')
  rw [hdocs.keys_of_rows hrows] at hmem
  rw [hdocs'.keys_of_rows hrows'] at hframe'
  have hall := hdocs.isAs hsettled
  have hall' := hdocs'.isAs hsettled'
  refine ⟨m₁, m₂, w, hrun, hrun', hall, ⟨fun d hd hshared => ?_,
    fun d hd => hdocs.lacks hdocs' hns hall' hd, hall'⟩,
    hsettled.toInstallable.of_same (.refl w) hsettled'.quiet hstored hsettled.managed, ?_⟩
  · have hother' : d.key ≠ other := by
      rintro rfl
      exact hmem (List.mem_map_of_mem hd)
    have hget := hframe' d.key hother' fun hmem' => by
      rw [(isShared_iff_mem hns hdocs.keys hdocs'.keys hd).2 hmem'] at hshared
      cases hshared
    exact ⟨hget, (hall d hd).congr hget⟩
  · rw [Record.phase, hsettled.available]
    rfl

/-- Passes for two records in different namespaces, the first one once more at the end: each goes
through, and the last one repairs what was taken over. -/
theorem passes_in_turn (hm : m.Reachable) (hquiet : m.Quiet) (hkey : key.type = Record.type)
    (hother : other.type = Record.type) (hns : key.ns ≠ other.ns) (hstored : Record.StoredAs m key r)
    (hstored' : Record.StoredAs m other r') (hdeletion : r.metadata.deletionTimestamp = none)
    (hdeletion' : r'.metadata.deletionTimestamp = none) (hphase : r.phase ≠ some .unmanaged)
    (hphase' : r'.phase ≠ some .unmanaged) (hrender : render false r = .ok docs)
    (hrender' : render false r' = .ok docs') :
    let pass := reconcilePass (controlPlane.map Component.ofSubsystem)
    ∃ c c' m₁ m₂ m₃, Rendered c docs ∧ Rendered c' docs' ∧ c.ns ≠ c'.ns ∧
      (pass key).run.run Memory.answer m = (.ok .reconciled, m₁) ∧
      (pass other).run.run Memory.answer m₁ = (.ok .reconciled, m₂) ∧
      (pass key).run.run Memory.answer m₂ = (.ok .reconciled, m₃) ∧
      (∀ d ∈ docs, d.IsAs m₁ .present) ∧ TakenOver docs docs' m₁ m₂ ∧
      m₃.journal = m₂.journal ++ (sharedKeys docs).map (fun shared => ⟨.replace, shared⟩) ++
        [⟨m₂.statusVerb key, key⟩] := by
  intro pass
  obtain ⟨hversion, c, hresolve, hdocs⟩ := rendered_of_render hrender
  obtain ⟨hversion', c', hresolve', hdocs'⟩ := rendered_of_render hrender'
  have hkeyNs := hstored.ns_of_resolve hm hresolve
  have hotherNs := hstored'.ns_of_resolve hm hresolve'
  have hne : key ≠ other := fun heq => hns (congrArg ObjectKey.ns heq)
  have hapart : c.ns ≠ c'.ns := fun heq => hns (by rw [hkeyNs, hotherNs, heq])
  have h : Installable key m c r := ⟨hquiet, hstored, hdeletion, hphase, hversion, hresolve⟩
  have h' : Installable other m c' r' :=
    ⟨hquiet, hstored', hdeletion', hphase', hversion', hresolve'⟩
  obtain ⟨m₁, m₂, w, hrun, hrun', hall, htaken, hinstallable, havailable⟩ :=
    h.pass_twice hm hkey hother h' hne hapart hdocs hdocs'
  obtain ⟨rows, hrows, hflat⟩ := hdocs.rows
  obtain ⟨m₃, hrun'', hjournal, -⟩ := hinstallable.repair ((hm.of_run hrun).of_run hrun') hkey
    havailable hrows hflat (keysApart_controlPlane c hkey) fun d hd => htaken.stored hd
  refine ⟨c, c', m₁, m₂, m₃, hdocs, hdocs', hapart, hrun, hrun', hrun'', hall, htaken, ?_⟩
  rw [hjournal, ← htaken.keys_lacking, List.map_map]
  rfl

end TakenOver

/-- Two records in different namespaces that can both be rendered: a pass for the first one, then a
pass for the second one, and then another for the first one all go through.

* The objects of the two have the same shared keys, and no others in common.
* What the first pass has settled is left as it is by the second one, unless it is shared. What is
  shared is then as it is to be for the second record, and lacks something for the first one.
* The third pass writes the shared objects, in their order, and the status of the record; nothing
  else. -/
theorem shared_taken_over {m : Memory} (hm : m.Reachable) (hquiet : m.Quiet)
    {key other : ObjectKey} (hkey : key.type = Record.type) (hother : other.type = Record.type)
    (hns : key.ns ≠ other.ns) {r r' : Record} (hstored : Record.StoredAs m key r)
    (hstored' : Record.StoredAs m other r') (hdeletion : r.metadata.deletionTimestamp = none)
    (hdeletion' : r'.metadata.deletionTimestamp = none) (hphase : r.phase ≠ some .unmanaged)
    (hphase' : r'.phase ≠ some .unmanaged) {docs docs' : List Managed}
    (hrender : render false r = .ok docs) (hrender' : render false r' = .ok docs') :
    let pass := reconcilePass (controlPlane.map Component.ofSubsystem)
    sharedKeys docs = sharedKeys docs' ∧
    (∀ d ∈ docs, isShared d.key = true ↔ d.key ∈ docs'.map (·.key)) ∧
    ∃ m₁ m₂ m₃, (pass key).run.run Memory.answer m = (.ok .reconciled, m₁) ∧
      (pass other).run.run Memory.answer m₁ = (.ok .reconciled, m₂) ∧
      (pass key).run.run Memory.answer m₂ = (.ok .reconciled, m₃) ∧
      (∀ d ∈ docs, d.IsAs m₁ .present) ∧ TakenOver docs docs' m₁ m₂ ∧
      m₃.journal = m₂.journal ++ (sharedKeys docs).map (fun shared => ⟨.replace, shared⟩) ++
        [⟨m₂.statusVerb key, key⟩] := by
  intro pass
  obtain ⟨c, c', m₁, m₂, m₃, hdocs, hdocs', hapart, hrun, hrun', hrun'', hall, htaken, hjournal⟩ :=
    passes_in_turn hm hquiet hkey hother hns hstored hstored' hdeletion hdeletion' hphase hphase'
      hrender hrender'
  exact ⟨sharedKeys_eq hapart hdocs.keys hdocs'.keys,
    fun d hd => isShared_iff_mem hapart hdocs.keys hdocs'.keys hd,
    m₁, m₂, m₃, hrun, hrun', hrun'', hall, htaken, hjournal⟩

/-! ## Two plain records -/

/-- The plain record, but in another namespace. -/
def Record.elsewhere : Record :=
  { plain none with metadata := { (plain none).metadata with ns := some "elsewhere" } }

/-- A store with a plain record in each of the two namespaces. -/
def Memory.withElsewhere : Memory := ((ofPlain none).insert Record.elsewhere.object).2

theorem Memory.reachable_withElsewhere : withElsewhere.Reachable :=
  ⟨_, .step (.insert _) (.step (.insert _) (.start .epoch))⟩

theorem Memory.quiet_withElsewhere : withElsewhere.Quiet := ⟨rfl, fun _ => rfl⟩

theorem Record.storedAs_withElsewhere :
    StoredAs .withElsewhere (plain none).key ((plain none).inserted (.empty .epoch)) ∧
      StoredAs .withElsewhere elsewhere.key (elsewhere.inserted (.ofPlain none)) := by
  constructor
  · exact (storedAs_ofPlain none).insert rfl (by decide)
  · exact storedAs_insert _ rfl

/-- All the objects of the plain record are settled by its own pass, and after a pass for the other
one they are again up to those that are shared. -/
theorem shared_taken_over_elsewhere :
    let key := (Record.plain none).key
    let other := Record.elsewhere.key
    let pass := reconcilePass (controlPlane.map Component.ofSubsystem)
    ∃ docs docs' m₁ m₂ m₃, render false ((Record.plain none).inserted (.empty .epoch)) = .ok docs ∧
      render false (Record.elsewhere.inserted (.ofPlain none)) = .ok docs' ∧
      (pass key).run.run Memory.answer .withElsewhere = (.ok .reconciled, m₁) ∧
      (pass other).run.run Memory.answer m₁ = (.ok .reconciled, m₂) ∧
      (pass key).run.run Memory.answer m₂ = (.ok .reconciled, m₃) ∧
      TakenOver docs docs' m₁ m₂ ∧
      m₃.journal = m₂.journal ++ (sharedKeys docs).map (fun shared => ⟨.replace, shared⟩) ++
        [⟨m₂.statusVerb key, key⟩] := by
  intro key other pass
  obtain ⟨hstored, hstored'⟩ := Record.storedAs_withElsewhere
  obtain ⟨-, -, m₁, m₂, m₃, hrun, hrun', hrun'', -, htaken, hjournal⟩ :=
    shared_taken_over reachable_withElsewhere quiet_withElsewhere rfl rfl (by decide) hstored
      hstored' rfl rfl (by decide) (by decide) rfl rfl
  exact ⟨_, _, m₁, m₂, m₃, rfl, rfl, hrun, hrun', hrun'', htaken, hjournal⟩

/-- The role of the controller does not survive a pass for the other record: it lacks something of
what the plain record declares, and the next pass for that one writes more than the status. -/
theorem controller_role_lost :
    let key := (Record.plain none).key
    let other := Record.elsewhere.key
    let pass := reconcilePass (controlPlane.map Component.ofSubsystem)
    ∃ docs d m₁ m₂ m₃, render false ((Record.plain none).inserted (.empty .epoch)) = .ok docs ∧
      d ∈ docs ∧ d.key = Kind.clusterRole.keyIn none "linkerd-linkerd-controller" ∧
      (pass key).run.run Memory.answer .withElsewhere = (.ok .reconciled, m₁) ∧
      (pass other).run.run Memory.answer m₁ = (.ok .reconciled, m₂) ∧
      (pass key).run.run Memory.answer m₂ = (.ok .reconciled, m₃) ∧
      d.IsAs m₁ .present ∧ ¬d.IsAs m₂ .present ∧
      m₃.journal ≠ m₂.journal ++ [⟨m₂.statusVerb key, key⟩] := by
  intro key other pass
  obtain ⟨hstored, hstored'⟩ := Record.storedAs_withElsewhere
  obtain ⟨docs, hrender⟩ : ∃ docs,
      render false ((Record.plain none).inserted (.empty .epoch)) = .ok docs := ⟨_, rfl⟩
  obtain ⟨docs', hrender'⟩ : ∃ docs,
      render false (Record.elsewhere.inserted (.ofPlain none)) = .ok docs := ⟨_, rfl⟩
  obtain ⟨c, -, m₁, m₂, m₃, hdocs, -, -, hrun, hrun', hrun'', hall, htaken, hjournal⟩ :=
    passes_in_turn reachable_withElsewhere quiet_withElsewhere rfl rfl (by decide) hstored hstored'
      rfl rfl (by decide) (by decide) hrender hrender'
  have hrole : Kind.clusterRole.keyIn none "linkerd-linkerd-controller" ∈ docs.map (·.key) := by
    rw [hdocs.keys]
    exact List.mem_map.2 ⟨(.clusterRole, "linkerd-linkerd-controller"), by decide, rfl⟩
  obtain ⟨d, hd, hdkey⟩ := List.mem_map.1 hrole
  have hshared : isShared d.key = true := by
    rw [hdkey]
    rfl
  refine ⟨docs, d, m₁, m₂, m₃, hrender, hd, hdkey, hrun, hrun', hrun'', hall d hd,
    not_isAs_of_lacks (htaken.lost d hd hshared), fun hsame => ?_⟩
  rw [hjournal, List.append_left_inj, List.append_right_eq_self, List.map_eq_nil_iff] at hsame
  exact List.ne_nil_of_mem (List.mem_filter.2 ⟨List.mem_map_of_mem hd, hshared⟩) hsame

end MeshOperator
