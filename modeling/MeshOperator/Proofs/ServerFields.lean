import MeshOperator.Proofs.Containment
import MeshOperator.Proofs.StatusApart
import MeshOperator.Proofs.StatusDialogue

/-!
What servers fill in.

A desired value is compared without its status and without the fields of its metadata that servers
fill in. What is left asks for none of these, so that it makes no difference whether a live object
has them. Live objects that differ in nothing else are treated alike, whatever store holds them.
-/

namespace MeshOperator

set_option autoImplicit false

namespace Json

/-! ## Stripped values -/

/-- What is kept of a member. -/
def stripMember (m : String × Json) : String × Json :=
  (m.1, if m.1 = "metadata" then m.2.stripMetadata else m.2)

theorem strip_obj (members : Members) :
    (obj members).strip = .obj ((members.filter fun m => m.1 ≠ "status").map stripMember) := by
  have hmember : (fun m : String × Json =>
      if m.1 = "metadata" then (m.1, stripMetadata m.2) else m) = stripMember := by
    funext m
    unfold stripMember
    split <;> rfl
  rw [strip, hmember]

theorem member?_stripMetadata (v : Json) {name : String} (h : name ∉ serverFields) :
    v.stripMetadata.member? name = v.member? name := by
  cases v with
  | obj members =>
    have hkept : decide (name ∉ serverFields) = true := by simpa using h
    exact Assoc.find?_filter_of_pos (p := fun name => name ∉ serverFields) hkept members
  | _ => rfl

theorem member?_strip (v : Json) (name : String) :
    v.strip.member? name = if name = "status" then none
      else (v.member? name).map fun w => if name = "metadata" then w.stripMetadata else w := by
  cases v with
  | obj members =>
    rw [strip_obj]
    refine (Assoc.find?_map_values (fun name w => if name = "metadata" then stripMetadata w else w)
      name _).trans ?_
    by_cases h : name = "status"
    · rw [if_pos h, Option.map_eq_none_iff, Assoc.find?_eq_none_iff, h]
      exact fun m hm => by simpa using (List.mem_filter.1 hm).2
    · rw [if_neg h, Assoc.find?_filter_of_pos (p := fun name => name ≠ "status") (by simpa using h)]
      rfl
  | _ => simp [strip, member?]

@[simp] theorem stripMetadata_stripMetadata (v : Json) :
    v.stripMetadata.stripMetadata = v.stripMetadata := by
  cases v with
  | obj members => simp [stripMetadata]
  | _ => rfl

theorem stripMember_stripMember (m : String × Json) :
    stripMember (stripMember m) = stripMember m := by
  unfold stripMember
  split <;> simp

theorem strip_strip (v : Json) : v.strip.strip = v.strip := by
  cases v with
  | obj members =>
    have hkept : stripMember ∘ stripMember = stripMember := funext stripMember_stripMember
    have hnames : (fun m : String × Json => decide (m.1 ≠ "status")) ∘ stripMember =
        fun m => decide (m.1 ≠ "status") := rfl
    rw [strip_obj, strip_obj, List.filter_map, hnames, List.map_map, hkept, List.filter_filter]
    simp only [Bool.and_self]
  | _ => rfl

theorem presentMembers_filter (p : String → Bool) (fields : List (String × Option Json)) :
    presentMembers (fields.filter fun f => p f.1) =
      (presentMembers fields).filter fun m => p m.1 := by
  induction fields with
  | nil => rfl
  | cons f rest ih =>
    obtain ⟨name, value⟩ := f
    cases value <;> cases hp : p name <;> simp [presentMembers, hp] <;> exact ih

/-! ## Comparing with stripped values -/

/-- Of a live object only the members count that are asked for. -/
theorem membersSubset_congr {desired live other : Members}
    (h : ∀ m ∈ desired, (Assoc.find? m.1 live).elim m.2.isNull m.2.isSubset =
      (Assoc.find? m.1 other).elim m.2.isNull m.2.isSubset) :
    membersSubset desired live = membersSubset desired other := by
  rw [Bool.eq_iff_iff, membersSubset_iff, membersSubset_iff]
  exact forall₂_congr fun m hm => by rw [h m hm]

theorem isSubset_stripMetadata (desired live : Json) :
    desired.stripMetadata.isSubset live.stripMetadata = desired.stripMetadata.isSubset live := by
  cases live with
  | obj live =>
    cases desired with
    | obj desired =>
      refine membersSubset_congr fun m hm => ?_
      have hserver : m.1 ∉ serverFields := by simpa using (List.mem_filter.1 hm).2
      have hfind := member?_stripMetadata (.obj live) hserver
      exact congrArg (Option.elim · m.2.isNull m.2.isSubset) hfind
    | _ => rfl
  | _ => rfl

theorem isSubset_strip (desired live : Json) :
    desired.strip.isSubset live.strip = desired.strip.isSubset live := by
  cases live with
  | obj live =>
    cases desired with
    | obj desired =>
      rw [strip_obj, strip_obj]
      refine membersSubset_congr fun m hm => ?_
      obtain ⟨⟨name, w⟩, hmem, rfl⟩ := List.mem_map.1 hm
      have hstatus : name ≠ "status" := by simpa using (List.mem_filter.1 hmem).2
      have hfind := member?_strip (.obj live) name
      rw [strip_obj, if_neg hstatus] at hfind
      have hfind : Assoc.find? name ((live.filter fun m => m.1 ≠ "status").map stripMember) =
          (Assoc.find? name live).map fun w => if name = "metadata" then w.stripMetadata else w :=
        hfind
      show (Assoc.find? name _).elim _ _ = (Assoc.find? name live).elim _ _
      rw [hfind]
      cases Assoc.find? name live with
      | none => rfl
      | some x =>
        by_cases hname : name = "metadata"
        · simp only [stripMember, hname, if_true, Option.map_some, Option.elim_some]
          exact isSubset_stripMetadata w x
        · simp only [hname, if_false, Option.map_some]
    | _ => rfl
  | _ => rfl

end Json

/-! ## Live objects -/

/-- Metadata without what servers fill in. -/
def Metadata.withoutServerFields (m : Metadata) : Metadata :=
  { m with
    managedFields := none
    resourceVersion := none
    generation := none
    creationTimestamp := none
    uid := none
    selfLink := none }

theorem Metadata.stripMetadata_toJson (m : Metadata) :
    m.toJson.stripMetadata = m.withoutServerFields.toJson := by
  have hfields : (m.fields.filter fun f => f.1 ∉ Json.serverFields).filterMap
      (fun f => f.2.map fun v => (f.1, v)) = Json.presentMembers m.withoutServerFields.fields := rfl
  show Json.obj _ = Json.obj _
  rw [← Json.presentMembers_filter (fun name => name ∉ Json.serverFields)]
  exact congrArg _ hfields

namespace Object

theorem strip_toJson_congr {o o' : Object} (h : o.SameButStatus .withoutServerFields o') :
    o'.toJson.strip = o.toJson.strip := by
  have hascending : ∀ o : Object, Assoc.Ascending
      ((o.members.filter fun m => m.1 ≠ "status").map Json.stripMember) := by
    intro o
    have h : Assoc.Ascending o.members := ((Json.canonical_obj _).1 o.canonical_toJson).1
    exact List.pairwise_map.2 (h.filter _)
  have hmember : ∀ name, o'.toJson.strip.member? name = o.toJson.strip.member? name := by
    intro name
    rw [Json.member?_strip, Json.member?_strip]
    by_cases hstatus : name = "status"
    · rw [if_pos hstatus, if_pos hstatus]
    · rw [if_neg hstatus, if_neg hstatus, toJson_eq, toJson_eq, Json.member?, Json.member?]
      by_cases hmetadata : name = "metadata"
      · subst hmetadata
        simp only [find?_members_metadata, Option.map_some, if_true, Metadata.stripMetadata_toJson,
          h.metadata]
      · rw [find?_members, find?_members, h.members name hstatus, h.type]
        simp only [hmetadata, if_false]
  simp only [toJson_eq, Json.strip_obj] at hmember ⊢
  exact congrArg Json.obj (Assoc.eq_of_find? (hascending o') (hascending o) hmember)

/-- What servers fill in does not count. -/
theorem isSettled_congr (desired : Object) {o o' : Object}
    (h : o.SameButStatus .withoutServerFields o') : desired.isSettled o' = desired.isSettled o := by
  unfold isSettled
  rw [← Json.isSubset_strip, strip_toJson_congr h, Json.isSubset_strip]

end Object

/-! ## What is done about a live object -/

/-- What is said to a store that holds the live object, with the result, if this outcome is chosen:
the resource is read, and then either left alone or overwritten. -/
inductive Chosen (resource : Managed) (live : Object) :
    SyncOutcome → List Turn → Except SyncError SyncOutcome → Prop where
  | unchanged : Chosen resource live .unchanged [⟨.get resource.key, .ok live⟩] (.ok .unchanged)
  | updated (written : Object) :
      Chosen resource live .updated
        [⟨.get resource.key, .ok live⟩, ⟨.replace (resource.object.overlay live), .ok written⟩]
        (.ok .updated)
  | refused (e : StoreError) :
      Chosen resource live .updated
        [⟨.get resource.key, .ok live⟩, ⟨.replace (resource.object.overlay live), .error e⟩]
        (.error ⟨"update", resource.key, e⟩)

/-- What is said tells the choice. -/
theorem Chosen.unique {resource : Managed} {live : Object} {outcome outcome' : SyncOutcome}
    {t : List Turn} {result result' : Except SyncError SyncOutcome}
    (h : Chosen resource live outcome t result) (h' : Chosen resource live outcome' t result') :
    outcome = outcome' := by
  cases h <;> cases h' <;> rfl

/-- The outcome that is chosen is a matter of what the resource asks for. -/
theorem ensure_chosen {σ : Type} {answer : (c : Call) → σ → c.Answer × σ} {s : σ}
    {resource : Managed} {live : Object} (h : (answer (.get resource.key) s).1 = .ok live) :
    Chosen resource live (if resource.object.isSettled live then .unchanged else .updated)
      ((ensure resource .present).run.turns answer s)
      ((ensure resource .present).run.run answer s).1 := by
  have hget : answer (.get resource.key) s = (.ok live, (answer (.get resource.key) s).2) :=
    Prod.ext h rfl
  generalize (answer (.get resource.key) s).2 = s' at hget
  have hfind : (Attempt.find (SyncError.mk "get" resource.key) resource.key).run.run answer s =
      (.ok (some live), s') := Attempt.run_find_ok hget
  have hread : (Attempt.find (SyncError.mk "get" resource.key) resource.key).run.turns answer s =
      [⟨.get resource.key, .ok live⟩] := by
    show [(⟨.get resource.key, (answer (.get resource.key) s).1⟩ : Turn)] = _
    rw [h]
  show Chosen _ _ _ ((ensurePresent resource).run.turns answer s)
    ((ensurePresent resource).run.run answer s).1
  unfold ensurePresent
  rw [Attempt.turns_bind_ok hfind, Attempt.run_bind_ok hfind, hread]
  by_cases hsettled : resource.object.isSettled live = true
  · simp only [hsettled, if_true]
    exact .unchanged
  · simp only [hsettled]
    generalize hreplace : answer (.replace (resource.object.overlay live)) s' = reply
    obtain ⟨a, s''⟩ := reply
    have hwrite : (Attempt.ask (SyncError.mk "update" resource.key)
        (.replace (resource.object.overlay live))).run.turns answer s' =
          [⟨.replace (resource.object.overlay live), a⟩] := by
      show [(⟨_, (answer (.replace (resource.object.overlay live)) s').1⟩ : Turn)] = _
      rw [hreplace]
    cases a with
    | ok written =>
      have hask : (Attempt.ask (SyncError.mk "update" resource.key) _).run.run answer s' =
        (.ok written, s'') := Attempt.run_ask_ok hreplace
      simp only [Bool.false_eq_true, if_false]
      rw [Attempt.turns_bind_ok hask, Attempt.run_bind_ok hask, hwrite]
      exact .updated written
    | error e =>
      have hask : (Attempt.ask (SyncError.mk "update" resource.key) _).run.run answer s' =
        (.error ⟨"update", resource.key, e⟩, s'') := Attempt.run_ask_error hreplace
      simp only [Bool.false_eq_true, if_false]
      rw [Attempt.turns_bind_error hask, Attempt.run_bind_error hask, hwrite]
      exact .refused e

/-- Whether a live object has everything that is asked for is decided without what servers fill in.
So where two live objects, maybe in different stores, differ in nothing else, a resource that is to
be there is treated alike: both are left as they are, or both are overwritten. -/
theorem server_fields_never_decide :
    (∀ desired live : Json,
      desired.strip.isSubset live = true ↔ desired.strip.isSubset live.strip = true) ∧
    (∀ v : Json, v.strip.strip = v.strip) ∧
    ∀ {σ σ' : Type} (answer : (c : Call) → σ → c.Answer × σ)
      (answer' : (c : Call) → σ' → c.Answer × σ') (s : σ) (s' : σ') (resource : Managed)
      (live live' : Object), live.SameButStatus .withoutServerFields live' →
        (answer (.get resource.key) s).1 = .ok live →
        (answer' (.get resource.key) s').1 = .ok live' →
          ∃ outcome,
            Chosen resource live outcome ((ensure resource .present).run.turns answer s)
              ((ensure resource .present).run.run answer s).1 ∧
            Chosen resource live' outcome ((ensure resource .present).run.turns answer' s')
              ((ensure resource .present).run.run answer' s').1 := by
  refine ⟨fun desired live => ?_, Json.strip_strip, ?_⟩
  · rw [Json.isSubset_strip]
  · intro σ σ' answer answer' s s' resource live live' hsame h h'
    have hchosen := ensure_chosen h
    have hchosen' := ensure_chosen h'
    rw [resource.object.isSettled_congr hsame] at hchosen'
    exact ⟨_, hchosen, hchosen'⟩

/-- A configuration map with one entry. -/
def Managed.noting (text : String) : Managed where
  object := ⟨some Kind.configMap.type, { name := some "notes", ns := some "linkerd" },
    ⟨[("data", .obj [("note", .str text)])], by simp [Assoc.Ascending], by simp⟩⟩
  key := ⟨Kind.configMap.type.apiVersion, Kind.configMap.type.kind, some "linkerd", "notes"⟩
  keyed := rfl

/-- A store in which there is always this object, whatever is written. -/
def alwaysAnswer (live : Object) : (c : Call) → Unit → c.Answer × Unit
  | .get _, s | .create _, s | .replace _, s | .replaceStatus _, s => (.ok live, s)
  | .delete _, s => (.ok (), s)
  | .list _ _, s => (.ok [live], s)

/-- The map has another entry than the one that is asked for. It is overwritten with or without an
identifier, a resource version and a status. -/
theorem server_fields_never_decide_noting :
    let live := (Managed.noting "old").object
    let live' : Object :=
      { live with
        metadata := { live.metadata with uid := some "u-1", resourceVersion := some "7" }
        body := live.body.set "status" (by decide) (.str "seen") trivial }
    let run := (ensure (.noting "new") .present).run
    live.SameButStatus .withoutServerFields live' ∧
      (alwaysAnswer live (.get (Managed.noting "new").key) ()).1 = .ok live ∧
      (alwaysAnswer live' (.get (Managed.noting "new").key) ()).1 = .ok live' ∧
      Chosen (.noting "new") live .updated (run.turns (alwaysAnswer live) ())
        (run.run (alwaysAnswer live) ()).1 ∧
      Chosen (.noting "new") live' .updated (run.turns (alwaysAnswer live') ())
        (run.run (alwaysAnswer live') ()).1 := by
  intro live live' run
  have hsame : live.SameButStatus .withoutServerFields live' :=
    ⟨rfl, rfl, fun _ hname => Body.find?_set_ne live.body (by decide) hname (.str "seen") trivial⟩
  obtain ⟨outcome, h, h'⟩ := server_fields_never_decide.2.2 (alwaysAnswer live)
    (alwaysAnswer live') () () (.noting "new") live live' hsame rfl rfl
  have hstale : (Managed.noting "new").object.isSettled live = false := by decide +kernel
  have hchosen : Chosen (.noting "new") live _ (run.turns (alwaysAnswer live) ())
    (run.run (alwaysAnswer live) ()).1 := ensure_chosen rfl
  rw [hstale] at hchosen
  cases h.unique hchosen
  exact ⟨hsame, rfl, rfl, h, h'⟩

end MeshOperator
