import Mathlib.Data.List.Forall2
import MeshOperator.Json.Printer
import MeshOperator.Proofs.RemoteCalls

/-!
What a store asks of its server.

For an object of a known kind it asks once, below the path of the kind, or not at all. For any other
type it explores the server first, and again with every call, until an exploration has found where
the objects of the type are kept; from then on it never does.
-/

namespace MeshOperator

set_option autoImplicit false

/-! ## Paths of kinds -/

/-- The target lies in the namespace, below the API version of the kind. -/
def Kind.IsWithin (kind : Kind) (ns target : String) : Prop :=
  ∃ rest, target = (Collection.ofKind kind).root ++ kind.type.apiVersion ++ "/namespaces/" ++ ns ++
    "/" ++ rest

namespace Kind

theorem mem_registry_of_find? {type : TypeName} {kind : Kind} (h : find? type = some kind) :
    kind ∈ registry := List.mem_of_find?_eq_some h

/-- No kind without namespaces is mistaken for a namespace. -/
theorem plural_head_ne {kind : Kind} (h : kind ∈ registry) (hcluster : kind.namespaced = false) :
    ∃ c rest, kind.plural.toList = c :: rest ∧ c ≠ 'n' := by
  have hall : ∀ kind ∈ registry, kind.namespaced = false →
      (kind.plural.toList.head?.any (· ≠ 'n')) = true := by decide
  have hhead := hall kind h hcluster
  cases hplural : kind.plural.toList with
  | nil =>
    rw [hplural] at hhead
    cases hhead
  | cons c rest =>
    rw [hplural] at hhead
    exact ⟨c, rest, rfl, of_decide_eq_true hhead⟩

/-- The path of an object says in which namespace it is, if there are namespaces. -/
theorem isWithin_path_iff {kind : Kind} (h : kind ∈ registry) {key : ObjectKey}
    (hplaced : kind.namespaced = true → key.ns ≠ none) (rest : String) :
    (∃ ns, key.ns = some ns ∧ kind.IsWithin ns ((Collection.ofKind kind).path key.ns ++ rest)) ↔
      kind.namespaced = true := by
  constructor
  · rintro ⟨ns, -, tail, htail⟩
    cases hcluster : kind.namespaced with
    | true => rfl
    | false =>
      -- Behind the API version stands the plural, which would have to begin like "namespaces/".
      obtain ⟨c, more, hplural, hc⟩ := plural_head_ne h hcluster
      have hhead : c = 'n' := by
        have hlist := congrArg String.toList htail
        simp [Collection.path, Collection.place, Collection.ofKind, hcluster, hplural] at hlist
        exact hlist.1
      exact absurd hhead hc
  · intro hnamespaced
    obtain ⟨ns, hns⟩ := Option.ne_none_iff_exists'.1 (hplaced hnamespaced)
    refine ⟨ns, hns, kind.plural ++ rest, ?_⟩
    simp [Collection.path, Collection.place, Collection.ofKind, hnamespaced, hns,
      ← String.toList_inj]

end Kind

namespace Remote

/-- A request, and the response to it if one arrives. -/
abbrev Trip : Type := (_ : Request) × Option Response

/-- How often the server was explored. -/
def explorations (trips : List Trip) : Nat := trips.countP (·.1.isForGroups)

theorem explorations_append (trips more : List Trip) :
    explorations (trips ++ more) = explorations trips + explorations more := List.countP_append

theorem explorations_eq_zero {trips : List Trip} (h : ∀ t ∈ trips, t.1.isForGroups = false) :
    explorations trips = 0 := List.countP_eq_zero.2 fun t ht => Bool.eq_false_iff.1 (h t ht)

variable {σ : Type} {send : Request → σ → Option Response × σ} {type : TypeName}
  {located : Located} {collection : Collection} {line : σ} {s : Located × σ} {c : Call}
  {key : ObjectKey}

/-! ## Requests of one call -/

/-- A request about an object is no exploration, wherever the object is kept. -/
theorem explorations_fetch :
    explorations ((fetch key c.method (c.target collection key) c.body c.read).turns send line) =
      0 := by
  refine explorations_eq_zero fun t ht => ?_
  rw [turns_fetch, Option.mem_toList, Option.map_eq_some_iff] at ht
  obtain ⟨sent, hsent, rfl⟩ := ht
  obtain ⟨rest, hrest⟩ := c.target_eq collection key
  have hroot : collection.root = "/api/" ∨ collection.root = "/apis/" := by
    unfold Collection.root
    split
    · exact .inl rfl
    · exact .inr rfl
  rw [hrest, Collection.path, String.append_assoc, String.append_assoc, String.append_assoc,
    String.append_assoc] at hsent
  exact Request.isForGroups_of_root hroot hsent

theorem explorations_locate : explorations ((Discovery.locate type).turns send line) = 1 := by
  obtain ⟨response, more, hturns, hmore⟩ := Discovery.turns_locate send line type
  rw [hturns, explorations, List.countP_cons]
  exact congrArg (· + 1) (explorations_eq_zero hmore)

/-! ## Runs of one call -/

theorem run_resolve_known (h : known? located type = some collection) :
    (resolve type located).run send line = ((.ok collection, located), line) ∧
      (resolve type located).turns send line = [] := by
  rw [resolve_known h]
  exact ⟨rfl, rfl⟩

theorem run_resolve_unknown (h : known? located type = none) :
    (resolve type located).run send line =
        (remember type located ((Discovery.locate type).run send line).1,
          ((Discovery.locate type).run send line).2) ∧
      (resolve type located).turns send line = (Discovery.locate type).turns send line := by
  rw [resolve_unknown h, Dialogue.run_map, Dialogue.turns_map]
  exact ⟨rfl, rfl⟩

/-- What a call remembers is what it remembers of looking for the collection. -/
theorem located_answer (hc : c.about = .ok key) :
    ((answer c located).run send line).1.2 = ((resolve key.type located).run send line).1.2 := by
  rcases hfound : (resolve key.type located).run send line with ⟨⟨r, located'⟩, line'⟩
  cases hr : r.bind (c.accept key) with
  | error e => rw [(run_answer_error hc hfound hr).1]
  | ok collection => rw [(run_answer_ok hc hfound hr).1]

/-- A call first looks for a collection and then makes at most one request, which is not for the
groups. -/
theorem turns_answer (hc : c.about = .ok key) :
    ∃ own : List Trip,
      (answer c located).turns send line = (resolve key.type located).turns send line ++ own ∧
        explorations own = 0 := by
  rcases hfound : (resolve key.type located).run send line with ⟨⟨r, located'⟩, line'⟩
  cases hr : r.bind (c.accept key) with
  | error e => exact ⟨[], by rw [(run_answer_error hc hfound hr).2, List.append_nil], rfl⟩
  | ok collection => exact ⟨_, (run_answer_ok hc hfound hr).2, explorations_fetch⟩

theorem explorations_of_known (hc : c.about = .ok key)
    (h : known? s.1 key.type = some collection) :
    explorations ((answer c s.1).turns send s.2) = 0 := by
  obtain ⟨own, hturns, hown⟩ := turns_answer hc
  rw [hturns, (run_resolve_known h).2, List.nil_append, hown]

theorem explorations_of_unknown (hc : c.about = .ok key) (h : known? s.1 key.type = none) :
    explorations ((answer c s.1).turns send s.2) = 1 ∧
      (Discovery.locate key.type).turns send s.2 <+: (answer c s.1).turns send s.2 := by
  obtain ⟨own, hturns, hown⟩ := turns_answer hc
  rw [(run_resolve_unknown h).2] at hturns
  refine ⟨?_, own, hturns.symm⟩
  rw [hturns, explorations_append, explorations_locate, hown]

theorem explorations_le_one (c : Call) (s : Located × σ) :
    explorations ((answer c s.1).turns send s.2) ≤ 1 := by
  cases hc : c.about with
  | error d =>
    rw [answer_keyless hc]
    exact Nat.zero_le 1
  | ok key =>
    cases h : known? s.1 key.type with
    | some collection => exact (explorations_of_known hc h).symm ▸ Nat.zero_le 1
    | none => exact Nat.le_of_eq (explorations_of_unknown hc h).1

/-! ## Calls one after another -/

section Life

variable (send)

def afterCalls (s : Located × σ) (calls : List Call) : Located × σ :=
  calls.foldl (fun s c => (store send c s).2) s

/-- The call looks for this type and finds where its objects are kept. -/
def Locates (type : TypeName) (s : Located × σ) (c : Call) : Prop :=
  ∃ key, c.about = .ok key ∧ key.type = type ∧
    ∃ collection, ((resolve type s.1).run send s.2).1.1 = .ok collection

/-- One of the calls, made one after another, finds where objects of this type are kept. -/
def LocatedBy (type : TypeName) : Located × σ → List Call → Prop
  | _, [] => False
  | s, c :: calls => Locates send type s c ∨ LocatedBy type (store send c s).2 calls

end Life

theorem isSome_lookup_resolve (hkind : Kind.find? type = none) (other : TypeName) :
    (((resolve other s.1).run send s.2).1.2.lookup type).isSome ↔
      (s.1.lookup type).isSome ∨ other = type ∧
        ∃ collection, ((resolve other s.1).run send s.2).1.1 = .ok collection := by
  cases h : known? s.1 other with
  | some collection =>
    rw [(run_resolve_known h).1]
    refine ⟨.inl, fun hor => hor.elim id ?_⟩
    rintro ⟨rfl, -⟩
    rw [← known?_eq_lookup hkind, h]
    rfl
  | none =>
    rw [(run_resolve_unknown h).1]
    cases ((Discovery.locate other).run send s.2).1 with
    | error e => simp [remember]
    | ok collection =>
      by_cases hother : other = type
      · simp [remember, hother]
      · have hne : (type == other) = false := by simpa using Ne.symm hother
        simp [remember, hother, List.lookup_cons, hne]

/-- What is remembered of a type changes with the call that finds it, and never again. -/
theorem isSome_lookup_store (hkind : Kind.find? type = none) (c : Call) (s : Located × σ) :
    ((store send c s).2.1.lookup type).isSome ↔
      (s.1.lookup type).isSome ∨ Locates send type s c := by
  have hstore : (store send c s).2.1 = ((answer c s.1).run send s.2).1.2 := rfl
  cases hc : c.about with
  | error d =>
    have hnot : ¬ Locates send type s c := by
      rintro ⟨key, hkey, -⟩
      cases hc.symm.trans hkey
    rw [hstore, answer_keyless hc, or_iff_left hnot]
    exact Iff.rfl
  | ok key =>
    rw [hstore, located_answer hc, isSome_lookup_resolve hkind]
    refine or_congr_right ⟨?_, ?_⟩
    · rintro ⟨rfl, hfound⟩
      exact ⟨key, hc, rfl, hfound⟩
    · rintro ⟨key', hkey', rfl, hfound⟩
      cases hc.symm.trans hkey'
      exact ⟨rfl, hfound⟩

theorem isSome_lookup_afterCalls (hkind : Kind.find? type = none) (calls : List Call)
    (s : Located × σ) :
    ((afterCalls send s calls).1.lookup type).isSome ↔
      (s.1.lookup type).isSome ∨ LocatedBy send type s calls := by
  induction calls generalizing s with
  | nil => exact (or_iff_left id).symm
  | cons c calls ih =>
    have hrest := ih (store send c s).2
    rw [isSome_lookup_store hkind, or_assoc] at hrest
    exact hrest

/-! ## Objects of known kinds -/

/-- How a call about an object of a known kind goes, whatever was asked before. -/
structure Direct (send : Request → σ → Option Response × σ) (c : Call) (key : ObjectKey)
    (kind : Kind) (s : Located × σ) : Prop where
  /-- Without a namespace an object has no place among those of a namespaced kind. -/
  refused : kind.namespaced = true → key.ns = none →
    (answer c s.1).turns send s.2 = [] ∧
      (store send c s).1 = .error (.invalid (Defect.unplaced key).text)
  /-- What is sent is what is valid of the target. -/
  asked : (kind.namespaced = true → key.ns ≠ none) →
    ∃ response, (answer c s.1).turns send s.2 =
      ((Target.sent? (c.target (.ofKind kind) key)).map fun sent =>
        ⟨⟨c.method, sent, c.body⟩, response⟩).toList
  once : (kind.namespaced = true → key.ns ≠ none) →
    Target.sent? (c.target (.ofKind kind) key) = some (c.target (.ofKind kind) key) →
      ∃ response, (answer c s.1).turns send s.2 =
        [⟨⟨c.method, c.target (.ofKind kind) key, c.body⟩, response⟩]
  within : (kind.namespaced = true → key.ns ≠ none) →
    ((∃ ns, key.ns = some ns ∧ kind.IsWithin ns (c.target (.ofKind kind) key)) ↔
      kind.namespaced = true)
  classified : ∀ t ∈ (answer c s.1).turns send s.2, ∀ r, t.2 = some r → r.isError = true →
    ∃ e, (store send c s).1 = .error e ∧ e.StandsFor key r.report

theorem accept_of_ne_list {c : Call} (h : c.verb ≠ .list) (key : ObjectKey)
    (collection : Collection) :
    c.accept key collection =
      if collection.namespaced ∧ key.ns = none then .error (.invalid (Defect.unplaced key).text)
      else .ok collection := by
  cases c with
  | list type ns => exact absurd rfl h
  | _ => rfl

theorem direct {kind : Kind} (hverb : c.verb ≠ .list) (hc : c.about = .ok key)
    (hkind : Kind.find? key.type = some kind) : Direct send c key kind s := by
  have hknown : known? s.1 key.type = some (.ofKind kind) := by rw [known?, hkind]
  obtain ⟨hfound, hsilent⟩ : _ ∧ (resolve key.type s.1).turns send s.2 = [] :=
    run_resolve_known hknown
  have haccept : (Except.ok (Collection.ofKind kind)).bind (c.accept key) =
      if kind.namespaced ∧ key.ns = none then .error (.invalid (Defect.unplaced key).text)
      else .ok (.ofKind kind) := accept_of_ne_list hverb key _
  by_cases hplaced : kind.namespaced = true → key.ns ≠ none
  · rw [if_neg fun h => hplaced h.1 h.2] at haccept
    obtain ⟨hrun, hturns⟩ := run_answer_ok hc hfound haccept
    rw [hsilent, List.nil_append] at hturns
    have hasked : ∃ response, (answer c s.1).turns send s.2 =
        ((Target.sent? (c.target (.ofKind kind) key)).map fun sent =>
          ⟨⟨c.method, sent, c.body⟩, response⟩).toList := by
      rw [hturns, turns_fetch]
      cases Target.sent? (c.target (.ofKind kind) key) with
      | none => exact ⟨none, rfl⟩
      | some sent => exact ⟨_, rfl⟩
    obtain ⟨rest, hrest⟩ := c.target_eq (.ofKind kind) key
    exact {
      refused := fun hnamespaced hns => absurd hns (hplaced hnamespaced)
      asked := fun _ => hasked
      once := fun _ hvalid => by rwa [hvalid] at hasked
      within := fun _ => by
        rw [hrest]
        exact Kind.isWithin_path_iff (Kind.mem_registry_of_find? hkind) hplaced rest
      classified := fun t ht r hr herror => by
        rw [hturns] at ht
        refine ⟨.ofReport key r.report, ?_, StoreError.standsFor_ofReport key r.report⟩
        rw [store, hrun]
        exact run_fetch_refused ht hr herror }
  · rw [if_pos (by simpa using hplaced)] at haccept
    obtain ⟨hrun, hturns⟩ := run_answer_error hc hfound haccept
    rw [hsilent] at hturns
    exact {
      refused := fun _ _ => ⟨hturns, by rw [store, hrun]⟩
      asked := fun h => absurd h hplaced
      once := fun h => absurd h hplaced
      within := fun h => absurd h hplaced
      classified := fun t ht => by
        rw [hturns] at ht
        cases ht }

/-! ## Lists -/

/-- The item is what the value reads as, with this type if the value comes without. -/
def ListItem (type : TypeName) (v : Json) (item : Object) : Prop :=
  ∃ o, Object.ofJson? v = some o ∧ item = { o with type := some (o.type.getD type) }

theorem listItems_of_list? {v : Json} {items : List Object}
    (h : Reply.list? type v = some items) :
    ∃ members values, v = .obj members ∧ Assoc.find? "items" members = some (.arr values) ∧
      List.Forall₂ (ListItem type) values items := by
  cases v with
  | obj members =>
    obtain ⟨-, -, h⟩ := Option.bind_eq_some_iff.1 h
    obtain ⟨read, hread, h⟩ := Option.bind_eq_some_iff.1 h
    cases h
    obtain ⟨w, hw, hread⟩ := Option.bind_eq_some_iff.1 hread
    cases w with
    | arr values =>
      have hmap : List.Forall₂ (· = ·) (values.map Object.ofJson?) (read.map some) := by
        rw [List.forall₂_eq_eq_eq]
        exact ReadAll.map_eq_of_mapM hread
      have hitems : List.Forall₂ (fun v o => Object.ofJson? v = some o) values read :=
        List.forall₂_map_left_iff.1 (List.forall₂_map_right_iff.1 hmap)
      refine ⟨members, values, rfl, hw, List.forall₂_map_right_iff.2 ?_⟩
      exact hitems.imp fun _ o ho => ⟨o, ho, rfl⟩
    | _ => cases hread
  | _ => cases h

/-- The last response has the items. -/
theorem run_list {ns : Option String} {items : List Object}
    (h : (store send (.list type ns) s).1 = .ok items) :
    ∃ t r v, ((answer (.list type ns) s.1).turns send s.2).getLast? = some t ∧ t.2 = some r ∧
      Json.parse r.text = some v ∧ Reply.list? type v = some items := by
  have hc : (Call.list type ns).about = .ok (listKey type ns) := rfl
  rcases hfound : (resolve type s.1).run send s.2 with ⟨⟨r, located'⟩, line'⟩
  cases hr : r.bind ((Call.list type ns).accept (listKey type ns)) with
  | error e =>
    rw [store, (run_answer_error hc hfound hr).1] at h
    cases h
  | ok collection =>
    obtain ⟨hrun, hturns⟩ := run_answer_ok hc hfound hr
    rw [store, hrun] at h
    obtain ⟨t, ht, response, hresponse, hread⟩ := run_fetch_ok h
    obtain ⟨v, hv, hread⟩ := Option.bind_eq_some_iff.1 hread
    refine ⟨t, response, v, ?_, hresponse, hv, hread⟩
    rw [turns_fetch, Option.mem_toList] at ht
    rw [hturns, turns_fetch, ht]
    exact List.getLast?_concat ..

/-! ## What is asked -/

/-- A store asks for an object of a known kind directly. Any other type it explores until it has
found it, each call at most once, and what it has found it does not explore again. The items of a
list come with the type that was asked for if they come without type. -/
theorem asks_only_what_is_needed (send : Request → σ → Option Response × σ) :
    (∀ (c : Call) (s : Located × σ), explorations ((answer c s.1).turns send s.2) ≤ 1) ∧
    (∀ (c : Call) (key : ObjectKey) (kind : Kind) (s : Located × σ), c.verb ≠ .list →
      c.about = .ok key → Kind.find? key.type = some kind → Direct send c key kind s) ∧
    (∀ (past : List Call) (line : σ) (c : Call) (key : ObjectKey), c.about = .ok key →
      Kind.find? key.type = none →
        let s := afterCalls send ([], line) past
        let trips := (answer c s.1).turns send s.2
        (LocatedBy send key.type ([], line) past → explorations trips = 0) ∧
          (¬ LocatedBy send key.type ([], line) past → explorations trips = 1 ∧
            (Discovery.locate key.type).turns send s.2 <+: trips)) ∧
    (∀ (type : TypeName) (ns : Option String) (s : Located × σ) (items : List Object),
      (store send (.list type ns) s).1 = .ok items →
        ∃ t r members values,
          ((answer (.list type ns) s.1).turns send s.2).getLast? = some t ∧ t.2 = some r ∧
            Json.parse r.text = some (.obj members) ∧
              Assoc.find? "items" members = some (.arr values) ∧
                List.Forall₂ (ListItem type) values items) := by
  refine ⟨explorations_le_one, fun c key kind s => direct, ?_, ?_⟩
  · intro past line c key hc hkind s trips
    have hlookup : (known? s.1 key.type).isSome ↔ LocatedBy send key.type ([], line) past := by
      rw [known?_eq_lookup hkind, isSome_lookup_afterCalls hkind]
      exact or_iff_right Bool.false_ne_true
    rw [← hlookup]
    cases h : known? s.1 key.type with
    | none => exact ⟨fun hsome => (nomatch hsome), fun _ => explorations_of_unknown hc h⟩
    | some collection => exact ⟨fun _ => explorations_of_known hc h, fun hnone => absurd rfl hnone⟩
  · intro type ns s items h
    obtain ⟨t, r, v, hlast, hr, hv, hread⟩ := run_list h
    obtain ⟨members, values, rfl, hvalues, hitems⟩ := listItems_of_list? hread
    exact ⟨t, r, members, values, hlast, hr, hv, hvalues, hitems⟩

/-- A server that serves pods, and has one of them. -/
def podServer (r : Request) (s : Unit) : Option Response × Unit :=
  let pods : Json := .obj [("kind", .str "Pod"), ("name", .str "pods"), ("namespaced", .bool true),
    ("singularName", .str "pod")]
  let reply := fun (v : Json) => (some ⟨200, v.text⟩, s)
  if r.target = "/apis" then reply (.obj [("groups", .arr [])])
  else if r.target = "/api" then reply (.obj [("versions", .arr [.str "v1"])])
  else if r.target = "/api/v1" then
    reply (.obj [("groupVersion", .str "v1"), ("resources", .arr [pods])])
  else if r.target = "/api/v1/pods?" then
    reply (.obj [("items", .arr [.obj [("metadata", .obj [("name", .str "web")])]]),
      ("metadata", .obj [])])
  else (some ⟨404, "not found"⟩, s)

theorem exists_ok_of_isSome {ε α : Type} {r : Except ε α} (h : r.toOption.isSome = true) :
    ∃ a, r = .ok a := by
  cases r with
  | ok a => exact ⟨a, rfl⟩
  | error e => cases h

def webPod : ObjectKey := ⟨"v1", "Pod", some "linkerd", "web"⟩

theorem locates_webPod : Locates podServer webPod.type ([], ()) (.get webPod) :=
  ⟨webPod, rfl, rfl, exists_ok_of_isSome (by decide +kernel)⟩

/-- What is remembered of pods once they have been found. -/
def foundPods : Located := [(webPod.type, ⟨"", "v1", "pods", true⟩)]

theorem exists_listed_pods :
    ∃ items, (store podServer (.list webPod.type none) (foundPods, ())).1 = .ok items :=
  exists_ok_of_isSome (by decide +kernel)

/-- A configuration map is asked for at once, or not at all if it is in no namespace. The server is
explored for the first pod but not for the second, and a list has pods. -/
theorem asks_only_what_is_needed_pods :
    let map : ObjectKey := ⟨"v1", "ConfigMap", some "linkerd", "notes"⟩
    let s := afterCalls podServer ([], ()) [.get webPod]
    (∃ response, (answer (.get map) []).turns podServer () =
        [⟨⟨.get, "/api/v1/namespaces/linkerd/configmaps/notes", none⟩, response⟩]) ∧
      (answer (.delete { map with ns := none }) []).turns podServer () = [] ∧
      explorations ((answer (.get webPod) []).turns podServer ()) = 1 ∧
      explorations ((answer (.get webPod) s.1).turns podServer s.2) = 0 ∧
      ∃ items values, (store podServer (.list webPod.type none) (foundPods, ())).1 = .ok items ∧
        List.Forall₂ (ListItem webPod.type) values items := by
  intro map s
  obtain ⟨-, hdirect, hexplored, hlist⟩ := asks_only_what_is_needed podServer
  have hmap : Direct podServer (.get map) map .configMap ([], ()) :=
    hdirect (.get map) map .configMap ([], ()) (by decide) rfl (by decide)
  have hplaceless : Direct podServer (.delete { map with ns := none }) { map with ns := none }
      .configMap ([], ()) := hdirect _ _ .configMap ([], ()) (by decide) rfl (by decide)
  have hpod : Kind.find? webPod.type = none := by decide
  obtain ⟨items, hitems⟩ := exists_listed_pods
  obtain ⟨t, r, members, values, -, -, -, -, hvalues⟩ :=
    hlist webPod.type none (foundPods, ()) items hitems
  exact ⟨hmap.once (by decide) (by decide), (hplaceless.refused rfl rfl).1,
    ((hexplored [] () (.get webPod) webPod rfl hpod).2 id).1,
    (hexplored [.get webPod] () (.get webPod) webPod rfl hpod).1 (.inl locates_webPod),
    items, values, hitems, hvalues⟩

end Remote

end MeshOperator
