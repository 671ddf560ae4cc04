import MeshOperator.Proofs.Exploration
import MeshOperator.Remote.Store

/-!
A single call to a store that is a server at the other end of a line.

The collection of what the call is about is looked for once or twice, but the second look asks
nothing. After that there is one request at most, `Remote.request`. A call that is about nothing,
and one about an object that has no place in its collection, makes none.
-/

namespace MeshOperator

set_option autoImplicit false

/-! ## What calls are about -/

namespace Call

/-- The object that a call is about, or the collection that it lists. An object may have no key. -/
def about : Call → Except Defect ObjectKey
  | .get key | .delete key => .ok key
  | .create object | .replace object | .replaceStatus object => object.key
  | .list type ns => .ok (Remote.listKey type ns)

def method : Call → Method
  | .get _ | .list _ _ => .get
  | .create _ => .post
  | .replace _ | .replaceStatus _ => .put
  | .delete _ => .delete

def target (collection : Collection) (key : ObjectKey) : Call → String
  | .get _ => collection.objectPath key
  | .create _ | .list _ _ => collection.path key.ns ++ "?"
  | .replace _ | .delete _ => collection.objectPath key ++ "?"
  | .replaceStatus _ => collection.objectPath key ++ "/status?"

def body : Call → Option Json
  | .get _ | .list _ _ => none
  | .create object | .replace object | .replaceStatus object => some object.toJson
  | .delete _ => some (.obj [])

def read : (c : Call) → Json → Option c.Reply
  | .get _ | .create _ | .replace _ | .replaceStatus _ => Object.ofJson?
  | .delete _ => Remote.Reply.deleted?
  | .list type _ => Remote.Reply.list? type

/-- Only a list does without a namespace where there are namespaces. -/
def accept (key : ObjectKey) (collection : Collection) : Call → Except StoreError Collection
  | .list _ _ => .ok collection
  | _ =>
    if collection.namespaced ∧ key.ns = none then .error (.invalid (Defect.unplaced key).text)
    else .ok collection

theorem target_eq (c : Call) (collection : Collection) (key : ObjectKey) :
    ∃ rest, c.target collection key = collection.path key.ns ++ rest := by
  cases c <;> simp only [target, Collection.objectPath, String.append_assoc] <;> exact ⟨_, rfl⟩

end Call

namespace StoreError

/-- The error stands for what a server reports about the object with this key. -/
structure StandsFor (e : StoreError) (key : ObjectKey) (report : Report) : Prop where
  notFound : e = .notFound key ↔ report.code = 404
  alreadyExists : e = .alreadyExists key ↔ report.code = 409 ∧ report.reason = "AlreadyExists"
  conflict : e = .conflict key ↔ report.code = 409 ∧ report.reason ≠ "AlreadyExists"
  api : e = .api report.code report.reason report.message ↔
    report.code ≠ 404 ∧ report.code ≠ 409

theorem standsFor_ofReport (key : ObjectKey) (report : Report) :
    (ofReport key report).StandsFor key report := by
  unfold ofReport
  split
  next hmissing => constructor <;> simp [hmissing]
  next hother =>
    split
    next hconflict => split <;> constructor <;> simp [*]
    next => constructor <;> simp [*]

end StoreError

namespace Remote

variable {σ : Type} {send : Request → σ → Option Response × σ} {type : TypeName}
  {located located' : Located} {collection : Collection} {line line' : σ}

/-! ## Looking for collections -/

theorem resolve_known (h : known? located type = some collection) :
    resolve type located = .done (.ok collection, located) := by
  rw [resolve, h]

/-- Only what was found is remembered. -/
def remember (type : TypeName) (located : Located) :
    Except StoreError Collection → Except StoreError Collection × Located
  | .ok collection => (.ok collection, (type, collection) :: located)
  | .error e => (.error e, located)

theorem resolve_unknown (h : known? located type = none) :
    resolve type located = remember type located <$> Discovery.locate type := by
  rw [resolve, h, map_eq_pure_bind]
  refine bind_congr fun r => ?_
  cases r <;> rfl

theorem known?_eq_lookup (hkind : Kind.find? type = none) (located : Located) :
    known? located type = located.lookup type := by
  rw [known?, hkind]

theorem find?_of_unknown (h : known? located type = none) : Kind.find? type = none := by
  unfold known? at h
  split at h
  next => cases h
  next hkind => exact hkind

/-- The second look asks nothing. -/
theorem resolveFor_eq (key : ObjectKey) (located : Located) :
    resolveFor key located =
      (fun found => (found.1.bind ((Call.get key).accept key), found.2)) <$>
        resolve key.type located := by
  have hagain : ∀ {collection located}, known? located key.type = some collection →
      (if collection.namespaced ∧ key.ns = none then
        (.done (.error (.invalid (Defect.unplaced key).text), located) :
          Exchange (Except StoreError Collection × Located))
      else resolve key.type located) = .done ((Call.get key).accept key collection, located) := by
    intro collection located h
    unfold Call.accept
    split
    · rfl
    · exact resolve_known h
  unfold resolveFor
  cases h : known? located key.type with
  | some collection =>
    rw [resolve_known h]
    exact hagain h
  | none =>
    have hself : ∀ collection,
        known? ((key.type, collection) :: located) key.type = some collection := by
      intro collection
      rw [known?_eq_lookup (find?_of_unknown h), List.lookup_cons_self]
    rw [resolve_unknown h, bind_map_left, Functor.map_map, map_eq_pure_bind]
    refine bind_congr fun r => ?_
    cases r with
    | error e => rfl
    | ok collection => exact hagain (hself collection)

theorem answer_eq {c : Call} {key : ObjectKey} (h : c.about = .ok key) (located : Located) :
    answer c located =
      withCollection ((fun found => (found.1.bind (c.accept key), found.2)) <$>
        resolve key.type located) fun collection =>
          fetch key c.method (c.target collection key) c.body c.read := by
  cases c with
  | get key' | delete key' =>
    cases h
    rw [answer, onObject, inCollection, resolveFor_eq]
    rfl
  | create object | replace object | replaceStatus object =>
    rw [answer, keyed, show object.key = .ok key from h]
    simp only [onObject, inCollection, resolveFor_eq]
    rfl
  | list type ns =>
    cases h
    have haccept : (fun found : Except StoreError Collection × Located =>
        (found.1.bind ((Call.list type ns).accept (listKey type ns)), found.2)) = id := by
      funext found
      obtain ⟨r, located⟩ := found
      cases r <;> rfl
    rw [haccept, id_map]
    rfl

/-! ## Requests -/

section Fetch

variable {α : Type} {key : ObjectKey} {method : Method} {target : String} {body : Option Json}
  {read : Json → Option α}

theorem fetch_eq : fetch key method target body read =
    (fun r : Except RequestFailure α => r.mapError (error key)) <$>
      Exchange.fetch method target body read := (map_eq_pure_bind _ _).symm

theorem turns_fetch : (fetch key method target body read).turns send line =
    ((Target.sent? target).map fun sent =>
      ⟨⟨method, sent, body⟩, (send ⟨method, sent, body⟩ line).1⟩).toList := by
  rw [fetch_eq, Dialogue.turns_map, Exchange.fetch]
  cases Target.sent? target <;> rfl

/-- The result is made of the response. -/
theorem run_fetch {t : (_ : Request) × Option Response}
    (ht : t ∈ (fetch key method target body read).turns send line) :
    ((fetch key method target body read).run send line).1 =
      (Exchange.textOf t.2 >>= Exchange.valueOf read).mapError (error key) := by
  rw [fetch_eq, Dialogue.turns_map, Exchange.fetch] at ht
  rw [fetch_eq, Dialogue.run_map, Exchange.fetch]
  cases hsent : Target.sent? target with
  | none =>
    rw [hsent] at ht
    cases ht
  | some sent =>
    rw [hsent] at ht
    cases List.mem_singleton.1 ht
    rfl

theorem run_fetch_refused {t : (_ : Request) × Option Response} {r : Response}
    (ht : t ∈ (fetch key method target body read).turns send line) (hr : t.2 = some r)
    (herror : r.isError = true) :
    ((fetch key method target body read).run send line).1 = .error (.ofReport key r.report) := by
  rw [run_fetch ht, hr, Exchange.textOf, if_pos herror]
  rfl

theorem run_fetch_ok {a : α} (h : ((fetch key method target body read).run send line).1 = .ok a) :
    ∃ t ∈ (fetch key method target body read).turns send line, ∃ r, t.2 = some r ∧
      (Json.parse r.text).bind read = some a := by
  cases hsent : Target.sent? target with
  | none =>
    rw [fetch_eq, Dialogue.run_map, Exchange.fetch, hsent] at h
    cases h
  | some sent =>
    have hmem : ⟨⟨method, sent, body⟩, (send ⟨method, sent, body⟩ line).1⟩ ∈
        (fetch key method target body read).turns send line := by
      rw [turns_fetch, hsent]
      exact List.mem_singleton_self _
    refine ⟨_, hmem, ?_⟩
    rw [run_fetch hmem] at h
    cases hresponse : (send ⟨method, sent, body⟩ line).1 with
    | none =>
      rw [hresponse] at h
      cases h
    | some r =>
      refine ⟨r, rfl, ?_⟩
      simp only [hresponse, Exchange.textOf] at h
      split at h
      · cases h
      · have hvalue : (Exchange.valueOf read r.text).mapError (error key) = .ok a := h
        unfold Exchange.valueOf at hvalue
        split at hvalue
        next v hv =>
          cases hvalue
          exact hv
        next => cases hvalue

end Fetch

/-! ## Runs -/

section Runs

variable {c : Call} {key : ObjectKey} {r : Except StoreError Collection}

theorem run_answer_error {e : StoreError} (hc : c.about = .ok key)
    (hfound : (resolve key.type located).run send line = ((r, located'), line'))
    (hr : r.bind (c.accept key) = .error e) :
    (answer c located).run send line = ((.error e, located'), line') ∧
      (answer c located).turns send line = (resolve key.type located).turns send line := by
  rw [answer_eq hc, withCollection, Dialogue.run_bind, Dialogue.turns_bind, Dialogue.run_map,
    Dialogue.turns_map, hfound]
  simp only [hr]
  exact ⟨rfl, List.append_nil _⟩

theorem run_answer_ok (hc : c.about = .ok key)
    (hfound : (resolve key.type located).run send line = ((r, located'), line'))
    (hr : r.bind (c.accept key) = .ok collection) :
    let request := fetch key c.method (c.target collection key) c.body c.read
    (answer c located).run send line =
        (((request.run send line').1, located'), (request.run send line').2) ∧
      (answer c located).turns send line =
        (resolve key.type located).turns send line ++ request.turns send line' := by
  rw [answer_eq hc, withCollection, Dialogue.run_bind, Dialogue.turns_bind, Dialogue.run_map,
    Dialogue.turns_map, hfound]
  simp only [hr]
  rw [Dialogue.run_bind, Dialogue.turns_bind]
  exact ⟨rfl, congrArg _ (List.append_nil _)⟩

theorem answer_keyless {d : Defect} (hc : c.about = .error d) (located : Located) :
    answer c located = .done (.error (.invalid d.text), located) := by
  cases c with
  | get key | delete key => cases hc
  | list type ns => cases hc
  | create object | replace object | replaceStatus object =>
    rw [answer, keyed, show object.key = .error d from hc]

end Runs

end Remote

end MeshOperator
