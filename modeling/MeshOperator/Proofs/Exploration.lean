import MeshOperator.Remote.Discovery

/-!
What is asked to find out where a server keeps the objects of a kind.

Every exploration begins with the request for the groups and makes this request only once. Requests
about objects have another target, so that explorations can be counted in what a server is asked.
-/

namespace MeshOperator

set_option autoImplicit false

/-! ## What a dialogue may ask -/

namespace Dialogue

variable {Q : Type} {A : Q → Type} {α β σ : Type} {P : Q → Prop}

/-- Whatever the answers are, every question satisfies this. -/
def Asks (P : Q → Prop) : Dialogue Q A α → Prop
  | .done _ => True
  | .ask question next => P question ∧ ∀ answer, Asks P (next answer)

theorem Asks.bind {d : Dialogue Q A α} {f : α → Dialogue Q A β} (hd : Asks P d)
    (hf : ∀ a, Asks P (f a)) : Asks P (d >>= f) := by
  induction d with
  | done a => exact hf a
  | ask question next ih => exact ⟨hd.1, fun answer => ih answer (hd.2 answer)⟩

/-- This question comes first, and every other satisfies the property. -/
def OpensWith (q : Q) (P : Q → Prop) : Dialogue Q A α → Prop
  | .done _ => False
  | .ask question next => question = q ∧ ∀ answer, Asks P (next answer)

theorem OpensWith.bind {q : Q} {d : Dialogue Q A α} {f : α → Dialogue Q A β}
    (hd : OpensWith q P d) (hf : ∀ a, Asks P (f a)) : OpensWith q P (d >>= f) := by
  cases d with
  | done a => cases hd
  | ask question next => exact ⟨hd.1, fun answer => (hd.2 answer).bind hf⟩

section Turns

variable {answer : (q : Q) → σ → A q × σ} {s : σ}

theorem Asks.of_mem_turns {d : Dialogue Q A α} (h : Asks P d) {t : (q : Q) × A q}
    (ht : t ∈ d.turns answer s) : P t.1 := by
  induction d generalizing s with
  | done a => cases ht
  | ask question next ih =>
    rcases List.mem_cons.1 ht with rfl | ht
    · exact h.1
    · exact ih _ (h.2 _) ht

theorem OpensWith.turns_eq {q : Q} {d : Dialogue Q A α} (h : OpensWith q P d) :
    ∃ a more, d.turns answer s = ⟨q, a⟩ :: more ∧ ∀ t ∈ more, P t.1 := by
  cases d with
  | done a => cases h
  | ask question next =>
    obtain ⟨rfl, hnext⟩ := h
    exact ⟨_, _, rfl, fun t ht => (hnext _).of_mem_turns ht⟩

end Turns

end Dialogue

/-! ## Targets -/

theorem Target.toList_sent {target sent : String} (h : sent? target = some sent) :
    sent.toList = target.toList.takeWhile (· ≠ '#') := by
  unfold sent? at h
  split at h
  · cases h
  · simp only [Option.ite_none_right_eq_some, Option.some.injEq] at h
    rw [← h.2, String.toList_ofList]

/-- The request for the groups that a server has. -/
def Request.isForGroups (r : Request) : Bool := r.method = .get && r.target = "/apis"

/-- What lies below one of the two roots is not the list of groups, wherever it is cut. -/
theorem Request.isForGroups_of_root {root rest sent : String} {method : Method}
    {body : Option Json} (hroot : root = "/api/" ∨ root = "/apis/")
    (hsent : Target.sent? (root ++ rest) = some sent) :
    Request.isForGroups ⟨method, sent, body⟩ = false := by
  have hne : sent ≠ "/apis" := by
    rintro rfl
    have hlist := Target.toList_sent hsent
    rw [String.toList_append] at hlist
    rcases hroot with rfl | rfl <;> simp at hlist
  simp [isForGroups, hne]

namespace Discovery

variable {α β : Type} {P : Request → Prop}

/-! ## Searches -/

theorem asks_bind {p : Search α} {f : α → Search β} (hp : Dialogue.Asks P p.run)
    (hf : ∀ a, Dialogue.Asks P (f a).run) : Dialogue.Asks P (p >>= f).run :=
  Dialogue.Asks.bind hp fun r => by
    cases r with
    | ok a => exact hf a
    | error e => trivial

theorem opensWith_bind {q : Request} {p : Search α} {f : α → Search β}
    (hp : Dialogue.OpensWith q P p.run) (hf : ∀ a, Dialogue.Asks P (f a).run) :
    Dialogue.OpensWith q P (p >>= f).run :=
  Dialogue.OpensWith.bind hp fun r => by
    cases r with
    | ok a => exact hf a
    | error e => trivial

theorem asks_mapM {f : α → Search β} (hf : ∀ a, Dialogue.Asks P (f a).run) (items : List α) :
    Dialogue.Asks P (items.mapM f).run := by
  induction items with
  | nil => trivial
  | cons a rest ih =>
    rw [List.mapM_cons]
    exact asks_bind (hf a) fun b => asks_bind ih fun bs => trivial

theorem asks_get {target : String} {read : Json → Option α}
    (h : ∀ sent, Target.sent? target = some sent → P ⟨.get, sent, none⟩) :
    Dialogue.Asks P (get target read).run := by
  show Dialogue.Asks P (Exchange.fetch .get target none read)
  unfold Exchange.fetch
  split
  next => trivial
  next sent hsent => exact ⟨h sent hsent, fun _ => trivial⟩

theorem asks_needVersions (versions : List α) :
    Dialogue.Asks P (needVersions versions).run := by
  cases versions <;> trivial

/-! ## Explorations -/

/-- Any request but the one for the groups. -/
def Further (r : Request) : Prop := r.isForGroups = false

theorem further_exploreVersion {root : String} (hroot : root = "/api/" ∨ root = "/apis/")
    (v : ServedVersion) : Dialogue.Asks Further (exploreVersion root v).run :=
  asks_bind (asks_get fun _ hsent => Request.isForGroups_of_root hroot hsent) fun _ => trivial

theorem further_exploreGroup (g : ServedGroup) : Dialogue.Asks Further (exploreGroup g).run :=
  asks_bind (asks_needVersions _) fun versions =>
    asks_bind (asks_mapM (further_exploreVersion (.inr rfl)) versions) fun _ => trivial

theorem further_exploreCore : Dialogue.Asks Further exploreCore.run := by
  refine asks_bind (asks_get fun sent hsent => ?_) fun names => ?_
  · have hcore : Target.sent? "/api" = some "/api" := by decide
    cases hcore.symm.trans hsent
    exact rfl
  · refine asks_bind (asks_needVersions _) fun versions => ?_
    exact asks_bind (asks_mapM (fun v => further_exploreVersion (.inl rfl) ⟨v, v⟩) versions)
      fun _ => trivial

theorem opensWith_explore : Dialogue.OpensWith ⟨.get, "/apis", none⟩ Further explore.run := by
  have hget : Dialogue.OpensWith ⟨.get, "/apis", none⟩ Further
      (get "/apis" Served.groups?).run := by
    have hsent : Target.sent? "/apis" = some "/apis" := by decide
    show Dialogue.OpensWith _ _ (Exchange.fetch .get "/apis" none Served.groups?)
    rw [Exchange.fetch, hsent]
    exact ⟨rfl, fun _ => trivial⟩
  refine opensWith_bind hget fun groups => ?_
  refine asks_bind (asks_mapM further_exploreGroup groups) fun explored => ?_
  exact asks_bind further_exploreCore fun core => trivial

theorem opensWith_locate (type : TypeName) :
    Dialogue.OpensWith ⟨.get, "/apis", none⟩ Further (locate type) :=
  opensWith_explore.bind fun r => by
    cases r with
    | error e => trivial
    | ok groups =>
      dsimp only
      split <;> trivial

theorem turns_locate {σ : Type} (send : Request → σ → Option Response × σ) (line : σ)
    (type : TypeName) :
    ∃ response more, (locate type).turns send line = ⟨⟨.get, "/apis", none⟩, response⟩ :: more ∧
      ∀ t ∈ more, t.1.isForGroups = false := (opensWith_locate type).turns_eq

end Discovery

end MeshOperator
