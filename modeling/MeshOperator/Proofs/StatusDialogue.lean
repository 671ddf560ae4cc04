import MeshOperator.Proofs.QuietMemory

/-!
What an update of the status says to a store, and what it makes of the answers.

Nothing is assumed about the store: it may answer any call with anything. `StatusTalk` lists the
dialogues that can come about, each with its result. There are at most two attempts to write the
status, of one or two calls each, and the record is read again between them.
-/

namespace MeshOperator

set_option autoImplicit false

/-! ## Turns -/

/-- A call, and the answer to it. -/
abbrev Turn : Type := (c : Call) × c.Answer

namespace Turn

def error? : Turn → Option StoreError
  | ⟨_, .error e⟩ => some e
  | ⟨_, .ok _⟩ => none

/-- The object that came back. -/
def object? : Turn → Option Object
  | ⟨.get _, .ok o⟩ | ⟨.create _, .ok o⟩ | ⟨.replace _, .ok o⟩ | ⟨.replaceStatus _, .ok o⟩ => some o
  | _ => none

/-- The answer is this error, or an object that cannot be read as a record, which is this error. -/
def Fails (x : Turn) (e : StoreError) : Prop :=
  x.error? = some e ∨ ∃ o, x.object? = some o ∧ Record.ofObject o = .error e

theorem fails_get {key : ObjectKey} {a : Except StoreError Object} {e : StoreError}
    (h : a.bind Record.ofObject = .error e) : Fails ⟨.get key, a⟩ e := by
  cases a with
  | error failure =>
    cases h
    exact .inl rfl
  | ok o => exact .inr ⟨o, rfl, h⟩

end Turn

theorem Record.bind_ofObject_conflict {a : Except StoreError Object} {key : ObjectKey}
    (h : a.bind ofObject = .error (.conflict key)) : a = .error (.conflict key) := by
  cases a with
  | error e =>
    cases h
    rfl
  | ok o => cases ofObject_error h

/-! ## Attempts -/

/-- An attempt to write the status of the record in this object, and the answer that it ends with.
The whole object is written just if its status was not found. -/
inductive StatusAttempt (o : Object) : List Turn → Except StoreError Object → Prop where
  | status {a : Except StoreError Object} (h : ∀ key, a ≠ .error (.notFound key)) :
      StatusAttempt o [⟨.replaceStatus o, a⟩] a
  | whole (key : ObjectKey) (a : Except StoreError Object) :
      StatusAttempt o [⟨.replaceStatus o, .error (.notFound key)⟩, ⟨.replace o, a⟩] a

namespace StatusAttempt

variable {o o' : Object} {t : List Turn} {a a' : Except StoreError Object}

theorem ne_nil (h : StatusAttempt o t a) : t ≠ [] := by
  cases h <;> exact List.cons_ne_nil _ _

theorem verb_ne_get (h : StatusAttempt o t a) : ∀ x ∈ t, x.1.verb ≠ .get := by
  cases h with
  | status _ =>
    rw [List.forall_mem_singleton]
    exact Verb.noConfusion
  | whole key a =>
    rw [List.forall_mem_cons, List.forall_mem_singleton]
    exact ⟨Verb.noConfusion, Verb.noConfusion⟩

theorem get_notMem (h : StatusAttempt o t a) (key : ObjectKey) (b : Except StoreError Object) :
    (⟨.get key, b⟩ : Turn) ∉ t := fun hmem => h.verb_ne_get _ hmem rfl

/-- The record is read once after an attempt. -/
theorem read_eq (h : StatusAttempt o t a) {key : ObjectKey} {b b' : Except StoreError Object}
    {u : List Turn} (hmem : (⟨.get key, b⟩ : Turn) ∈ t ++ ⟨.get key, b'⟩ :: u)
    (hu : (⟨.get key, b⟩ : Turn) ∉ u) : b = b' := by
  rcases List.mem_append.1 hmem with hmem | hmem
  · exact absurd hmem (h.get_notMem key b)
  · rcases List.mem_cons.1 hmem with heq | hmem
    · cases heq
      rfl
    · exact absurd hmem hu

theorem dropWhile_append (h : StatusAttempt o t a) {key : ObjectKey}
    {b : Except StoreError Object} {u : List Turn} :
    (t ++ ⟨.get key, b⟩ :: u).dropWhile (fun x => x.1.verb ≠ .get) = ⟨.get key, b⟩ :: u := by
  rw [List.dropWhile_append_of_pos (by simpa using h.verb_ne_get)]
  rfl

/-- What follows an attempt from a reading on is told by the turns. -/
theorem split {key key' : ObjectKey} {b b' : Except StoreError Object} {t' u u' : List Turn}
    (h : StatusAttempt o t a) (h' : StatusAttempt o' t' a')
    (heq : t ++ ⟨.get key, b⟩ :: u = t' ++ ⟨.get key', b'⟩ :: u') :
    (⟨.get key, b⟩ : Turn) :: u = ⟨.get key', b'⟩ :: u' := by
  rw [← h.dropWhile_append, heq, h'.dropWhile_append]

/-- The turns tell the answer that counts. -/
theorem unique (h : StatusAttempt o t a) (h' : StatusAttempt o' t a') : a = a' := by
  cases h with
  | status _ =>
    cases h'
    rfl
  | whole key a =>
    cases h'
    rfl

theorem last_fails {e : StoreError} (h : StatusAttempt o t a)
    (he : a.bind Record.ofObject = .error e) : ∃ x, t.getLast? = some x ∧ x.Fails e := by
  cases a with
  | error failure =>
    cases he
    cases h with
    | status _ => exact ⟨_, rfl, .inl rfl⟩
    | whole key _ => exact ⟨_, rfl, .inl rfl⟩
  | ok written =>
    cases h with
    | status _ => exact ⟨_, rfl, .inr ⟨written, rfl, he⟩⟩
    | whole key _ => exact ⟨_, rfl, .inr ⟨written, rfl, he⟩⟩

end StatusAttempt

section Runs

variable {σ : Type} (answer : (c : Call) → σ → c.Answer × σ) (s : σ)

theorem Procedure.turns_ask (c : Call) : (ask c).turns answer s = [⟨c, (answer c s).1⟩] := rfl

theorem Record.writeStatus_attempt (r : Record) :
    ∃ a, StatusAttempt r.object (r.writeStatus.turns answer s) a ∧
      (r.writeStatus.run answer s).1 = a.bind ofObject := by
  unfold writeStatus
  rw [toObject_eq]
  dsimp only
  rw [Dialogue.turns_bind, Dialogue.run_bind, Procedure.turns_ask, Procedure.run_ask]
  generalize answer (.replaceStatus r.object) s = reply
  obtain ⟨a, s'⟩ := reply
  cases a with
  | ok written => exact ⟨.ok written, .status (by simp), rfl⟩
  | error e =>
    cases e with
    | notFound key =>
      dsimp only
      rw [Dialogue.turns_bind, Dialogue.run_bind, Procedure.turns_ask, Procedure.run_ask]
      generalize answer (.replace r.object) s' = reply'
      obtain ⟨a', s''⟩ := reply'
      cases a' with
      | ok written => exact ⟨.ok written, .whole key _, rfl⟩
      | error e => exact ⟨.error e, .whole key _, rfl⟩
    | _ => exact ⟨.error _, .status (by simp), rfl⟩

end Runs

/-! ## Updates -/

/-- The phase of the record, which it may not leave for the target. -/
def Record.Bars (r : Record) (source target : Phase) : Prop :=
  r.phase = some source ∧ Phase.permits (some source) target = false

section Stage

variable {r : Record} {source phase : Phase}

theorem Record.Bars.not_permits (h : r.Bars source phase) :
    Phase.permits r.phase phase ≠ true := by
  obtain ⟨hsource, hbars⟩ := h
  rw [hsource]
  exact Bool.eq_false_iff.1 hbars

theorem Record.Bars.unique {source' : Phase} (h : r.Bars source phase)
    (h' : r.Bars source' phase) : source = source' :=
  Option.some.inj (h.1.symm.trans h'.1)

theorem Record.stage_cases (r : Record) (phase : Phase) (message : String) :
    (Phase.permits r.phase phase = true ∧
        r.stage phase message = .ok (r.withStatus phase message)) ∨
      ∃ source, r.Bars source phase ∧
        r.stage phase message = .error (.forbidden source phase) := by
  by_cases hpermits : Phase.permits r.phase phase = true
  · exact .inl ⟨hpermits, stage_permitted hpermits message⟩
  · right
    have hbars : Phase.permits r.phase phase = false := Bool.eq_false_iff.2 hpermits
    cases hsource : r.phase with
    | none =>
      rw [hsource] at hbars
      cases hbars
    | some source =>
      rw [hsource] at hbars
      refine ⟨source, ⟨hsource, hbars⟩, ?_⟩
      unfold stage
      rw [hsource]
      dsimp only
      rw [if_neg (Bool.eq_false_iff.1 hbars)]

end Stage

/-- What an update ends with after a second attempt to write this record. -/
def retryResult (staged : Record) :
    Except StoreError Record → Except StatusError Unit × Record
  | .error (.conflict key) => (.error (.repeatedConflict (.conflict key)), staged)
  | result => updateResult staged result

/-- All that can be said in an update of the status, with the result and the record that the caller
then holds. -/
inductive StatusTalk (r : Record) (phase : Phase) (message : String) :
    List Turn → Except StatusError Unit × Record → Prop where
  /-- The record may not take on the phase. -/
  | silent {source : Phase} (hbars : r.Bars source phase) :
      StatusTalk r phase message [] (.error (.forbidden source phase), r)
  /-- The first attempt was no conflict. -/
  | once {t : List Turn} {a : Except StoreError Object}
      (hpermits : Phase.permits r.phase phase = true)
      (hwrite : StatusAttempt (r.withStatus phase message).object t a)
      (hother : ∀ key, a ≠ .error (.conflict key)) :
      StatusTalk r phase message t
        (updateResult (r.withStatus phase message) (a.bind Record.ofObject))
  /-- The record could not be read again. -/
  | unread {t : List Turn} {lost : ObjectKey} {a : Except StoreError Object} {e : StoreError}
      (hpermits : Phase.permits r.phase phase = true)
      (hwrite : StatusAttempt (r.withStatus phase message).object t (.error (.conflict lost)))
      (hread : a.bind Record.ofObject = .error e) :
      StatusTalk r phase message (t ++ [⟨.get r.key, a⟩])
        (.error (.store e), r.withStatus phase message)
  /-- The record, read again, may not take on the phase. -/
  | refused {t : List Turn} {lost : ObjectKey} {o : Object} {fresh : Record} {source : Phase}
      (hpermits : Phase.permits r.phase phase = true)
      (hwrite : StatusAttempt (r.withStatus phase message).object t (.error (.conflict lost)))
      (hread : Record.ofObject o = .ok fresh) (hbars : fresh.Bars source phase) :
      StatusTalk r phase message (t ++ [⟨.get r.key, .ok o⟩])
        (.error (.forbidden source phase), fresh)
  /-- The status was written to the record as it was read again. -/
  | twice {t t' : List Turn} {lost : ObjectKey} {o : Object} {fresh : Record}
      {a : Except StoreError Object} (hpermits : Phase.permits r.phase phase = true)
      (hwrite : StatusAttempt (r.withStatus phase message).object t (.error (.conflict lost)))
      (hread : Record.ofObject o = .ok fresh) (hfresh : Phase.permits fresh.phase phase = true)
      (hrewrite : StatusAttempt (fresh.withStatus phase message).object t' a) :
      StatusTalk r phase message (t ++ ⟨.get r.key, .ok o⟩ :: t')
        (retryResult (fresh.withStatus phase message) (a.bind Record.ofObject))

section Updates

variable {σ : Type} (answer : (c : Call) → σ → c.Answer × σ) (s : σ) {r : Record} {phase : Phase}
  {message : String}

theorem retryStatus_eq {fresh : Record} (hfresh : Phase.permits fresh.phase phase = true)
    (message : String) :
    retryStatus phase message fresh = (fresh.withStatus phase message).writeStatus >>= fun result =>
      pure (retryResult (fresh.withStatus phase message) result) := by
  unfold retryStatus
  rw [Record.stage_permitted hfresh]
  dsimp only
  congr 1
  funext result
  cases result with
  | ok written => rfl
  | error e => cases e <;> rfl

/-- The second attempt goes on with a dialogue in which the first was lost. -/
theorem StatusTalk.retry {t : List Turn} {lost : ObjectKey} {o : Object} {fresh : Record}
    (hpermits : Phase.permits r.phase phase = true)
    (hwrite : StatusAttempt (r.withStatus phase message).object t (.error (.conflict lost)))
    (hread : Record.ofObject o = .ok fresh) :
    StatusTalk r phase message
      (t ++ ⟨.get r.key, .ok o⟩ :: (retryStatus phase message fresh).turns answer s)
      ((retryStatus phase message fresh).run answer s).1 := by
  rcases fresh.stage_cases phase message with ⟨hfresh, -⟩ | ⟨source, hbars, hstage⟩
  · obtain ⟨a, hrewrite, hresult⟩ := (fresh.withStatus phase message).writeStatus_attempt answer s
    rw [retryStatus_eq hfresh, Dialogue.turns_bind, Dialogue.run_bind, Dialogue.turns_pure,
      Dialogue.run_pure, List.append_nil, hresult]
    exact .twice hpermits hwrite hread hfresh hrewrite
  · unfold retryStatus
    rw [hstage]
    exact .refused hpermits hwrite hread hbars

theorem updateStatus_talk (r : Record) (phase : Phase) (message : String) :
    StatusTalk r phase message ((updateStatus phase message r).turns answer s)
      ((updateStatus phase message r).run answer s).1 := by
  unfold updateStatus
  rcases r.stage_cases phase message with ⟨hpermits, hstage⟩ | ⟨source, hbars, hstage⟩
  · obtain ⟨a, hwrite, hresult⟩ := (r.withStatus phase message).writeStatus_attempt answer s
    have honce := StatusTalk.once hpermits hwrite
    rw [hstage]
    dsimp only
    rw [Dialogue.turns_bind, Dialogue.run_bind, hresult]
    generalize (r.withStatus phase message).writeStatus.turns answer s = t at hwrite honce ⊢
    generalize ((r.withStatus phase message).writeStatus.run answer s).2 = s'
    cases hwritten : a.bind Record.ofObject with
    | ok written =>
      rw [hwritten] at honce
      dsimp only
      rw [Dialogue.turns_pure, Dialogue.run_pure, List.append_nil]
      exact honce (by rintro key rfl; cases hwritten)
    | error e =>
      rw [hwritten] at honce
      cases e with
      | conflict lost =>
        cases Record.bind_ofObject_conflict hwritten
        dsimp only
        rw [Dialogue.turns_bind, Dialogue.run_bind, Procedure.turns_ask, Procedure.run_ask]
        have hkey : (r.withStatus phase message).key = r.key := rfl
        rw [hkey]
        generalize answer (.get r.key) s' = reply
        obtain ⟨a, s''⟩ := reply
        cases a with
        | error e => exact .unread hpermits hwrite rfl
        | ok o =>
          dsimp only
          cases hread : Record.ofObject o with
          | error e => exact .unread hpermits hwrite hread
          | ok fresh => exact .retry answer s'' hpermits hwrite hread
      | _ =>
        dsimp only
        rw [Dialogue.turns_pure, Dialogue.run_pure, List.append_nil]
        exact honce (by rintro key rfl; cases hwritten)
  · rw [hstage]
    exact .silent hbars

end Updates

/-! ## Results -/

section Results

variable {staged : Record} {result : Except StoreError Record} {e : StoreError}

theorem updateResult_store (h : (updateResult staged result).1 = .error (.store e)) :
    result = .error e := by
  cases result with
  | ok written => cases h
  | error failure =>
    cases h
    rfl

theorem updateResult_ne_repeatedConflict :
    (updateResult staged result).1 ≠ .error (.repeatedConflict e) := by
  cases result <;> simp [updateResult]

theorem updateResult_ne_forbidden {source target : Phase} :
    (updateResult staged result).1 ≠ .error (.forbidden source target) := by
  cases result <;> simp [updateResult]

theorem retryResult_of_not_conflict (h : ∀ key, result ≠ .error (.conflict key)) :
    retryResult staged result = updateResult staged result := by
  unfold retryResult
  split
  next key => exact absurd rfl (h key)
  next => rfl

theorem retryResult_repeatedConflict_iff :
    (retryResult staged result).1 = .error (.repeatedConflict e) ↔
      ∃ key, result = .error (.conflict key) ∧ e = .conflict key := by
  by_cases hconflict : ∃ key, result = .error (.conflict key)
  · obtain ⟨key, rfl⟩ := hconflict
    simp [retryResult, eq_comm]
  · have hother : ∀ key, result ≠ .error (.conflict key) := not_exists.1 hconflict
    rw [retryResult_of_not_conflict hother]
    refine ⟨fun h => absurd h updateResult_ne_repeatedConflict, ?_⟩
    rintro ⟨key, hkey, -⟩
    exact absurd hkey (hother key)

theorem retryResult_store (h : (retryResult staged result).1 = .error (.store e)) :
    result = .error e := by
  unfold retryResult at h
  split at h
  next key => cases h
  next => exact updateResult_store h

theorem retryResult_ne_forbidden {source target : Phase} :
    (retryResult staged result).1 ≠ .error (.forbidden source target) := by
  unfold retryResult
  split
  next key => simp
  next => exact updateResult_ne_forbidden

end Results

/-- In this dialogue two attempts were lost to conflicts, the second of which is this error: one to
write the record of the caller, and one to write it as it was read after that. -/
def LostTwice (r : Record) (phase : Phase) (message : String) (t : List Turn) (e : StoreError) :
    Prop :=
  ∃ t₁ t₂ lost lost' o fresh, t = t₁ ++ ⟨.get r.key, .ok o⟩ :: t₂ ∧
    StatusAttempt (r.withStatus phase message).object t₁ (.error (.conflict lost)) ∧
    Record.ofObject o = .ok fresh ∧
    StatusAttempt (fresh.withStatus phase message).object t₂ (.error (.conflict lost')) ∧
    e = .conflict lost'

namespace StatusTalk

variable {r : Record} {phase : Phase} {message : String} {t : List Turn}
  {result : Except StatusError Unit × Record}

theorem repeatedConflict_iff (h : StatusTalk r phase message t result) {e : StoreError} :
    result.1 = .error (.repeatedConflict e) ↔ LostTwice r phase message t e := by
  constructor
  · intro hresult
    cases h with
    | silent _ => cases hresult
    | once _ _ _ => exact absurd hresult updateResult_ne_repeatedConflict
    | unread _ _ _ => cases hresult
    | refused _ _ _ _ => cases hresult
    | twice _ hwrite hread _ hrewrite =>
      obtain ⟨lost, hlost, rfl⟩ := retryResult_repeatedConflict_iff.1 hresult
      cases Record.bind_ofObject_conflict hlost
      exact ⟨_, _, _, lost, _, _, rfl, hwrite, hread, hrewrite, rfl⟩
  · rintro ⟨t₁, t₂, lost, lost', o, fresh, ht, hfirst, hfresh, hsecond, rfl⟩
    cases h with
    | silent _ => simp at ht
    | once _ hwrite _ =>
      refine absurd ?_ (hwrite.get_notMem r.key (.ok o))
      rw [ht]
      exact List.mem_append_right _ List.mem_cons_self
    | unread _ hwrite _ =>
      cases hwrite.split hfirst ht
      exact absurd rfl hsecond.ne_nil
    | refused _ hwrite _ _ =>
      cases hwrite.split hfirst ht
      exact absurd rfl hsecond.ne_nil
    | twice _ hwrite hread _ hrewrite =>
      cases hwrite.split hfirst ht
      cases hread.symm.trans hfresh
      cases hrewrite.unique hsecond
      exact retryResult_repeatedConflict_iff.2 ⟨lost', rfl, rfl⟩

theorem forbidden_iff (h : StatusTalk r phase message t result) {source target : Phase} :
    result.1 = .error (.forbidden source target) ↔
      target = phase ∧ (r.Bars source phase ∨ ∃ o fresh, ⟨.get r.key, .ok o⟩ ∈ t ∧
        Record.ofObject o = .ok fresh ∧ fresh.Bars source phase) := by
  constructor
  · intro hresult
    cases h with
    | silent hbars =>
      cases hresult
      exact ⟨rfl, .inl hbars⟩
    | once _ _ _ => exact absurd hresult updateResult_ne_forbidden
    | unread _ _ _ => cases hresult
    | refused _ _ hread hbars =>
      cases hresult
      exact ⟨rfl, .inr ⟨_, _, List.mem_append_right _ List.mem_cons_self, hread, hbars⟩⟩
    | twice _ _ _ _ _ => exact absurd hresult retryResult_ne_forbidden
  · rintro ⟨rfl, hbars | ⟨o, fresh, hmem, hfresh, hbars⟩⟩
    · cases h with
      | silent hbars' => rw [hbars.unique hbars']
      | once hpermits _ _ => exact absurd hpermits hbars.not_permits
      | unread hpermits _ _ => exact absurd hpermits hbars.not_permits
      | refused hpermits _ _ _ => exact absurd hpermits hbars.not_permits
      | twice hpermits _ _ _ _ => exact absurd hpermits hbars.not_permits
    · cases h with
      | silent _ => exact absurd hmem List.not_mem_nil
      | once _ hwrite _ => exact absurd hmem (hwrite.get_notMem _ _)
      | unread _ hwrite hread =>
        cases hwrite.read_eq hmem List.not_mem_nil
        cases hread.symm.trans hfresh
      | refused _ hwrite hread hbars' =>
        cases hwrite.read_eq hmem List.not_mem_nil
        cases hread.symm.trans hfresh
        rw [hbars.unique hbars']
      | twice _ hwrite hread hpermits hrewrite =>
        cases hwrite.read_eq hmem (hrewrite.get_notMem _ _)
        cases hread.symm.trans hfresh
        exact absurd hpermits hbars.not_permits

theorem last_fails (h : StatusTalk r phase message t result) {e : StoreError}
    (hresult : result.1 = .error (.store e)) : ∃ x, t.getLast? = some x ∧ x.Fails e := by
  cases h with
  | silent _ => cases hresult
  | once _ hwrite _ => exact hwrite.last_fails (updateResult_store hresult)
  | unread _ _ hread =>
    cases hresult
    exact ⟨_, List.getLast?_concat, Turn.fails_get hread⟩
  | refused _ _ _ _ => cases hresult
  | twice _ _ _ _ hrewrite =>
    obtain ⟨x, hx, hfails⟩ := hrewrite.last_fails (retryResult_store hresult)
    refine ⟨x, ?_, hfails⟩
    rw [List.getLast?_append, List.getLast?_cons, hx]
    rfl

end StatusTalk

/-- Whatever a store answers, an update of the status is a dialogue of `StatusTalk`, with the result
that goes with it. It fails

* with a repeated conflict just if two attempts were lost;
* as forbidden just if the record may not take on the phase, as the caller held it or as it was read
  again;
* with an error of the store only if that is the last answer, or how the last answer failed to be
  read. -/
theorem updateStatus_dialogue {σ : Type} (answer : (c : Call) → σ → c.Answer × σ) (s : σ)
    (r : Record) (phase : Phase) (message : String) :
    let t := (updateStatus phase message r).turns answer s
    let result := ((updateStatus phase message r).run answer s).1
    StatusTalk r phase message t result ∧
    (∀ e, result.1 = .error (.repeatedConflict e) ↔ LostTwice r phase message t e) ∧
    (∀ source target, result.1 = .error (.forbidden source target) ↔
      target = phase ∧ (r.Bars source phase ∨ ∃ o fresh, ⟨.get r.key, .ok o⟩ ∈ t ∧
        Record.ofObject o = .ok fresh ∧ fresh.Bars source phase)) ∧
    (∀ e, result.1 = .error (.store e) → ∃ x : Turn, t.getLast? = some x ∧ x.Fails e) := by
  intro t result
  have htalk := updateStatus_talk answer s r phase message
  exact ⟨htalk, fun _ => htalk.repeatedConflict_iff, fun _ _ => htalk.forbidden_iff,
    fun _ => htalk.last_fails⟩

end MeshOperator
