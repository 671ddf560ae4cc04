import Mathlib.Data.Finset.Basic
import MeshOperator.Proofs.StatusApart
import MeshOperator.Proofs.Syncing

/-!
The journal tells what clients did to a store.

A call that fails leaves everything as it is, but for an arranged conflict that it uses up. One that
succeeds is noted if it writes, and nothing else is. What puts objects in place behind the back of
clients is not noted, so the journal alone does not say which keys there are; `timeline` has the
keys that were seeded in between, and to replay it is to follow the keys of the store.
-/

namespace MeshOperator

set_option autoImplicit false

def Verb.writes : Verb → Bool
  | .create | .replace | .replaceStatus | .delete => true
  | .get | .list => false

/-- The key of what a call writes or deletes. -/
def Call.target? : Call → Option ObjectKey
  | .create object | .replace object | .replaceStatus object => object.key.toOption
  | .delete key => some key
  | .get _ | .list _ _ => none

theorem Call.target?_of_reads {c : Call} (h : c.verb.writes = false) : c.target? = none := by
  cases c with
  | get | list => rfl
  | _ => cases h

/-- What the journal notes of a call if it succeeds. -/
def Call.entries (c : Call) : List JournalEntry :=
  (c.target?.map fun key => ⟨c.verb, key⟩).toList

/-! ## Sets of keys -/

namespace SortedMap

variable {κ α : Type} [Ord κ] [DecidableEq κ]

def keySet (m : SortedMap κ α) : Finset κ := m.keys.toFinset

variable [Std.LawfulEqOrd κ] (m : SortedMap κ α) {key : κ}

theorem mem_keySet : key ∈ m.keySet ↔ m.get? key ≠ none := by
  rw [keySet, List.mem_toFinset, keys, List.mem_map, get?, Ne, Assoc.find?_eq_none_iff]
  simp only [not_forall, not_not, exists_prop]

theorem keySet_erase (key : κ) : (m.erase key).keySet = m.keySet.erase key := by
  ext other
  rw [Finset.mem_erase, mem_keySet, mem_keySet]
  by_cases h : other = key
  · simp [h]
  · simp [h, get?_erase_ne]

variable [Std.TransOrd κ]

theorem keySet_insert (key : κ) (value : α) :
    (m.insert key value).keySet = m.keySet ∪ {key} := by
  ext other
  rw [Finset.mem_union, Finset.mem_singleton, mem_keySet, mem_keySet]
  by_cases h : other = key
  · simp [h]
  · simp [h, get?_insert_ne]

/-- To overwrite a value brings no key. -/
theorem keySet_insert_of_mem {old : α} (h : m.get? key = some old) (new : α) :
    (m.insert key new).keySet = m.keySet := by
  rw [keySet_insert, Finset.union_eq_left, Finset.singleton_subset_iff, mem_keySet, h]
  exact Option.some_ne_none old

end SortedMap

namespace Memory

variable {m m' : Memory}

/-! ## Calls that fail -/

/-- The store with one conflict that is arranged for this verb used up. -/
def spent (m : Memory) (verb : Verb) : Memory :=
  { m with conflicts := fun v => if v = verb then m.conflicts v - 1 else m.conflicts v }

/-- What a failed call with this verb makes of the store. -/
def Unserved (verb : Verb) (m m' : Memory) : Prop :=
  m' = m ∨ 0 < m.conflicts verb ∧ m' = m.spent verb

section Failures

variable {α : Type} {verb : Verb} {e : StoreError}

theorem unserved_of_unlessObstacle {key : ObjectKey}
    {next : Memory → Except StoreError α × Memory}
    (h : m.unlessObstacle verb key next = (.error e, m'))
    (hnext : next m = (.error e, m') → m' = m) : Unserved verb m m' := by
  unfold unlessObstacle obstacle? at h
  by_cases hc : m.conflicts verb = 0
  · rw [if_pos hc] at h
    cases hf : m.faults.find? fun f => f.strikes verb key with
    | none =>
      rw [hf] at h
      exact .inl (hnext h)
    | some f =>
      rw [hf] at h
      cases h
      exact .inl rfl
  · rw [if_neg hc] at h
    cases h
    exact .inr ⟨Nat.pos_of_ne_zero hc, rfl⟩

theorem unserved_of_withKey {x : Object} {next : ObjectKey → Except StoreError α × Memory}
    (h : m.withKey x next = (.error e, m'))
    (hnext : ∀ key, next key = (.error e, m') → Unserved verb m m') : Unserved verb m m' := by
  unfold withKey at h
  split at h
  · cases h
    exact .inl rfl
  · exact hnext _ h

theorem overwrite_error {key : ObjectKey} {x : Object} {result : Object → Object}
    (h : m.overwrite verb key x result = (.error e, m')) : m' = m := by
  rcases overwrite_cases verb key x result m with ⟨e', he⟩ | ⟨stored, -, -, hw⟩
  · cases he.symm.trans h
    rfl
  · cases hw.symm.trans h

/-- Whatever lets a call fail comes before it changes anything. -/
theorem answer_error {c : Call} (h : m.answer c = (.error e, m')) : Unserved c.verb m m' := by
  cases c with
  | get key => exact unserved_of_unlessObstacle h fun hnext => (Prod.mk.inj hnext).2.symm
  | create x =>
    refine unserved_of_withKey h fun key h => unserved_of_unlessObstacle h fun hnext => ?_
    split at hnext
    · exact (Prod.mk.inj hnext).2.symm
    · cases hnext
  | replace x =>
    exact unserved_of_withKey h fun key h => unserved_of_unlessObstacle h overwrite_error
  | replaceStatus x =>
    refine unserved_of_withKey h fun key h => unserved_of_unlessObstacle h fun hnext => ?_
    split at hnext
    · exact overwrite_error hnext
    · exact (Prod.mk.inj hnext).2.symm
  | delete key =>
    refine unserved_of_unlessObstacle h fun hnext => ?_
    split at hnext
    · exact (Prod.mk.inj hnext).2.symm
    · cases hnext
  | list type ns => exact unserved_of_unlessObstacle h fun hnext => (Prod.mk.inj hnext).2.symm

end Failures

/-! ## What is noted -/

theorem Served.journal {c : Call} {result : c.Answer × Memory} (h : Served m c result) :
    result.2.journal = m.journal ++ c.entries ∧ (c.verb.writes = true → c.target?.isSome) := by
  cases h with
  | get => exact ⟨(List.append_nil _).symm, nofun⟩
  | list => exact ⟨(List.append_nil _).symm, nofun⟩
  | delete => exact ⟨rfl, fun _ => rfl⟩
  | create hkey | replace hkey | replaceStatus hkey =>
    rw [Call.entries, Call.target?, hkey]
    exact ⟨rfl, fun _ => rfl⟩

theorem journal_apply {op : Operation} (h : ∀ c, op ≠ .call c) :
    (op.apply m).journal = m.journal := by
  cases op with
  | call c => exact absurd rfl (h c)
  | insert x =>
    show (m.insert x).2.journal = _
    unfold insert withKey
    split <;> rfl
  | touch key =>
    show (m.touch key).2.journal = _
    unfold touch
    split <;> rfl
  | _ => rfl

/-! ## Replaying -/

/-- What a replay goes by: a key that was seeded, or something that was noted. -/
inductive Occurrence where
  | seeded (key : ObjectKey)
  | noted (entry : JournalEntry)
  deriving DecidableEq, Repr

namespace Occurrence

def entry? : Occurrence → Option JournalEntry
  | .seeded _ => none
  | .noted entry => some entry

/-- The keys that there are after it. -/
def on (keys : Finset ObjectKey) : Occurrence → Finset ObjectKey
  | .seeded key | .noted ⟨.create, key⟩ => keys ∪ {key}
  | .noted ⟨.delete, key⟩ => keys.erase key
  | .noted _ => keys

end Occurrence

def replay (occurrences : List Occurrence) (keys : Finset ObjectKey) : Finset ObjectKey :=
  occurrences.foldl Occurrence.on keys

/-- The key under which an operation puts an object in place. -/
def Operation.seeds : Operation → List ObjectKey
  | .insert object => object.key.toOption.toList
  | _ => []

/-- What an operation seeds and what it adds to the journal. -/
def Operation.occurrences (op : Operation) (m : Memory) : List Occurrence :=
  op.seeds.map .seeded ++ ((op.apply m).journal.drop m.journal.length).map .noted

/-- All occurrences of a run, in order. -/
def timeline (ops : List Operation) (m : Memory) : List Occurrence :=
  (trail ops m).flatMap fun s => s.2.occurrences s.1

/-- From one store to the other these entries were noted, and with the keys that were seeded they
account for all changes of keys. -/
structure Accounts (seeds : List ObjectKey) (entries : List JournalEntry) (m m' : Memory) :
    Prop where
  journal : m'.journal = m.journal ++ entries
  keySet : m'.objects.keySet =
    replay (seeds.map .seeded ++ entries.map .noted) m.objects.keySet

theorem Served.accounts {c : Call} {result : c.Answer × Memory} (h : Served m c result) :
    Accounts [] c.entries m result.2 := by
  refine ⟨h.journal.1, ?_⟩
  cases h with
  | get | list => rfl
  | delete => exact m.objects.keySet_erase _
  | create hkey =>
    rw [Call.entries, Call.target?, hkey]
    exact m.objects.keySet_insert _ _
  | replace hkey hget | replaceStatus hkey hget =>
    rw [Call.entries, Call.target?, hkey]
    exact m.objects.keySet_insert_of_mem hget _

theorem accounts_insert (m : Memory) (x : Object) :
    Accounts x.key.toOption.toList [] m (m.insert x).2 := by
  unfold insert withKey
  cases x.key with
  | error defect => exact ⟨(List.append_nil _).symm, rfl⟩
  | ok key => exact ⟨(List.append_nil _).symm, m.objects.keySet_insert key _⟩

theorem accounts_touch (m : Memory) (key : ObjectKey) : Accounts [] [] m (m.touch key).2 := by
  unfold touch
  rcases m.find?_cases key with ⟨e, he, -⟩ | ⟨stored, hs, hget⟩
  · rw [he]
    exact ⟨(List.append_nil _).symm, rfl⟩
  · rw [hs]
    exact ⟨(List.append_nil _).symm, m.objects.keySet_insert_of_mem hget _⟩

theorem accounts_apply (op : Operation) (m : Memory) :
    ∃ entries, Accounts op.seeds entries m (op.apply m) := by
  cases op with
  | call c =>
    rcases m.answer_cases c with ⟨e, f, he⟩ | hserved
    · refine ⟨[], ?_⟩
      rw [Operation.apply, he]
      exact ⟨(List.append_nil _).symm, rfl⟩
    · exact ⟨_, hserved.accounts⟩
  | insert x => exact ⟨[], accounts_insert m x⟩
  | touch key => exact ⟨[], accounts_touch m key⟩
  | _ => exact ⟨[], (List.append_nil _).symm, rfl⟩

theorem Accounts.occurrences {op : Operation} {entries : List JournalEntry}
    (h : Accounts op.seeds entries m (op.apply m)) :
    op.occurrences m = op.seeds.map .seeded ++ entries.map .noted := by
  rw [Operation.occurrences, h.journal, List.drop_left]

theorem filterMap_entry? (seeds : List ObjectKey) (entries : List JournalEntry) :
    (seeds.map Occurrence.seeded ++ entries.map Occurrence.noted).filterMap Occurrence.entry? =
      entries := by
  simp [List.filterMap_append, List.filterMap_map, Function.comp_def, Occurrence.entry?]

/-- A run adds to the journal what its timeline has noted, and leaves the keys that a replay of it
ends with. -/
theorem timeline_run (ops : List Operation) (m : Memory) :
    (applyAll ops m).journal = m.journal ++ (timeline ops m).filterMap Occurrence.entry? ∧
      (applyAll ops m).objects.keySet = replay (timeline ops m) m.objects.keySet := by
  induction ops generalizing m with
  | nil => exact ⟨(List.append_nil _).symm, rfl⟩
  | cons op ops ih =>
    obtain ⟨entries, hstep⟩ := accounts_apply op m
    obtain ⟨hjournal, hkeys⟩ := ih (op.apply m)
    have hsplit : timeline (op :: ops) m = op.occurrences m ++ timeline ops (op.apply m) :=
      List.flatMap_cons
    have happly : applyAll (op :: ops) m = applyAll ops (op.apply m) := rfl
    rw [hsplit, hstep.occurrences, happly]
    constructor
    · rw [hjournal, hstep.journal, List.filterMap_append, filterMap_entry?, List.append_assoc]
    · rw [hkeys, hstep.keySet, replay, replay, replay, ← List.foldl_append]

/-! ## Fidelity -/

/-- In every state of a store:

* a call that fails leaves objects, revision and journal as they are, and indeed everything but one
  arranged conflict of its own verb at most;
* a call that succeeds adds one entry with its verb and its key to the journal if it writes, and
  nothing if it reads, and nothing else that is done to a store adds anything;

and after any operations on a store that was empty at first, the journal is what the timeline has
noted, and the keys are those that come out if what was created and deleted is replayed with what
was seeded in between. -/
theorem journal_faithful :
    (∀ (m m' : Memory) (c : Call) (e : StoreError), m.answer c = (.error e, m') →
      m'.objects = m.objects ∧ m'.revision = m.revision ∧ m'.journal = m.journal ∧
        Unserved c.verb m m') ∧
    (∀ (m m' : Memory) (c : Call) (reply : c.Reply), m.answer c = (.ok reply, m') →
      (c.verb.writes = true → ∃ key, c.target? = some key ∧
        m'.journal = m.journal ++ [⟨c.verb, key⟩]) ∧
      (c.verb.writes = false → m'.journal = m.journal)) ∧
    (∀ (m : Memory) (op : Operation), (∀ c, op ≠ .call c) → (op.apply m).journal = m.journal) ∧
    ∀ (clock : Timestamp) (ops : List Operation),
      let occurrences := timeline ops (empty clock)
      (applyAll ops (empty clock)).journal = occurrences.filterMap Occurrence.entry? ∧
        (applyAll ops (empty clock)).objects.keySet = replay occurrences ∅ := by
  refine ⟨fun m m' c e h => ?_, fun m m' c reply h => ?_, fun m op hop => journal_apply hop,
    fun clock ops => ?_⟩
  · have hunserved := answer_error h
    refine ⟨?_, ?_, ?_, hunserved⟩ <;> rcases hunserved with rfl | ⟨-, rfl⟩ <;> rfl
  · rcases m.answer_cases c with ⟨e, f, he⟩ | hserved
    · cases he.symm.trans h
    · obtain ⟨hjournal, htarget⟩ := hserved.journal
      rw [h] at hjournal
      refine ⟨fun hwrites => ?_, fun hreads => ?_⟩
      · obtain ⟨key, hkey⟩ := Option.isSome_iff_exists.1 (htarget hwrites)
        refine ⟨key, hkey, hjournal.trans ?_⟩
        rw [Call.entries, hkey]
        rfl
      · rw [Call.entries, Call.target?_of_reads hreads] at hjournal
        exact hjournal.trans (List.append_nil _)
  · exact timeline_run ops (empty clock)

/-- A role was put in place. It is deleted, cannot be deleted again and is created; then a conflict
is in the way of deleting it. -/
theorem journal_faithful_oldRole :
    let key := oldRole.key
    let seeded := applyAll [.insert oldRole.object] (empty .epoch)
    let last := applyAll [.insert oldRole.object, .call (.delete key), .call (.delete key),
      .call (.create oldRole.object), .conflictNext .delete 1] (empty .epoch)
    (∃ m', seeded.answer (.delete key) = (.ok (), m') ∧ m'.journal = [⟨.delete, key⟩]) ∧
      last.journal = [⟨.delete, key⟩, ⟨.create, key⟩] ∧ last.objects.keySet = {key} ∧
      ∃ e, last.answer (.delete key) = (.error e, last.spent .delete) ∧
        (last.spent .delete).objects = last.objects := by
  intro key seeded last
  obtain ⟨hfailed, hserved, -, hruns⟩ := journal_faithful
  have hok : ((applyAll [.insert oldRole.object] (empty .epoch)).answer (.delete oldRole.key)).1 =
      .ok () := rfl
  have hdeleted : seeded.answer (.delete key) = (.ok (), (seeded.answer (.delete key)).2) :=
    Prod.ext hok rfl
  obtain ⟨hnoted, -⟩ := hserved seeded _ _ _ hdeleted
  obtain ⟨other, hother, hjournal⟩ := hnoted rfl
  cases hother
  obtain ⟨hall, hkeys⟩ := hruns .epoch [.insert oldRole.object, .call (.delete key),
    .call (.delete key), .call (.create oldRole.object), .conflictNext .delete 1]
  have hconflict : last.answer (.delete key) = (.error (.conflict key), last.spent .delete) := rfl
  obtain ⟨hobjects, -⟩ := hfailed last _ _ _ hconflict
  exact ⟨⟨_, hdeleted, hjournal⟩, hall.trans (by decide +kernel), hkeys.trans (by decide +kernel),
    _, hconflict, hobjects⟩

end Memory

end MeshOperator
