import MeshOperator.Proofs.MemorySteps

/-!
Runs of a store in memory, and what their histories say.

A run is any sequence of operations on a store that was empty at first; its history lists the
effects. The objects of the store are what the history has left of them, each write has brought a
resource version of its own, and so the resource version of a stored object names the one write
that put it there.
-/

namespace MeshOperator

set_option autoImplicit false

namespace Memory

/-- The effects so far, the oldest first, and the store that they have led to. -/
inductive Run : List Effect → Memory → Prop where
  | start (clock : Timestamp) : Run [] (empty clock)
  | step {h : List Effect} {m : Memory} (op : Operation) (hrun : Run h m) :
      Run (h ++ (op.effect? m).toList) (op.apply m)

def Reachable (m : Memory) : Prop := ∃ h, Run h m

/-- What holds of a store and its history all along. -/
structure Recorded (h : List Effect) (m : Memory) : Prop where
  objects : m.objects = h.foldl Effect.on .empty
  keyed : ∀ key x, .wrote key x ∈ h → x.key = .ok key
  numbered : ∀ key x, .wrote key x ∈ h →
    ∃ n, n ≤ m.revision ∧ x.metadata.resourceVersion = some (toString n)
  distinct : h.Pairwise fun e f => ∀ v, e.version? = some v → f.version? ≠ some v

/-! ## The last write -/

/-- An object that is there was there from the beginning or was written, and its key has been left
alone since. -/
theorem last_write {objects : SortedMap ObjectKey Object} {h : List Effect} {key : ObjectKey}
    {x : Object} (hget : (h.foldl Effect.on objects).get? key = some x) :
    (objects.get? key = some x ∧ ∀ e ∈ h, e.key ≠ key) ∨
      ∃ before after, h = before ++ .wrote key x :: after ∧ ∀ e ∈ after, e.key ≠ key := by
  induction h generalizing objects with
  | nil => exact .inl ⟨hget, by simp⟩
  | cons e rest ih =>
    rcases ih hget with ⟨hx, hrest⟩ | ⟨before, after, hsplit, hafter⟩
    · cases e with
      | wrote other y =>
        by_cases hk : key = other
        · subst hk
          have hy : y = x := by
            rw [Effect.on, SortedMap.get?_insert_self] at hx
            exact Option.some.inj hx
          subst hy
          exact .inr ⟨[], rest, rfl, hrest⟩
        · rw [Effect.on, SortedMap.get?_insert_ne _ _ hk] at hx
          exact .inl ⟨hx, List.forall_mem_cons.2 ⟨fun he => hk he.symm, hrest⟩⟩
      | removed other =>
        by_cases hk : key = other
        · subst hk
          rw [Effect.on, SortedMap.get?_erase_self] at hx
          cases hx
        · rw [Effect.on, SortedMap.get?_erase_ne _ hk] at hx
          exact .inl ⟨hx, List.forall_mem_cons.2 ⟨fun he => hk he.symm, hrest⟩⟩
    · exact .inr ⟨e :: before, after, by rw [hsplit, List.cons_append], hafter⟩

theorem toString_injective {n k : Nat} (h : toString n = toString k) : n = k := by
  have hdigits : Nat.toDigits 10 n = Nat.toDigits 10 k := by
    rw [← Nat.toList_repr, ← Nat.toList_repr]
    exact congrArg String.toList h
  rw [← Nat.ofDigitChars_ten_toDigits (n := n), hdigits, Nat.ofDigitChars_ten_toDigits]

namespace Recorded

variable {h : List Effect} {m : Memory}

theorem mem_history (hr : Recorded h m) {key : ObjectKey} {x : Object}
    (hget : m.objects.get? key = some x) : .wrote key x ∈ h := by
  rw [hr.objects] at hget
  rcases last_write hget with ⟨hx, -⟩ | ⟨before, after, hsplit, -⟩
  · cases hx
  · rw [hsplit]
    exact List.mem_append_right _ List.mem_cons_self

theorem keyed_store (hr : Recorded h m) : m.Keyed :=
  fun key x hget => hr.keyed key x (hr.mem_history hget)

theorem start (clock : Timestamp) : Recorded [] (empty clock) where
  objects := rfl
  keyed := by simp
  numbered := by simp
  distinct := List.Pairwise.nil

/-- A write at the next revision brings a resource version that there has not been before. -/
theorem fresh (hr : Recorded h m) {e : Effect} (he : e ∈ h) :
    e.version? ≠ some (toString (m.revision + 1)) := by
  intro hv
  cases e with
  | removed key => cases hv
  | wrote key x =>
    obtain ⟨n, hn, hx⟩ := hr.numbered key x he
    rw [Effect.version?, hx] at hv
    have hsame : n = m.revision + 1 := toString_injective (Option.some.inj hv)
    omega

theorem step (hr : Recorded h m) {m' : Memory} {effect : Option Effect}
    (hc : Change m m' effect) : Recorded (h ++ effect.toList) m' := by
  cases hc with
  | nothing hobjects hrevision =>
    rw [Option.toList_none, List.append_nil]
    refine ⟨hobjects.trans hr.objects, hr.keyed, ?_, hr.distinct⟩
    intro key x hx
    obtain ⟨n, hn, hv⟩ := hr.numbered key x hx
    exact ⟨n, by omega, hv⟩
  | @wrote key x hkey hversion hobjects hrevision =>
    refine ⟨?_, ?_, ?_, ?_⟩
    · rw [Option.toList_some, List.foldl_append, ← hr.objects, hobjects]
      rfl
    · intro key' y hy
      rcases List.mem_append.1 hy with hy | hy
      · exact hr.keyed key' y hy
      · cases List.mem_singleton.1 hy
        exact hkey
    · intro key' y hy
      rcases List.mem_append.1 hy with hy | hy
      · obtain ⟨n, hn, hv⟩ := hr.numbered key' y hy
        exact ⟨n, by omega, hv⟩
      · cases List.mem_singleton.1 hy
        exact ⟨m.revision + 1, by omega, hversion⟩
    -- the version of the new write has not been there before
    · refine List.pairwise_append.2 ⟨hr.distinct, List.pairwise_singleton _ _, ?_⟩
      intro e he f hf v hv hf'
      cases List.mem_singleton.1 hf
      rw [Effect.version?, hversion] at hf'
      exact hr.fresh he (hv.trans hf'.symm)
  | @removed key hobjects hrevision =>
    refine ⟨?_, ?_, ?_, ?_⟩
    · rw [Option.toList_some, List.foldl_append, ← hr.objects, hobjects]
      rfl
    · intro key' y hy
      rcases List.mem_append.1 hy with hy | hy
      · exact hr.keyed key' y hy
      · cases List.mem_singleton.1 hy
    · intro key' y hy
      rcases List.mem_append.1 hy with hy | hy
      · obtain ⟨n, hn, hv⟩ := hr.numbered key' y hy
        exact ⟨n, by omega, hv⟩
      · cases List.mem_singleton.1 hy
    · refine List.pairwise_append.2 ⟨hr.distinct, List.pairwise_singleton _ _, ?_⟩
      intro e _ f hf v _ hf'
      cases List.mem_singleton.1 hf
      cases hf'

end Recorded

theorem Run.recorded {h : List Effect} {m : Memory} (hrun : Run h m) : Recorded h m := by
  induction hrun with
  | start clock => exact .start clock
  | @step h m op _ ih => exact ih.step (m.change ih.keyed_store op)

/-! ## The write that a version names -/

/-- The one write that brought this version put this object in place, and nothing has been done to
its key since. -/
def NamesWrite (h : List Effect) (key : ObjectKey) (version : String) (x : Object) : Prop :=
  ∃ before after, h = before ++ .wrote key x :: after ∧
    x.metadata.resourceVersion = some version ∧ (∀ e ∈ after, e.key ≠ key) ∧
      ∀ e ∈ before ++ after, e.version? ≠ some version

theorem Recorded.namesWrite {h : List Effect} {m : Memory} (hr : Recorded h m) {key : ObjectKey}
    {x : Object} (hget : m.objects.get? key = some x) {version : String}
    (hv : x.metadata.resourceVersion = some version) : NamesWrite h key version x := by
  rw [hr.objects] at hget
  rcases last_write hget with ⟨hx, -⟩ | ⟨before, after, hsplit, hafter⟩
  · cases hx
  · refine ⟨before, after, hsplit, hv, hafter, ?_⟩
    have hdistinct := hr.distinct
    rw [hsplit] at hdistinct
    obtain ⟨-, hcons, hcross⟩ := List.pairwise_append.1 hdistinct
    intro e he hev
    rcases List.mem_append.1 he with he | he
    · exact hcross e he _ List.mem_cons_self version hev hv
    · exact (List.pairwise_cons.1 hcons).1 e he version hv hev

theorem Recorded.eq_of_version {h : List Effect} {m : Memory} (hr : Recorded h m)
    {key other : ObjectKey} {x y : Object} (hx : .wrote key x ∈ h) (hy : .wrote other y ∈ h)
    (hv : x.metadata.resourceVersion = y.metadata.resourceVersion) : key = other ∧ x = y := by
  obtain ⟨n, -, hn⟩ := hr.numbered key x hx
  obtain ⟨before, after, hsplit⟩ := List.append_of_mem hx
  have hdistinct := hr.distinct
  rw [hsplit] at hdistinct hy
  obtain ⟨-, hcons, hcross⟩ := List.pairwise_append.1 hdistinct
  rcases List.mem_append.1 hy with hy | hy
  · exact absurd hn (hcross _ hy _ List.mem_cons_self _ (hv.symm.trans hn))
  · rcases List.mem_cons.1 hy with hy | hy
    · cases hy
      exact ⟨rfl, rfl⟩
    · exact absurd (hv.symm.trans hn) ((List.pairwise_cons.1 hcons).1 _ hy _ hn)

end Memory

end MeshOperator
