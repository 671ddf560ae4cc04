import MeshOperator.Proofs.Interleaving
import MeshOperator.Proofs.RecordWrites

/-!
What careful clients do to a stored record.

A careful client overwrites a record with something that it made from an object it has seen, and an
object that it has seen was written by somebody. Equal resource versions name one write, so what
goes through was made from the very record that is stored. `Rewritten` lists what may then take its
place.
-/

namespace MeshOperator

set_option autoImplicit false

namespace Memory

variable {h : List Effect} {m : Memory} {seen : List Object} {synced : ObjectKey → Prop}
  {key : ObjectKey} {o x : Object}

/-- Every object of the list was written by somebody. -/
def Witnessed (h : List Effect) (seen : List Object) : Prop :=
  ∀ x ∈ seen, ∃ key, .wrote key x ∈ h

theorem Witnessed.call (hr : Recorded h m) (hseen : Witnessed h seen) (c : Call) :
    Witnessed (h ++ ((Operation.call c).effect? m).toList) (seen ++ c.objects (m.answer c).1) := by
  intro x hx
  rcases List.mem_append.1 hx with hx | hx
  · obtain ⟨key, hwrote⟩ := hseen x hx
    exact ⟨key, List.mem_append_left _ hwrote⟩
  · have hx : x ∈ (Operation.call c).objects m := hx
    exact hr.mem_objects hx

/-- What a careful client gets written over an object that is not synced was made from that object,
as a record. -/
theorem Recorded.derived (hr : Recorded h m) (hseen : Witnessed h seen) (hspared : ¬synced key)
    (hget : m.objects.get? key = some o) (hx : ∃ live ∈ seen, BasedOn synced live x)
    (hxkey : x.key = .ok key) (hcur : isCurrent x o = true) :
    ∃ r : Record, x = r.object ∧ r.Derived o := by
  obtain ⟨live, hlive, hbased⟩ := hx
  obtain ⟨other, hwrote⟩ := hseen live hlive
  obtain ⟨n, -, hv⟩ := hr.numbered other live hwrote
  have hov : o.metadata.resourceVersion = some (toString n) :=
    version_of_isCurrent hcur (hbased.version.trans hv)
  -- equal versions name one write, so the client has seen the very object that is stored
  obtain ⟨-, rfl⟩ := hr.eq_of_version hwrote (hr.mem_history hget) (hv.trans hov.symm)
  cases hbased with
  | overlay resource hsynced =>
    have hresource : resource.key = key := Except.ok.inj (resource.keyed.symm.trans hxkey)
    exact absurd (hresource ▸ hsynced) hspared
  | @record r hderived => exact ⟨r, rfl, hderived⟩

/-- What may take the place of a stored record: a record made from it, or it with the status of
one. -/
inductive Rewritten (m : Memory) (key : ObjectKey) (o : Object) : Object → Prop where
  | same : Rewritten m key o o
  | whole {r : Record} (hr : r.Derived o) :
      Rewritten m key o (m.stamp (m.replaced key r.object o))
  | status {r : Record} (hr : r.Derived o) : Rewritten m key o (m.stamp (o.withStatusOf r.object))

/-- A call of a careful client leaves an object that is not synced there, or rewrites it. -/
theorem Recorded.rewritten (hr : Recorded h m) (hseen : Witnessed h seen) (hspared : ¬synced key)
    (hget : m.objects.get? key = some o) {c : Call} (hc : Careful synced seen c) :
    ∃ o', (m.answer c).2.objects.get? key = some o' ∧ Rewritten m key o o' := by
  have hsame : ∃ o', m.objects.get? key = some o' ∧ Rewritten m key o o' := ⟨o, hget, .same⟩
  -- a write elsewhere does not matter
  have hother : ∀ {key' : ObjectKey} (y : Object), key ≠ key' →
      ∃ o', (m.objects.insert key' y).get? key = some o' ∧ Rewritten m key o o' := by
    intro key' y hne
    rw [SortedMap.get?_insert_ne _ _ hne]
    exact hsame
  rcases m.answer_cases c with hrefused | hserved
  · obtain ⟨e, f, he⟩ := hrefused
    rw [he]
    exact hsame
  · generalize m.answer c = result at hserved
    cases hserved with
    | get _ => exact hsame
    | list _ => exact hsame
    | @create x key' _ hnone =>
      refine hother _ ?_
      rintro rfl
      rw [hget] at hnone
      cases hnone
    | @delete key' _ _ =>
      have hne : key ≠ key' := by
        rintro rfl
        exact hspared hc
      show ∃ o', (m.objects.erase key').get? key = some o' ∧ _
      rw [SortedMap.get?_erase_ne _ hne]
      exact hsame
    | @replace x stored key' hxkey hstored hcur =>
      by_cases hne : key = key'
      · subst hne
        cases hget.symm.trans hstored
        obtain ⟨r, rfl, hderived⟩ := hr.derived hseen hspared hget hc hxkey hcur
        exact ⟨_, SortedMap.get?_insert_self _ _, .whole hderived⟩
      · exact hother _ hne
    | @replaceStatus x stored key' hxkey hstored hcur =>
      by_cases hne : key = key'
      · subst hne
        cases hget.symm.trans hstored
        obtain ⟨r, rfl, hderived⟩ := hr.derived hseen hspared hget hc hxkey hcur
        exact ⟨_, SortedMap.get?_insert_self _ _, .status hderived⟩
      · exact hother _ hne

end Memory

end MeshOperator
