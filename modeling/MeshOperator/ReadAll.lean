/-!
Reading every item of a list, where each may turn out unreadable.
-/

namespace MeshOperator

set_option autoImplicit false

namespace ReadAll

variable {α β : Type} {read : α → Option β}

/-- Each item is read as what comes out in its place. -/
theorem map_eq_of_mapM {items : List α} {out : List β} (h : items.mapM read = some out) :
    items.map read = out.map some := by
  induction items generalizing out with
  | nil =>
    cases h
    rfl
  | cons a rest ih =>
    rw [List.mapM_cons] at h
    obtain ⟨b, hb, h⟩ := Option.bind_eq_some_iff.1 h
    obtain ⟨others, hothers, h⟩ := Option.bind_eq_some_iff.1 h
    cases h
    rw [List.map_cons, List.map_cons, hb, ih hothers]

/-- Whatever comes out was read from some item. -/
theorem exists_of_mem {items : List α} {out : List β} (h : items.mapM read = some out) {b : β}
    (hb : b ∈ out) : ∃ a ∈ items, read a = some b := by
  have hmem : some b ∈ items.map read := by
    rw [map_eq_of_mapM h]
    exact List.mem_map_of_mem hb
  exact List.mem_map.1 hmem

/-- Items that are written and read back one by one come back as they were. -/
theorem of_written {write : β → α} {items : List β} (h : ∀ b ∈ items, read (write b) = some b) :
    (items.map write).mapM read = some items := by
  induction items with
  | nil => rfl
  | cons b rest ih =>
    obtain ⟨hb, hrest⟩ := List.forall_mem_cons.1 h
    simp [hb, ih hrest]

theorem of_fixed {read : α → Option α} {items : List α} (h : ∀ a ∈ items, read a = some a) :
    items.mapM read = some items := by
  simpa using @of_written α α read id items h

end ReadAll

end MeshOperator
