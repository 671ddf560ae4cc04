import MeshOperator.Proofs.Containment

/-!
The order of what values ask for.

A value is below another one that has everything it asks for. Every value is below itself. A `null`
asks for nothing, so it is below a member that is absent, which in turn may become any member: only
a value without `null` is below all that is above something above it. Nothing that is added to a
live object, at any depth, then unsettles it, and of two values without `null` each is below the
other just if they are equal.
-/

namespace MeshOperator

set_option autoImplicit false

/-- The names in an ascending list are determined by which there are. -/
theorem Assoc.keys_eq {κ α : Type} [Ord κ] [Std.TransOrd κ] {entries others : List (κ × α)}
    (h : Ascending entries) (hothers : Ascending others)
    (hkeys : ∀ key, key ∈ entries.map (·.1) ↔ key ∈ others.map (·.1)) :
    entries.map (·.1) = others.map (·.1) := by
  have hperm : (entries.map (·.1)).Perm (others.map (·.1)) :=
    (List.perm_ext_iff_of_nodup (nodup_keys h) (nodup_keys hothers)).2 hkeys
  exact eq_of_perm id ((ascending_iff_keys _).1 h) ((ascending_iff_keys _).1 hothers) hperm

/-! ## Equal floats -/

section Floats

open Float.Model

theorem eq_of_then_compare {e e' : Int} {m m' : Nat}
    (h : (compare e e').then (compare m m') = .eq) : e = e' ∧ m = m' := by
  obtain ⟨he, hm⟩ := Ordering.then_eq_eq.1 h
  exact ⟨Std.LawfulEqCmp.eq_of_compare he, Std.LawfulEqCmp.eq_of_compare hm⟩

/-- Floats that are equal are the same number, unless both are zero. -/
theorem eq_or_zero_of_unpacked_beq {u v : UnpackedFloat} (h : u.beq v = true) :
    u = v ∨ ∃ s t, u = .zero s ∧ v = .zero t := by
  cases u with
  | notANumber => cases v <;> cases h
  | infinity s =>
    cases v with
    | infinity t =>
      cases s <;> cases t
      case positive.positive | negative.negative => exact .inl rfl
      all_goals cases h
    | _ => cases s <;> cases h
  | zero s =>
    cases v with
    | zero t => exact .inr ⟨s, t, rfl, rfl⟩
    | finite t | infinity t => cases t <;> cases h
    | notANumber => cases h
  | finite s m e =>
    cases v with
    | finite t m' e' =>
      cases s <;> cases t
      case positive.positive =>
        have h : (some ((compare e e').then (compare m m')) == some .eq) = true := h
        obtain ⟨rfl, rfl⟩ := eq_of_then_compare (by simpa using h)
        exact .inl rfl
      case negative.negative =>
        have h : (some ((compare e e').then (compare m m')).swap == some .eq) = true := h
        obtain ⟨rfl, rfl⟩ := eq_of_then_compare (by simpa using h)
        exact .inl rfl
      all_goals cases h
    | infinity t => cases s <;> cases t <;> cases h
    | _ => cases s <;> cases h

/-- Floats are equal if they are the same number; zero is one number with two signs. -/
theorem unpacked_beq_iff (u v : UnpackedFloat) :
    u.beq v = true ↔ (u = v ∧ u ≠ .notANumber) ∨ ∃ s t, u = .zero s ∧ v = .zero t := by
  constructor
  · intro h
    rcases eq_or_zero_of_unpacked_beq h with rfl | hzero
    · refine .inl ⟨rfl, ?_⟩
      rintro rfl
      cases h
    · exact .inr hzero
  · rintro (⟨rfl, hnumber⟩ | ⟨s, t, rfl, rfl⟩)
    · exact Json.unpacked_beq_self hnumber
    · rfl

theorem float_beq_iff (x y : Float) :
    (x == y) = true ↔ (x.toModel.unpack = y.toModel.unpack ∧ x.toModel.unpack ≠ .notANumber) ∨
      ∃ s t, x.toModel.unpack = .zero s ∧ y.toModel.unpack = .zero t :=
  unpacked_beq_iff _ _

theorem float_beq_symm {x y : Float} (h : (x == y) = true) : (y == x) = true := by
  rw [float_beq_iff] at h ⊢
  rcases h with ⟨hxy, hx⟩ | ⟨s, t, hx, hy⟩
  · exact .inl ⟨hxy.symm, hxy ▸ hx⟩
  · exact .inr ⟨t, s, hy, hx⟩

theorem float_beq_trans {x y z : Float} (h : (x == y) = true) (h' : (y == z) = true) :
    (x == z) = true := by
  rw [float_beq_iff] at h h' ⊢
  rcases h with ⟨hxy, hx⟩ | ⟨s, t, hx, hy⟩
  · rwa [hxy]
  · rcases h' with ⟨hyz, -⟩ | ⟨-, t', -, hz⟩
    · exact .inr ⟨s, t, hx, hyz ▸ hy⟩
    · exact .inr ⟨s, t', hx, hz⟩

end Floats

namespace Json

/-! ## Values without null -/

theorem NullFree.isNull {a : Json} (h : a.NullFree) : a.isNull = false := by
  cases a with
  | null => exact h.elim
  | _ => rfl

theorem nullFreeMembers_iff (members : Members) :
    NullFreeMembers members ↔ ∀ m ∈ members, m.2.NullFree := by
  induction members with
  | nil => simp [NullFreeMembers]
  | cons m rest ih => simp [NullFreeMembers, ih]

/-- Only `null` is below `null`. -/
theorem isNull_of_isSubset {a b : Json} (h : a.isSubset b = true) (ha : a.isNull = false) :
    b.isNull = false := by
  cases b with
  | null =>
    cases a with
    | null => cases ha
    | _ => cases h
  | _ => rfl

/-- What a member other than `null` asks for is there. -/
theorem find?_of_membersSubset {desired live : Members} (h : membersSubset desired live = true)
    {m : String × Json} (hm : m ∈ desired) (hvalue : m.2.isNull = false) :
    ∃ w, Assoc.find? m.1 live = some w ∧ m.2.isSubset w = true := by
  have hm := (membersSubset_iff desired live).1 h m hm
  cases hfind : Assoc.find? m.1 live with
  | none =>
    rw [hfind] at hm
    cases hvalue.symm.trans hm
  | some w =>
    rw [hfind] at hm
    exact ⟨w, rfl, hm⟩

/-! ## Above what is above -/

mutual

theorem isSubset_trans : (a : Json) → a.NullFree → ∀ {b c : Json}, a.isSubset b = true →
    b.isSubset c = true → a.isSubset c = true
  | .null, hfree, _, _, _, _ => hfree.elim
  | .bool x, _, b, c, hab, hbc => by
    cases b with
    | bool y => rwa [eq_of_beq (show (x == y) = true from hab)]
    | _ => cases hab
  | .int x, _, b, c, hab, hbc => by
    cases b with
    | int y => rwa [eq_of_beq (show (x == y) = true from hab)]
    | _ => cases hab
  | .float x, _, b, c, hab, hbc => by
    cases b with
    | float y =>
      cases c with
      | float z => exact float_beq_trans hab hbc
      | _ => cases hbc
    | _ => cases hab
  | .str x, _, b, c, hab, hbc => by
    cases b with
    | str y => rwa [eq_of_beq (show (x == y) = true from hab)]
    | _ => cases hab
  | .arr items, hfree, b, c, hab, hbc => by
    cases b with
    | arr others =>
      cases c with
      | arr last => exact itemsSubset_trans items hfree hab hbc
      | _ => cases hbc
    | _ => cases hab
  | .obj members, hfree, b, c, hab, hbc => by
    cases b with
    | obj others =>
      cases c with
      | obj last =>
        refine membersSubset_of fun m hm => ?_
        have hm' := (nullFreeMembers_iff members).1 hfree m hm
        obtain ⟨w, hw, hmw⟩ := find?_of_membersSubset hab hm hm'.isNull
        obtain ⟨x, hx, hwx⟩ :=
          find?_of_membersSubset hbc (Assoc.mem_of_find? hw) (isNull_of_isSubset hmw hm'.isNull)
        exact ⟨x, hx, isSubset_trans_members members hfree m hm hmw hwx⟩
      | _ => cases hbc
    | _ => cases hab

theorem itemsSubset_trans : (items : List Json) → NullFreeItems items →
    ∀ {others last : List Json}, itemsSubset items others = true →
      itemsSubset others last = true → itemsSubset items last = true
  | [], _, [], _, _, h => h
  | v :: rest, hfree, w :: others, x :: last, hab, hbc => by
    rw [itemsSubset, Bool.and_eq_true] at hab hbc ⊢
    exact ⟨isSubset_trans v hfree.1 hab.1 hbc.1, itemsSubset_trans rest hfree.2 hab.2 hbc.2⟩

theorem isSubset_trans_members : (members : Members) → NullFreeMembers members →
    ∀ m ∈ members, ∀ {b c : Json}, m.2.isSubset b = true → b.isSubset c = true →
      m.2.isSubset c = true
  | [], _, _, hm, _, _, _, _ => absurd hm List.not_mem_nil
  | (_, v) :: rest, hfree, m, hm, b, c, hab, hbc => by
    rcases List.mem_cons.1 hm with rfl | hm
    · exact isSubset_trans v hfree.1 hab hbc
    · exact isSubset_trans_members rest hfree.2 m hm hab hbc

end

/-! ## Gaining members -/

mutual

/-- The other value is this one after its objects have gained members, at any depth, those in lists
among them. -/
def Gained : Json → Json → Prop
  | .arr items, .arr others => GainedItems items others
  | .obj members, .obj others => GainedMembers members others
  | v, w => v = w

def GainedItems : List Json → List Json → Prop
  | [], [] => True
  | v :: rest, w :: others => Gained v w ∧ GainedItems rest others
  | _, _ => False

def GainedMembers : Members → Members → Prop
  | [], _ => True
  | (name, v) :: rest, others =>
    (∃ w, Assoc.find? name others = some w ∧ Gained v w) ∧ GainedMembers rest others

end

theorem isSubset_of_eq {v w : Json} (hc : v.Canonical) (h : v = w) : v.isSubset w = true :=
  h ▸ isSubset_self v hc

mutual

/-- What has gained members still has everything that it had before. -/
theorem Gained.isSubset : {v w : Json} → v.Canonical → v.Gained w → v.isSubset w = true
  | .null, _, hc, h | .bool _, _, hc, h | .int _, _, hc, h | .float _, _, hc, h |
    .str _, _, hc, h => isSubset_of_eq hc h
  | .arr _, .arr _, hc, h => GainedItems.itemsSubset hc h
  | .obj _, .obj _, hc, h => GainedMembers.membersSubset hc.2 h

theorem GainedItems.itemsSubset : {items others : List Json} → CanonicalItems items →
    GainedItems items others → itemsSubset items others = true
  | [], [], _, _ => rfl
  | _ :: _, _ :: _, hc, h => by
    rw [Json.itemsSubset, Bool.and_eq_true]
    exact ⟨Gained.isSubset hc.1 h.1, GainedItems.itemsSubset hc.2 h.2⟩

theorem GainedMembers.membersSubset : {members others : Members} → CanonicalMembers members →
    GainedMembers members others → membersSubset members others = true
  | [], _, _, _ => rfl
  | (_, _) :: _, _, hc, ⟨⟨_, hfind, hgained⟩, hrest⟩ => by
    rw [Json.membersSubset, Bool.and_eq_true, hfind]
    exact ⟨Gained.isSubset hc.1 hgained, GainedMembers.membersSubset hc.2 hrest⟩

end

/-! ## Equal values -/

mutual

theorem same_symm : (a b : Json) → same a b = true → same b a = true
  | .null, .null, _ => rfl
  | .bool _, .bool _, h | .int _, .int _, h | .str _, .str _, h => BEq.symm h
  | .float _, .float _, h => float_beq_symm h
  | .arr items, .arr others, h => sameItems_symm items others h
  | .obj members, .obj others, h => sameMembers_symm members others h

theorem sameItems_symm : (items others : List Json) → sameItems items others = true →
    sameItems others items = true
  | [], [], _ => rfl
  | v :: rest, w :: others, h => by
    rw [sameItems, Bool.and_eq_true] at h ⊢
    exact ⟨same_symm v w h.1, sameItems_symm rest others h.2⟩

theorem sameMembers_symm : (members others : Members) → sameMembers members others = true →
    sameMembers others members = true
  | [], [], _ => rfl
  | (_, v) :: rest, (_, w) :: others, h => by
    rw [sameMembers, Bool.and_eq_true, Bool.and_eq_true] at h ⊢
    exact ⟨⟨BEq.symm h.1.1, same_symm v w h.1.2⟩, sameMembers_symm rest others h.2⟩

end

mutual

/-- Equal values have everything of each other. -/
theorem isSubset_of_same : (a b : Json) → b.Canonical → same a b = true → a.isSubset b = true
  | .null, .null, _, h | .bool _, .bool _, _, h | .int _, .int _, _, h | .float _, .float _, _, h |
    .str _, .str _, _, h => h
  | .arr items, .arr others, hc, h => itemsSubset_of_same items others hc h
  | .obj members, .obj others, hc, h =>
    membersSubset_of_same members others others (fun _ hm => hm) hc hc.2 h

theorem itemsSubset_of_same : (items others : List Json) → CanonicalItems others →
    sameItems items others = true → itemsSubset items others = true
  | [], [], _, _ => rfl
  | v :: rest, w :: others, hc, h => by
    rw [sameItems, Bool.and_eq_true] at h
    rw [itemsSubset, isSubset_of_same v w hc.1 h.1, itemsSubset_of_same rest others hc.2 h.2,
      Bool.and_self]

/-- Members are looked up among all of the other object, of which only the rest is compared. -/
theorem membersSubset_of_same : (members others live : Members) → (∀ m ∈ others, m ∈ live) →
    (Json.obj live).Canonical → CanonicalMembers others → sameMembers members others = true →
      membersSubset members live = true
  | [], _, _, _, _, _, _ => rfl
  | (name, v) :: rest, (_, w) :: others, live, hlive, hc, hothers, h => by
    rw [sameMembers, Bool.and_eq_true, Bool.and_eq_true] at h
    obtain ⟨⟨hname, hv⟩, hrest⟩ := h
    cases eq_of_beq hname
    have hfind := find?_of_mem_canonical hc (hlive (name, w) List.mem_cons_self)
    have hmembers := membersSubset_of_same rest others live
      (fun m hm => hlive m (List.mem_cons_of_mem _ hm)) hc hothers.2 hrest
    rw [membersSubset, hfind, hmembers, Bool.and_true]
    exact isSubset_of_same v w hothers.1 hv

end

theorem sameMembers_of_keys : (members others : Members) →
    members.map (·.1) = others.map (·.1) →
      (∀ m ∈ members, ∀ n ∈ others, m.1 = n.1 → same m.2 n.2 = true) →
        sameMembers members others = true
  | [], [], _, _ => rfl
  | (name, v) :: rest, (other, w) :: others, hkeys, h => by
    obtain ⟨hname, hrest⟩ := List.cons_eq_cons.1 hkeys
    rw [sameMembers, Bool.and_eq_true, Bool.and_eq_true]
    exact ⟨⟨beq_iff_eq.2 hname, h _ List.mem_cons_self _ List.mem_cons_self hname⟩,
      sameMembers_of_keys rest others hrest fun m hm n hn =>
        h m (List.mem_cons_of_mem _ hm) n (List.mem_cons_of_mem _ hn)⟩

/-- An object without `null` has no names that an object above it has not. -/
theorem keys_of_membersSubset {members others : Members} (hfree : NullFreeMembers members)
    (h : membersSubset members others = true) {name : String} (hname : name ∈ members.map (·.1)) :
    name ∈ others.map (·.1) := by
  obtain ⟨m, hm, rfl⟩ := List.mem_map.1 hname
  obtain ⟨w, hw, -⟩ :=
    find?_of_membersSubset h hm ((nullFreeMembers_iff members).1 hfree m hm).isNull
  exact List.mem_map.2 ⟨_, Assoc.mem_of_find? hw, rfl⟩

theorem isSubset_of_mem {members others : Members} (hc : (Json.obj others).Canonical)
    (h : membersSubset members others = true) {m n : String × Json} (hm : m ∈ members)
    (hn : n ∈ others) (hname : m.1 = n.1) : m.2.isSubset n.2 = true := by
  have hm := (membersSubset_iff members others).1 h m hm
  rwa [hname, find?_of_mem_canonical hc hn] at hm

mutual

theorem same_of_isSubset : (a b : Json) → a.Canonical → b.Canonical → a.NullFree → b.NullFree →
    a.isSubset b = true → b.isSubset a = true → same a b = true
  | .null, _, _, _, hfree, _, _, _ => hfree.elim
  | .bool _, .bool _, _, _, _, _, h, _ | .int _, .int _, _, _, _, _, h, _ |
    .float _, .float _, _, _, _, _, h, _ | .str _, .str _, _, _, _, _, h, _ => h
  | .arr items, .arr others, hc, hc', hfree, hfree', h, h' =>
    sameItems_of_subset items others hc hc' hfree hfree' h h'
  | .obj members, .obj others, hc, hc', hfree, hfree', h, h' => by
    refine sameMembers_of_keys members others (Assoc.keys_eq hc.1 hc'.1 fun name =>
      ⟨keys_of_membersSubset hfree h, keys_of_membersSubset hfree' h'⟩) fun m hm n hn hname => ?_
    exact same_of_isSubset_members members hc.2 hfree m hm n.2
      ((canonicalMembers_iff others).1 hc'.2 n hn) ((nullFreeMembers_iff others).1 hfree' n hn)
      (isSubset_of_mem hc' h hm hn hname) (isSubset_of_mem hc h' hn hm hname.symm)

theorem sameItems_of_subset : (items others : List Json) → CanonicalItems items →
    CanonicalItems others → NullFreeItems items → NullFreeItems others →
      itemsSubset items others = true → itemsSubset others items = true →
        sameItems items others = true
  | [], [], _, _, _, _, _, _ => rfl
  | v :: rest, w :: others, hc, hc', hfree, hfree', h, h' => by
    rw [itemsSubset, Bool.and_eq_true] at h h'
    rw [sameItems, same_of_isSubset v w hc.1 hc'.1 hfree.1 hfree'.1 h.1 h'.1,
      sameItems_of_subset rest others hc.2 hc'.2 hfree.2 hfree'.2 h.2 h'.2, Bool.and_self]

theorem same_of_isSubset_members : (members : Members) → CanonicalMembers members →
    NullFreeMembers members → ∀ m ∈ members, ∀ w : Json, w.Canonical → w.NullFree →
      m.2.isSubset w = true → w.isSubset m.2 = true → same m.2 w = true
  | [], _, _, _, hm, _, _, _, _, _ => absurd hm List.not_mem_nil
  | (_, v) :: rest, hc, hfree, m, hm, w, hw, hw', h, h' => by
    rcases List.mem_cons.1 hm with rfl | hm
    · exact same_of_isSubset v w hc.1 hw hfree.1 hw' h h'
    · exact same_of_isSubset_members rest hc.2 hfree.2 m hm w hw hw' h h'

end

/-! ## The order -/

/-- To have everything that is asked for is an order, where nothing is asked for by `null`: it holds
of a value and itself; a value without `null` is below all that is above something above it, such as
a live object that has gained members after it was found to match; and values without `null` are
below each other just if they are equal. -/
theorem isSubset_order :
    (∀ v : Json, v.Canonical → v.isSubset v = true) ∧
    (∀ a b c : Json, a.NullFree → a.isSubset b = true → b.isSubset c = true →
      a.isSubset c = true) ∧
    (∀ desired live later : Json, desired.NullFree → live.Canonical →
      desired.isSubset live = true → live.Gained later → desired.isSubset later = true) ∧
    ∀ a b : Json, a.Canonical → b.Canonical → a.NullFree → b.NullFree →
      ((a.isSubset b = true ∧ b.isSubset a = true) ↔ (a == b) = true) := by
  refine ⟨isSubset_self, fun a b c hfree => isSubset_trans a hfree, ?_, ?_⟩
  · intro desired live later hfree hlive hsettled hgained
    exact isSubset_trans desired hfree hsettled (hgained.isSubset hlive)
  · intro a b ha hb hfree hfree'
    constructor
    · rintro ⟨h, h'⟩
      exact same_of_isSubset a b ha hb hfree hfree' h h'
    · intro h
      exact ⟨isSubset_of_same a b hb h, isSubset_of_same b a ha (same_symm a b h)⟩

/-- A pod of one container, each with further members. -/
def podWith (container pod : Members) : Json :=
  .obj (("containers", .arr [.obj (("name", .str "web") :: container)]) :: pod)

/-- A container matches what is asked for and goes on matching when it is given a port and its pod a
restart policy. Zero and negative zero, which each have all of the other, are equal. -/
theorem isSubset_order_podWith :
    let desired := podWith [] []
    let live := podWith [("workingDir", .str "/")] []
    let later := podWith [("port", .int 8084), ("workingDir", .str "/")]
      [("restartPolicy", .str "Always")]
    let zero (x : Float) : Json := .obj [("x", .float x)]
    desired.NullFree ∧ live.Canonical ∧ desired.isSubset live = true ∧ live.Gained later ∧
      desired.isSubset later = true ∧ later.isSubset later = true ∧
        (zero 0.0 == zero (-0.0)) = true := by
  intro desired live later zero
  have hfree : desired.NullFree := ⟨⟨⟨trivial, trivial⟩, trivial⟩, trivial⟩
  have hlive : live.Canonical := by decide
  have hsettled : desired.isSubset live = true := by decide
  have hgained : live.Gained later :=
    ⟨⟨_, rfl, ⟨⟨_, rfl, rfl⟩, ⟨_, rfl, rfl⟩, trivial⟩, trivial⟩, trivial⟩
  obtain ⟨hself, -, hgrows, hequal⟩ := isSubset_order
  refine ⟨hfree, hlive, hsettled, hgained, hgrows desired live later hfree hlive hsettled hgained,
    hself later (by decide), ?_⟩
  exact (hequal (zero 0.0) (zero (-0.0)) (by decide +kernel) (by decide +kernel)
    ⟨trivial, trivial⟩ ⟨trivial, trivial⟩).1 ⟨by decide +kernel, by decide +kernel⟩

/-- A `null` is below an absent member, but not below what that may become. -/
example :
    (obj [("a", .null)]).isSubset (.obj []) = true ∧
      (obj []).isSubset (.obj [("a", .int 1)]) = true ∧
      (obj [("a", .null)]).isSubset (.obj [("a", .int 1)]) = false := by decide

end Json

end MeshOperator
