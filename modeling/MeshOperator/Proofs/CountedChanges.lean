import MeshOperator.Proofs.Exploration
import MeshOperator.Proofs.ServerFields
import MeshOperator.Proofs.SubsetOrder

/-!
What is counted between two values.

Two objects share the members whose names are in both. Only these are compared further, and each of
the others counts once, as added or as removed. So the two objects play the same part in the count
except for these two numbers, and nothing is counted just if the objects have the same members.
-/

namespace MeshOperator

set_option autoImplicit false

namespace Assoc

variable {κ α β : Type} [Ord κ]

/-! ## Entries of two lists -/

/-- The keys that are in both lists, with the values that they have there. -/
def shared (a : List (κ × α)) (b : List (κ × β)) : List (κ × α × β) :=
  a.filterMap fun e => (find? e.1 b).map fun w => (e.1, e.2, w)

/-- How many entries have a key that the other list has not. -/
def lacking (a : List (κ × α)) (b : List (κ × β)) : Nat := a.countP fun e => (find? e.1 b).isNone

theorem mem_shared {a : List (κ × α)} {b : List (κ × β)} {e : κ × α × β} :
    e ∈ shared a b ↔ (e.1, e.2.1) ∈ a ∧ find? e.1 b = some e.2.2 := by
  unfold shared
  rw [List.mem_filterMap]
  constructor
  · rintro ⟨⟨key, v⟩, hmem, hfound⟩
    obtain ⟨w, hw, rfl⟩ := Option.map_eq_some_iff.1 hfound
    exact ⟨hmem, hw⟩
  · rintro ⟨hmem, hfound⟩
    exact ⟨_, hmem, Option.map_eq_some_iff.2 ⟨_, hfound, rfl⟩⟩

theorem find?_shared [Std.LawfulEqOrd κ] (key : κ) (a : List (κ × α)) (b : List (κ × β)) :
    find? key (shared a b) =
      (find? key a).bind fun v => (find? key b).map fun w => (v, w) := by
  induction a with
  | nil => rfl
  | cons head rest ih =>
    obtain ⟨k, v⟩ := head
    by_cases hc : compare key k = .eq
    · cases Std.LawfulEqCmp.eq_of_compare hc
      cases hfound : find? key b with
      | none => simpa [shared, find?, hfound] using ih
      | some w => simp [shared, find?, hfound]
    · cases hfound : find? k b with
      | none => simpa [shared, find?, hfound, hc] using ih
      | some w => simpa [shared, find?, hfound, hc] using ih

theorem ascending_shared {a : List (κ × α)} (h : Ascending a) (b : List (κ × β)) :
    Ascending (shared a b) := by
  refine List.Pairwise.filterMap _ ?_ h
  intro e e' hlt x hx x' hx'
  obtain ⟨v, -, rfl⟩ := Option.map_eq_some_iff.1 hx
  obtain ⟨w, -, rfl⟩ := Option.map_eq_some_iff.1 hx'
  exact hlt

/-- It does not matter from which of the lists the keys are taken. -/
theorem shared_comm [Std.TransOrd κ] [Std.LawfulEqOrd κ] {a : List (κ × α)} {b : List (κ × β)}
    (ha : Ascending a) (hb : Ascending b) :
    shared b a = (shared a b).map fun e => (e.1, e.2.2, e.2.1) := by
  refine eq_of_find? (ascending_shared hb a) (List.pairwise_map.2 (ascending_shared ha b)) ?_
  intro key
  rw [find?_map_values (fun _ (e : α × β) => (e.2, e.1)), find?_shared, find?_shared]
  cases find? key a <;> cases find? key b <;> rfl

theorem lacking_eq_zero_iff [Std.LawfulEqOrd κ] (a : List (κ × α)) (b : List (κ × β)) :
    lacking a b = 0 ↔ ∀ key ∈ a.map (·.1), key ∈ b.map (·.1) := by
  unfold lacking
  rw [List.countP_eq_zero, List.forall_mem_map]
  refine forall₂_congr fun e _ => ?_
  rw [Option.isNone_iff_eq_none, find?_eq_none_iff, List.mem_map]
  simp only [ne_eq, Classical.not_forall, Classical.not_not, exists_prop]

end Assoc

namespace Json

/-! ## Counts -/

attribute [ext] Difference

namespace Difference

@[simp] theorem adds_none : none.adds = 0 := rfl

@[simp] theorem updates_none : none.updates = 0 := rfl

@[simp] theorem removes_none : none.removes = 0 := rfl

@[simp] theorem adds_add (c d : Difference) : (c + d).adds = c.adds + d.adds := rfl

@[simp] theorem updates_add (c d : Difference) : (c + d).updates = c.updates + d.updates := rfl

@[simp] theorem removes_add (c d : Difference) : (c + d).removes = c.removes + d.removes := rfl

/-- The count for the way back: what was added is removed, and what was removed is added. -/
def reverse (d : Difference) : Difference := ⟨d.removes, d.updates, d.adds⟩

theorem reverse_add (c d : Difference) : (c + d).reverse = c.reverse + d.reverse := rfl

theorem add_eq_none_iff (c d : Difference) : c + d = none ↔ c = none ∧ d = none := by
  simp only [Difference.ext_iff, adds_add, updates_add, removes_add, adds_none, updates_none,
    removes_none]
  omega

theorem add_left_comm (c d e : Difference) : c + (d + e) = d + (c + e) := by
  ext <;> simp <;> omega

def total (counts : List Difference) : Difference := counts.foldr (· + ·) none

theorem total_cons (d : Difference) (rest : List Difference) :
    total (d :: rest) = d + total rest := rfl

theorem total_eq_none_iff (counts : List Difference) :
    total counts = none ↔ ∀ d ∈ counts, d = none := by
  induction counts with
  | nil => simp [total]
  | cons d rest ih => rw [total_cons, add_eq_none_iff, ih, List.forall_mem_cons]

theorem reverse_total (counts : List Difference) :
    (total counts).reverse = total (counts.map reverse) := by
  induction counts with
  | nil => rfl
  | cons d rest ih => rw [total_cons, reverse_add, ih, List.map_cons, total_cons]

/-- What is compared as a whole is one update, unless it is equal. -/
def whole (equal : Bool) : Difference := if equal then none else ⟨0, 1, 0⟩

theorem whole_eq_none_iff (equal : Bool) : whole equal = none ↔ equal = true := by
  cases equal <;> simp [whole, none]

theorem reverse_whole (equal : Bool) : (whole equal).reverse = whole equal := by
  cases equal <;> rfl

end Difference

theorem same_comm (a b : Json) : same a b = same b a :=
  Bool.eq_iff_iff.2 ⟨same_symm a b, same_symm b a⟩

/-! ## Items -/

theorem itemDifference_cons (v w : Json) (rest others : List Json) :
    itemDifference (v :: rest) (w :: others) =
      .whole (same v w) + itemDifference rest others := by
  have hitem : (v != w) = !same v w := rfl
  cases hsame : same v w with
  | true =>
    rw [hsame] at hitem
    ext <;> simp [itemDifference, Difference.whole, hitem]
  | false =>
    rw [hsame] at hitem
    ext <;> simp [itemDifference, Difference.whole, hitem, Nat.add_comm]

theorem itemDifference_eq_none_iff (items others : List Json) :
    itemDifference items others = .none ↔ sameItems items others = true := by
  induction items generalizing others with
  | nil =>
    cases others with
    | nil => simp [itemDifference, sameItems, Difference.none]
    | cons w others => simp [itemDifference, sameItems, Difference.none]
  | cons v rest ih =>
    cases others with
    | nil => simp [itemDifference, sameItems, Difference.none]
    | cons w others =>
      rw [itemDifference_cons, Difference.add_eq_none_iff, Difference.whole_eq_none_iff, ih,
        sameItems, Bool.and_eq_true]

theorem itemDifference_reverse (items others : List Json) :
    itemDifference others items = (itemDifference items others).reverse := by
  induction items generalizing others with
  | nil => cases others <;> rfl
  | cons v rest ih =>
    cases others with
    | nil => rfl
    | cons w others =>
      rw [itemDifference_cons, itemDifference_cons, Difference.reverse_add,
        Difference.reverse_whole, same_comm w v, ih]

/-! ## Equal values -/

theorem exists_of_sameMembers (members others : Members) (h : sameMembers members others = true) :
    ∀ m ∈ members, ∃ n ∈ others, n.1 = m.1 ∧ same m.2 n.2 = true := by
  induction members generalizing others with
  | nil => simp
  | cons m rest ih =>
    cases others with
    | nil => cases h
    | cons n others =>
      rw [sameMembers, Bool.and_eq_true, Bool.and_eq_true] at h
      obtain ⟨⟨hname, hvalue⟩, hrest⟩ := h
      rw [List.forall_mem_cons]
      constructor
      · exact ⟨n, List.mem_cons_self, (eq_of_beq hname).symm, hvalue⟩
      · intro m' hm'
        obtain ⟨n', hn', hboth⟩ := ih others hrest m' hm'
        exact ⟨n', List.mem_cons_of_mem n hn', hboth⟩

/-- The count for each member, which is compared further only if it is in the other object with a
different value. -/
theorem memberDifference_eq_total (target base : Members) :
    memberDifference target base = .total (target.map fun m =>
      (Assoc.find? m.1 base).elim ⟨1, 0, 0⟩ fun w =>
        if m.2 == w then .none else difference m.2 w) := by
  induction target with
  | nil => rfl
  | cons m rest ih =>
    obtain ⟨name, v⟩ := m
    rw [memberDifference, ih, List.map_cons, Difference.total_cons]
    cases Assoc.find? name base <;> rfl

theorem difference_members (target base : Members) :
    difference (.obj target) (.obj base) =
      memberDifference target base + ⟨0, 0, Assoc.lacking base target⟩ := rfl

/-- Nothing is counted between equal values. -/
theorem difference_of_same {a b : Json} (hb : b.Canonical) (h : same a b = true) :
    difference a b = .none := by
  cases a with
  | obj members =>
    cases b with
    | obj others =>
      have hmembers : memberDifference members others = .none := by
        rw [memberDifference_eq_total, Difference.total_eq_none_iff, List.forall_mem_map]
        intro m hm
        obtain ⟨n, hn, hname, hvalue⟩ := exists_of_sameMembers members others h m hm
        rw [← hname, find?_of_mem_canonical hb hn]
        exact if_pos hvalue
      have hkeys : Assoc.lacking others members = 0 := by
        rw [Assoc.lacking_eq_zero_iff, List.forall_mem_map]
        intro n hn
        obtain ⟨m, hm, hname, -⟩ :=
          exists_of_sameMembers others members (sameMembers_symm members others h) n hn
        exact List.mem_map.2 ⟨m, hm, hname⟩
      rw [difference_members, hmembers, hkeys]
      rfl
    | _ => cases h
  | arr items =>
    cases b with
    | arr others => exact (itemDifference_eq_none_iff items others).2 h
    | _ => cases h
  | _ => cases b <;> exact (Difference.whole_eq_none_iff _).2 h

/-! ## Members -/

/-- Whether equal members are skipped makes no difference. -/
theorem difference_unless_same {v w : Json} (hw : w.Canonical) :
    (if v == w then .none else difference v w) = difference v w := by
  split
  · rename_i h
    exact (difference_of_same hw h).symm
  · rfl

theorem memberDifference_eq (target : Members) {base : Members} (hbase : (obj base).Canonical) :
    memberDifference target base = ⟨Assoc.lacking target base, 0, 0⟩ +
      .total ((Assoc.shared target base).map fun e => difference e.2.1 e.2.2) := by
  induction target with
  | nil => rfl
  | cons m rest ih =>
    obtain ⟨name, v⟩ := m
    rw [memberDifference, ih]
    cases hfound : Assoc.find? name base with
    | none =>
      have hshared : Assoc.shared ((name, v) :: rest) base = Assoc.shared rest base := by
        simp [Assoc.shared, hfound]
      have hlacking : Assoc.lacking ((name, v) :: rest) base = Assoc.lacking rest base + 1 := by
        simp [Assoc.lacking, hfound]
      rw [hshared, hlacking]
      ext <;> simp
      omega
    | some w =>
      have hshared : Assoc.shared ((name, v) :: rest) base =
          (name, v, w) :: Assoc.shared rest base := by
        simp [Assoc.shared, hfound]
      have hlacking : Assoc.lacking ((name, v) :: rest) base = Assoc.lacking rest base := by
        simp [Assoc.lacking, hfound]
      simp only [difference_unless_same (hbase.find? hfound)]
      rw [hshared, hlacking, List.map_cons, Difference.total_cons, Difference.add_left_comm]

/-- Each member that is in one of the objects only counts once, and those that are in both count as
much as their values. -/
theorem difference_obj (target : Members) {base : Members} (hbase : (obj base).Canonical) :
    difference (.obj target) (.obj base) =
      ⟨Assoc.lacking target base, 0, Assoc.lacking base target⟩ +
        .total ((Assoc.shared target base).map fun e => difference e.2.1 e.2.2) := by
  rw [difference_members, memberDifference_eq target hbase]
  ext <;> simp [Nat.add_comm]

/-! ## Going through two values -/

/-- The property holds of values that are compared as a whole, and of lists; and two objects have it
if it holds of the values that they share. -/
structure Inherited (P : Json → Json → Prop) : Prop where
  whole (a b : Json) (h : difference a b = .whole (same a b))
    (hback : difference b a = .whole (same b a)) : P a b
  items (items others : List Json) : P (.arr items) (.arr others)
  members {members others : Members} (hmembers : (obj members).Canonical)
    (hothers : (obj others).Canonical)
    (h : ∀ e ∈ Assoc.shared members others, P e.2.1 e.2.2) : P (.obj members) (.obj others)

mutual

/-- The values that two objects share are parts of the first one, and of the second one any value may
be found, so that the recursion is on the first. -/
theorem Inherited.holds {P : Json → Json → Prop} (h : Inherited P) :
    (a : Json) → a.Canonical → ∀ b : Json, b.Canonical → P a b
  | .null, _, b, _ | .bool _, _, b, _ | .int _, _, b, _ | .float _, _, b, _ | .str _, _, b, _ => by
    cases b <;> exact h.whole _ _ rfl rfl
  | .arr items, _, b, _ => by
    cases b with
    | arr others => exact h.items items others
    | _ => exact h.whole _ _ rfl rfl
  | .obj members, ha, b, hb => by
    cases b with
    | obj others =>
      refine h.members ha hb fun e he => ?_
      obtain ⟨hmem, hfound⟩ := Assoc.mem_shared.1 he
      exact h.holds_members members ha.2 _ hmem e.2.2 (hb.find? hfound)
    | _ => exact h.whole _ _ rfl rfl

theorem Inherited.holds_members {P : Json → Json → Prop} (h : Inherited P) :
    (members : Members) → CanonicalMembers members → ∀ m ∈ members, ∀ b : Json, b.Canonical →
      P m.2 b
  | [], _, _, hm, _, _ => absurd hm List.not_mem_nil
  | (_, v) :: rest, hc, m, hm, b, hb => by
    rcases List.mem_cons.1 hm with rfl | hm
    · exact h.holds v hc.1 b hb
    · exact h.holds_members rest hc.2 m hm b hb

end

theorem inherited_same_of_difference :
    Inherited fun a b => difference a b = .none → same a b = true where
  whole a b h _ hnone := (Difference.whole_eq_none_iff _).1 (h.symm.trans hnone)
  items items others hnone := (itemDifference_eq_none_iff items others).1 hnone
  members {members others} hmembers hothers ih hnone := by
    rw [difference_obj members hothers, Difference.add_eq_none_iff] at hnone
    obtain ⟨hlacking, hshared⟩ := hnone
    rw [Difference.total_eq_none_iff, List.forall_mem_map] at hshared
    have hadds : Assoc.lacking members others = 0 := congrArg Difference.adds hlacking
    have hremoves : Assoc.lacking others members = 0 := congrArg Difference.removes hlacking
    have hkeys : members.map (·.1) = others.map (·.1) := by
      apply Assoc.keys_eq hmembers.1 hothers.1
      intro key
      exact ⟨(Assoc.lacking_eq_zero_iff members others).1 hadds key,
        (Assoc.lacking_eq_zero_iff others members).1 hremoves key⟩
    apply sameMembers_of_keys members others hkeys
    intro m hm n hn hname
    have hfound : Assoc.find? m.1 others = some n.2 := by
      rw [hname]
      exact find?_of_mem_canonical hothers hn
    have hmem : (m.1, m.2, n.2) ∈ Assoc.shared members others := Assoc.mem_shared.2 ⟨hm, hfound⟩
    exact ih _ hmem (hshared _ hmem)

theorem inherited_difference_reverse :
    Inherited fun a b => difference b a = (difference a b).reverse where
  whole a b h hback := by
    rw [hback, h, Difference.reverse_whole, same_comm]
  items := itemDifference_reverse
  members {members others} hmembers hothers ih := by
    have hshared : (Assoc.shared others members).map (fun e => difference e.2.1 e.2.2) =
        ((Assoc.shared members others).map fun e => difference e.2.1 e.2.2).map
          Difference.reverse := by
      rw [Assoc.shared_comm hmembers.1 hothers.1, List.map_map, List.map_map]
      exact List.map_congr_left ih
    rw [difference_obj others hmembers, difference_obj members hothers, hshared,
      Difference.reverse_add, Difference.reverse_total]
    rfl

theorem difference_eq_none_iff {a b : Json} (ha : a.Canonical) (hb : b.Canonical) :
    difference a b = .none ↔ same a b = true :=
  ⟨inherited_same_of_difference.holds a ha b hb, difference_of_same hb⟩

/-- Where something that is asked for is missing, something is counted. -/
theorem difference_ne_none {a b : Json} (ha : a.Canonical) (hb : b.Canonical)
    (h : a.isSubset b = false) : difference a b ≠ .none := by
  intro hnone
  have hsubset := isSubset_of_same a b hb ((difference_eq_none_iff ha hb).1 hnone)
  rw [h] at hsubset
  cases hsubset

/-! ## Updates -/

theorem canonical_stripMetadata {v : Json} (h : v.Canonical) : v.stripMetadata.Canonical := by
  cases v with
  | obj members =>
    obtain ⟨hascending, hvalues⟩ := (canonical_obj members).1 h
    exact (canonical_obj _).2
      ⟨hascending.filter _, fun m hm => hvalues m (List.mem_filter.1 hm).1⟩
  | _ => exact h

theorem canonical_strip {v : Json} (h : v.Canonical) : v.strip.Canonical := by
  cases v with
  | obj members =>
    obtain ⟨hascending, hvalues⟩ := (canonical_obj members).1 h
    rw [strip_obj, canonical_obj, List.forall_mem_map]
    constructor
    · exact List.pairwise_map.2 (hascending.filter _)
    · intro m hm
      have hvalue := hvalues m (List.mem_filter.1 hm).1
      unfold stripMember
      split
      · exact canonical_stripMetadata hvalue
      · exact hvalue
  | _ => exact h

end Json

/-- What an update of the live object is reported as. -/
def Object.change (desired live : Object) : Json.Difference :=
  Json.difference desired.toJson.strip live.toJson.strip

theorem Object.change_ne_none {desired live : Object} (h : desired.isSettled live = false) :
    desired.change live ≠ .none := by
  apply Json.difference_ne_none (Json.canonical_strip desired.canonical_toJson)
    (Json.canonical_strip live.canonical_toJson)
  rw [Json.isSubset_strip]
  exact h

/-- An object is overwritten just if the outcome that is chosen is an update. -/
theorem Chosen.replaced_iff {resource : Managed} {live : Object} {outcome : SyncOutcome}
    {t : List Turn} {result : Except SyncError SyncOutcome}
    (h : Chosen resource live outcome t result) (o : Object) :
    (∃ reply, (⟨.replace o, reply⟩ : Turn) ∈ t) ↔
      outcome = .updated ∧ o = resource.object.overlay live := by
  cases h with
  | unchanged => simp
  | updated written => simp
  | refused e => simp

/-- Only an object that was read and lacks something is overwritten. -/
theorem unsettled_of_replaced {σ : Type} {answer : (c : Call) → σ → c.Answer × σ} {s : σ}
    {resource : Managed} {existence : Existence} {o : Object} {reply : Except StoreError Object}
    (h : (⟨.replace o, reply⟩ : Turn) ∈ (ensure resource existence).run.turns answer s) :
    ∃ live, (answer (.get resource.key) s).1 = .ok live ∧ o = resource.object.overlay live ∧
      resource.object.isSettled live = false := by
  cases existence with
  | absent =>
    have hasks : Dialogue.Asks (fun c => c.verb ≠ .replace) (ensureAbsent resource.key).run := by
      refine ⟨Verb.noConfusion, fun found => ?_⟩
      cases found with
      | ok live => exact ⟨Verb.noConfusion, fun _ => trivial⟩
      | error e => cases e <;> trivial
    exact absurd rfl (hasks.of_mem_turns h)
  | present =>
    cases hfound : (answer (.get resource.key) s).1 with
    | ok live =>
      obtain ⟨houtcome, hwritten⟩ := ((ensure_chosen hfound).replaced_iff o).1 ⟨reply, h⟩
      refine ⟨live, rfl, hwritten, ?_⟩
      cases hsettled : resource.object.isSettled live with
      | true =>
        rw [hsettled] at houtcome
        cases houtcome
      | false => rfl
    | error e =>
      rcases List.mem_cons.1 h with heq | hlater
      · cases heq
      · -- what is asked after this answer is at most that the object be created
        rw [hfound] at hlater
        refine absurd rfl
          (Dialogue.Asks.of_mem_turns (P := fun c : Call => c.verb ≠ .replace) ?_ hlater)
        cases e with
        | notFound key => exact ⟨Verb.noConfusion, fun created => by cases created <;> trivial⟩
        | _ => trivial

/-- The count is exact: nothing is counted just if the values are equal, and the other way round the
same is updated, as much is added as was removed, and as much is removed as was added. Where
something is missing that is asked for, something is counted; so an object is never overwritten with
a report that nothing changes. -/
theorem changes_counted_exactly :
    (∀ a b : Json, a.Canonical → b.Canonical →
      (a.difference b = .none ↔ (a == b) = true)) ∧
    (∀ a b : Json, a.Canonical → b.Canonical → b.difference a = (a.difference b).reverse) ∧
    (∀ a b : Json, a.Canonical → b.Canonical → a.isSubset b = false → a.difference b ≠ .none) ∧
    ∀ {σ : Type} (answer : (c : Call) → σ → c.Answer × σ) (s : σ) (resource : Managed)
      (existence : Existence) (o : Object) (reply : Except StoreError Object),
      (⟨.replace o, reply⟩ : Turn) ∈ (ensure resource existence).run.turns answer s →
        ∃ live, (answer (.get resource.key) s).1 = .ok live ∧
          o = resource.object.overlay live ∧ resource.object.change live ≠ .none := by
  refine ⟨fun a b ha hb => Json.difference_eq_none_iff ha hb,
    fun a b ha hb => Json.inherited_difference_reverse.holds a ha b hb,
    fun a b ha hb => Json.difference_ne_none ha hb, ?_⟩
  intro σ answer s resource existence o reply h
  obtain ⟨live, hfound, hwritten, hunsettled⟩ := unsettled_of_replaced h
  exact ⟨live, hfound, hwritten, Object.change_ne_none hunsettled⟩

/-- Two values that differ in a number, in a member of a member, and in a list; and a configuration
map with another entry than the one that is asked for. -/
theorem changes_counted_exactly_nested :
    let base : Json := .obj [("a", .int 1), ("b", .obj [("x", .int 1)]),
      ("c", .arr [.int 1, .int 2, .int 3])]
    let target : Json := .obj [("a", .int 2), ("b", .obj [("x", .int 1), ("y", .int 2)]),
      ("c", .arr [.int 1, .int 9]), ("d", .bool true)]
    let live := (Managed.noting "old").object
    let desired := (Managed.noting "new").object
    target.Canonical ∧ base.Canonical ∧ target.isSubset base = false ∧
      target.difference base = ⟨2, 2, 1⟩ ∧ base.difference target = ⟨1, 2, 2⟩ ∧
      target.difference base ≠ .none ∧ ¬ (target == base) = true ∧
      (∃ reply, (⟨.replace (desired.overlay live), reply⟩ : Turn) ∈
        (ensure (.noting "new") .present).run.turns (alwaysAnswer live) ()) ∧
      desired.change live ≠ .none := by
  intro base target live desired
  have htarget : target.Canonical := by decide
  have hbase : base.Canonical := by decide
  have hmissing : target.isSubset base = false := by decide
  have hcount : target.difference base = ⟨2, 2, 1⟩ := by decide
  obtain ⟨hexact, hreverse, hcounted, hreported⟩ := changes_counted_exactly
  have hback : base.difference target = ⟨1, 2, 2⟩ := by
    rw [hreverse target base htarget hbase, hcount]
    rfl
  have hne := hcounted target base htarget hbase hmissing
  have hstale : desired.isSettled live = false := by decide +kernel
  let run := (ensure (.noting "new") .present).run
  have hchosen : Chosen (.noting "new") live _ (run.turns (alwaysAnswer live) ())
    (run.run (alwaysAnswer live) ()).1 := ensure_chosen rfl
  obtain ⟨reply, hreplaced⟩ := (hchosen.replaced_iff (desired.overlay live)).2
    ⟨if_neg (Bool.eq_false_iff.1 hstale), rfl⟩
  obtain ⟨read, hread, -, hchange⟩ :=
    hreported (alwaysAnswer live) () (.noting "new") .present _ reply hreplaced
  cases hread
  exact ⟨htarget, hbase, hmissing, hcount, hback, hne,
    fun h => hne ((hexact target base htarget hbase).2 h), ⟨reply, hreplaced⟩, hchange⟩

end MeshOperator
