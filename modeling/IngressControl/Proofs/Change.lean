import IngressControl.Change

/-!
# What a change without a reload leaves as it is

`sortedSet` is a set: it holds the items of its list and nothing else, each once and in ascending order,
so two of them are equal just when they hold the same items (`sortedSet_eq_iff`). So two configurations
that can be reached from each other without a reload listen on the same ports.
-/

namespace IngressControl

variable {α : Type} [Ord α] [Std.LawfulEqOrd α]

theorem mem_insertSorted {a b : α} {items : List α} :
    b ∈ insertSorted a items ↔ b = a ∨ b ∈ items := by
  induction items with
  | nil => simp [insertSorted]
  | cons x xs ih =>
    rw [insertSorted]
    split
    · simp
    · rename_i equal
      have hax : a = x := Std.LawfulEqOrd.eq_of_compare equal
      subst hax
      simp
    · rw [List.mem_cons, ih, List.mem_cons]
      exact or_left_comm

theorem mem_sortedSet {b : α} {items : List α} : b ∈ sortedSet items ↔ b ∈ items := by
  induction items with
  | nil => simp [sortedSet]
  | cons x xs ih =>
    have unfolded : sortedSet (x :: xs) = insertSorted x (sortedSet xs) := rfl
    rw [unfolded, mem_insertSorted, ih, List.mem_cons]

section

variable [Std.TransOrd α] {a : α} {items items' : List α}

/-- The items ascend, so none stands there twice. -/
def Ascending (items : List α) : Prop := items.Pairwise fun a b => compare a b = .lt

theorem Ascending.insertSorted (h : Ascending items) : Ascending (insertSorted a items) := by
  induction items with
  | nil => exact List.pairwise_singleton _ _
  | cons x xs ih =>
    obtain ⟨first, rest⟩ := List.pairwise_cons.mp h
    rw [IngressControl.insertSorted]
    split
    · rename_i less
      refine List.pairwise_cons.mpr ⟨fun b hb => ?_, h⟩
      rcases List.mem_cons.mp hb with rfl | later
      · exact less
      · exact Std.TransCmp.lt_trans less (first b later)
    · exact h
    · rename_i greater
      refine List.pairwise_cons.mpr ⟨fun b hb => ?_, ih rest⟩
      rcases mem_insertSorted.mp hb with rfl | later
      · exact Std.OrientedCmp.gt_iff_lt.mp greater
      · exact first b later

theorem ascending_sortedSet (items : List α) : Ascending (sortedSet items) := by
  induction items with
  | nil => exact List.Pairwise.nil
  | cons x xs ih => exact ih.insertSorted

omit [Std.LawfulEqOrd α] in
theorem Ascending.nodup (h : Ascending items) : items.Nodup := by
  refine h.imp fun {a b} less same => ?_
  rw [same] at less
  exact Std.OrientedCmp.not_lt_of_lt less less

omit [Std.LawfulEqOrd α] in
/-- There is one way only to list items in ascending order. -/
theorem Ascending.eq_of_mem_iff (h : Ascending items) (h' : Ascending items')
    (same : ∀ a, a ∈ items ↔ a ∈ items') : items = items' := by
  have permuted := (List.perm_ext_iff_of_nodup h.nodup h'.nodup).mpr same
  refine permuted.eq_of_pairwise (fun a b _ _ less greater => ?_) h h'
  exact absurd greater (Std.OrientedCmp.not_lt_of_lt less)

/-- Sorted sets are equal just when they are made of the same items. -/
theorem sortedSet_eq_iff : sortedSet items = sortedSet items' ↔ ∀ a, a ∈ items ↔ a ∈ items' := by
  constructor
  · intro same a
    rw [← mem_sortedSet, same, mem_sortedSet]
  · intro same
    refine (ascending_sortedSet items).eq_of_mem_iff (ascending_sortedSet items') fun a => ?_
    rw [mem_sortedSet, mem_sortedSet, same a]

end

namespace Configuration

variable {old new : Configuration}

/-- What the check for dynamic reachability compares. -/
theorem isDynamicallyReachable_iff : isDynamicallyReachable old new = true ↔
    old.listenerPorts = new.listenerPorts ∧
      old.certificateIdentities = new.certificateIdentities ∧
      old.tcpServices = new.tcpServices ∧ old.udpServices = new.udpServices := by
  simp [isDynamicallyReachable, and_assoc]

end Configuration

namespace Removed

/-- The names are those of the items that are not kept. -/
theorem mem_names {item : String} {items kept : List String} :
    item ∈ names items kept ↔ item ∈ items ∧ item ∉ kept := by
  rw [names, mem_sortedSet, List.mem_filter]
  simp

theorem names_self (items : List String) : names items items = [] := by
  have gone : items.filter (fun item => !items.contains item) = [] := by
    rw [List.filter_eq_nil_iff]
    intro item there
    simp [there]
  rw [names, gone]
  rfl

/-- What stays drops nothing. -/
theorem between_self (c : Configuration) : between c c = {} := by
  simp only [between, names_self]

end Removed

end IngressControl
