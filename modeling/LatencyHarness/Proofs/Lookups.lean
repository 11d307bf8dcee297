import Mathlib.Data.List.Perm.Basic
import Mathlib.Data.List.Nodup

/-! What a name stands for in a list of names with what they stand for. Where each name is listed
once, the order of the list does not matter. -/
namespace LatencyHarness

section DistinctNames

variable {α β : Type} [BEq α] [LawfulBEq α] {xs ys : List (α × β)}

theorem lookup_eq_some_iff_mem {k : α} {v : β} (hnodup : (xs.map (·.1)).Nodup) :
    xs.lookup k = some v ↔ (k, v) ∈ xs := by
  induction xs with
  | nil => exact ⟨nofun, nofun⟩
  | cons x xs ih =>
    obtain ⟨name, value⟩ := x
    obtain ⟨hnew, hrest⟩ := List.nodup_cons.mp hnodup
    rw [List.lookup_cons, List.mem_cons]
    by_cases hk : k = name
    · subst hk
      have hlater : (k, v) ∉ xs := fun hmem => hnew (List.mem_map_of_mem (f := (·.1)) hmem)
      simp [hlater, eq_comm]
    · have hb : (k == name) = false := beq_false_of_ne hk
      simp [hb, hk, ih hrest]

/-- In whatever order the names are listed, each stands for the same. -/
theorem lookup_perm (hperm : xs.Perm ys) (hnodup : (xs.map (·.1)).Nodup) (k : α) :
    ys.lookup k = xs.lookup k := by
  have hnodup' : (ys.map (·.1)).Nodup := (hperm.map _).nodup_iff.mp hnodup
  refine Option.ext fun v => ?_
  rw [lookup_eq_some_iff_mem hnodup', lookup_eq_some_iff_mem hnodup, hperm.mem_iff]

end DistinctNames

variable {α β : Type} [DecidableEq α]

/-- A list of one name at most. -/
theorem lookup_toList (k name : α) (x : Option β) :
    ((x.map fun v => (name, v)).toList).lookup k = if k = name then x else none := by
  cases x with
  | none => simp
  | some v =>
    by_cases hk : k = name
    · simp [hk]
    · simp [hk, List.lookup_cons, beq_false_of_ne hk]

/-- A list of names that stand for something, some of which may be listed again. -/
theorem lookup_filterMap (f : α → Option β) (names : List α) (k : α) :
    (names.filterMap fun name => (f name).map fun v => (name, v)).lookup k =
      if k ∈ names then f k else none := by
  rw [List.filterMap_eq_flatMap_toList]
  induction names with
  | nil => rfl
  | cons name names ih =>
    rw [List.flatMap_cons, List.lookup_append, lookup_toList, ih]
    by_cases hk : k = name
    · subst hk
      rw [if_pos rfl, if_pos List.mem_cons_self]
      -- where the name is listed again, it stands for the same
      split
      · exact Option.or_self
      · exact Option.or_none
    · rw [if_neg hk, Option.none_or]
      exact if_congr (by rw [List.mem_cons, or_iff_right hk]) rfl rfl

end LatencyHarness
