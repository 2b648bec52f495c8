import Mathlib.Data.List.Nodup

/-!
Contract: places in a journal.

Owns:
- where an item of two lists one after the other stands;
- one item before another, as a sublist and as places;
- the marks that tell places apart.

Does not own: what the items are.
-/

namespace BoundedScene

variable {α β : Type} {left right early late : List α} {item first second : α}

/-- An item of two lists one after the other stands in the first or in the second. -/
theorem place_of_append (same : left ++ right = early ++ item :: late) :
    (∃ rest, left = early ++ item :: rest ∧ late = rest ++ right)
      ∨ ∃ opening, early = left ++ opening ∧ right = opening ++ item :: late := by
  rcases List.append_eq_append_iff.mp same with ⟨opening, split, rest⟩ | ⟨opening, split, rest⟩
  · exact .inr ⟨opening, split, rest⟩
  · cases opening with
    | nil => exact .inr ⟨[], by simpa using split.symm, by simpa using rest.symm⟩
    | cons head tail =>
        obtain ⟨rfl, tails⟩ := List.cons.inj rest
        exact .inl ⟨tail, split, tails⟩

/-- A mark that no two items bear tells their places apart. -/
theorem place_unique {list : List α} {mark? : α → Option β}
    (once : (list.filterMap mark?).Nodup) {mark : β} (marked : mark? item = some mark)
    (place : list = early ++ item :: late) {early' late' : List α} {item' : α}
    (marked' : mark? item' = some mark) (place' : list = early' ++ item' :: late') :
    early = early' ∧ item = item' ∧ late = late' := by
  -- Two places apart would list the mark twice.
  have apart {first middle last : List α} {x y : α} (markedX : mark? x = some mark)
      (markedY : mark? y = some mark) : list ≠ first ++ x :: (middle ++ y :: last) := by
    rintro rfl
    have twice : ((x :: (middle ++ y :: last)).filterMap mark?).Nodup := by
      rw [List.filterMap_append] at once
      exact (List.nodup_append.mp once).2.1
    rw [List.filterMap_cons_some markedX, List.filterMap_append,
      List.filterMap_cons_some markedY] at twice
    exact (List.nodup_cons.mp twice).1 (by simp)
  rcases place_of_append (place.symm.trans place') with ⟨rest, split, -⟩ | ⟨opening, split, tail⟩
  · subst split
    exact absurd (place.trans (List.append_assoc ..)) (apart marked' marked)
  · cases opening with
    | nil =>
        obtain ⟨rfl, rfl⟩ := List.cons.inj tail
        exact ⟨by simpa using split.symm, rfl, rfl⟩
    | cons head rest =>
        obtain ⟨rfl, tails⟩ := List.cons.inj tail
        exact absurd (place.trans (congrArg (fun tail => early ++ item :: tail) tails))
          (apart marked marked')

/-- Of two items one before the other, each has its place. -/
theorem exists_split_of_sublist {list : List α} (precedes : [first, second].Sublist list) :
    ∃ early middle late, list = early ++ first :: (middle ++ second :: late) := by
  induction list with
  | nil => cases precedes
  | cons head tail inductionHypothesis =>
      cases precedes with
      | cons _ later =>
          obtain ⟨early, middle, late, rfl⟩ := inductionHypothesis later
          exact ⟨head :: early, middle, late, rfl⟩
      | cons_cons _ member =>
          obtain ⟨middle, late, rfl⟩ := List.append_of_mem (List.singleton_sublist.mp member)
          exact ⟨[], middle, late, rfl⟩

/-- Of two items one before the other, the second stands in the second of two lists, or both
stand in the first. -/
theorem sublist_or_mem_of_append
    (precedes : [first, second].Sublist (left ++ right)) :
    [first, second].Sublist left ∨ second ∈ right := by
  obtain ⟨old, new, split, oldPart, newPart⟩ := List.sublist_append_iff.mp precedes
  rcases List.eq_nil_or_concat new with rfl | ⟨init, last, rfl⟩
  · rw [List.append_nil] at split
    exact .inl (split ▸ oldPart)
  · have same : second = last := by
      have ends := congrArg List.getLast? split
      rw [List.concat_eq_append, ← List.append_assoc, List.getLast?_concat] at ends
      exact Option.some.inj ends
    exact .inr (newPart.subset (by simp [same]))

end BoundedScene
