import BoundedScene.Scene.Mailbox
import Mathlib.Data.List.Nodup

/-!
Contract: the slots of the mailbox and the callers that look for one.

Owns:
- `Lines`, which says that the callers that look for a slot are those in line and
  those with a slot granted, and that nobody is in line while a slot is free;
- the proof that every operation of the mailbox keeps the lines in order.

Does not own: when a caller looks for a slot, and who wakes it.
-/

namespace BoundedScene.Mailbox

variable {E : Type}

/-- The callers that look for a slot are in line, or have one granted, each once. -/
structure Lines (mailbox : Mailbox E) (seeks : Nat → Prop) : Prop where
  capacity : 0 < mailbox.capacity
  distinct : (mailbox.granted ++ mailbox.waiting).Nodup
  full : mailbox.waiting ≠ [] → mailbox.free = 0
  sought : ∀ id ∈ mailbox.granted ++ mailbox.waiting, seeks id
  placed : mailbox.closed = false → ∀ id, seeks id → id ∈ mailbox.granted ++ mailbox.waiting

variable {mailbox : Mailbox E} {seeks : Nat → Prop}

theorem Lines.congr (lines : mailbox.Lines seeks) {others : Nat → Prop}
    (same : ∀ id, others id ↔ seeks id) : mailbox.Lines others where
  capacity := lines.capacity
  distinct := lines.distinct
  full := lines.full
  sought id member := (same id).mpr (lines.sought id member)
  placed unclosed id sought := lines.placed unclosed id ((same id).mp sought)

/-- A mailbox in which at most one slot is free for those in line grants it. -/
theorem lines_grant (capacity : 0 < mailbox.capacity)
    (distinct : (mailbox.granted ++ mailbox.waiting).Nodup)
    (nearlyFull : mailbox.waiting ≠ [] → mailbox.free ≤ 1)
    (sought : ∀ id ∈ mailbox.granted ++ mailbox.waiting, seeks id)
    (placed : mailbox.closed = false → ∀ id, seeks id → id ∈ mailbox.granted ++ mailbox.waiting) :
    mailbox.grant.1.Lines seeks := by
  unfold grant
  cases line : mailbox.waiting with
  | nil => exact ⟨capacity, distinct, fun some => absurd line some, sought, placed⟩
  | cons next later =>
      dsimp only
      have bound := nearlyFull (by simp [line])
      split
      case isTrue free =>
        have same : mailbox.granted ++ [next] ++ later = mailbox.granted ++ mailbox.waiting := by
          rw [line, List.append_assoc]
          rfl
        constructor
        · exact capacity
        · exact same ▸ distinct
        · intro _
          unfold Mailbox.free at bound ⊢
          dsimp only
          rw [List.length_append, List.length_singleton]
          omega
        · exact same ▸ sought
        · exact same ▸ placed
      case isFalse full =>
        exact ⟨capacity, distinct, fun _ => Nat.eq_zero_of_not_pos full, sought, placed⟩

/-- Nobody is in line for a mailbox that was closed. -/
theorem Lines.closed (lines : mailbox.Lines seeks) (others : Nat → Prop) :
    ({ mailbox.close.1 with queued := [] } : Mailbox E).Lines others where
  capacity := lines.capacity
  distinct := List.nodup_nil
  full waiting := absurd rfl waiting
  sought id member := by cases member
  placed unclosed := by cases unclosed

theorem Lines.take (lines : mailbox.Lines seeks) {envelope : E} {rest : Mailbox E × Option Nat}
    (taken : mailbox.take? = some (envelope, rest)) : rest.1.Lines seeks := by
  unfold take? at taken
  cases queue : mailbox.queued with
  | nil =>
      rw [queue] at taken
      cases taken
  | cons first later =>
      rw [queue] at taken
      cases taken
      refine lines_grant lines.capacity lines.distinct (fun waiting => ?_) lines.sought
        lines.placed
      have full := lines.full waiting
      unfold free at full ⊢
      rw [queue, List.length_cons] at full
      dsimp only
      omega

theorem Lines.leave (lines : mailbox.Lines seeks) (id : Nat) :
    (mailbox.leave id).1.Lines fun other => seeks other ∧ other ≠ id := by
  obtain ⟨distinctGranted, distinctWaiting, apart⟩ := List.nodup_append.mp lines.distinct
  have kept (other : Nat) : other ∈ mailbox.granted.erase id ++ mailbox.waiting.erase id
      ↔ other ∈ mailbox.granted ++ mailbox.waiting ∧ other ≠ id := by
    rw [List.mem_append, List.mem_append, distinctGranted.mem_erase_iff,
      distinctWaiting.mem_erase_iff]
    tauto
  refine lines_grant lines.capacity ?_ (fun waiting => ?_) (fun other member => ?_)
    fun unclosed other sought => ?_
  · exact lines.distinct.sublist ((List.erase_sublist ..).append (List.erase_sublist ..))
  · have full : mailbox.free = 0 := lines.full fun none => waiting (by simp [none])
    have shorter : mailbox.granted.length ≤ (mailbox.granted.erase id).length + 1 := by
      rw [List.length_erase]
      split <;> omega
    unfold free at full ⊢
    dsimp only
    omega
  · obtain ⟨member, other⟩ := (kept other).mp member
    exact ⟨lines.sought _ member, other⟩
  · exact (kept other).mpr ⟨lines.placed unclosed other sought.1, sought.2⟩

theorem Lines.enter (lines : mailbox.Lines seeks) {id : Nat} (admitted : mailbox.admits id = true)
    (envelope : E) :
    (mailbox.enter id envelope).Lines fun other => seeks other ∧ other ≠ id := by
  obtain ⟨distinctGranted, -, apart⟩ := List.nodup_append.mp lines.distinct
  have welcome : id ∈ mailbox.granted ∨ 0 < mailbox.free := by simpa [admits] using admitted
  have elsewhere : id ∉ mailbox.waiting := by
    intro waiting
    rcases welcome with granted | free
    · exact apart id granted id waiting rfl
    · have full := lines.full (List.ne_nil_of_mem waiting)
      omega
  have kept (other : Nat) : other ∈ mailbox.granted.erase id ++ mailbox.waiting
      ↔ other ∈ mailbox.granted ++ mailbox.waiting ∧ other ≠ id := by
    rw [List.mem_append, List.mem_append, distinctGranted.mem_erase_iff]
    constructor
    · rintro (⟨different, granted⟩ | waiting)
      · exact ⟨.inl granted, different⟩
      · exact ⟨.inr waiting, fun same => elsewhere (same ▸ waiting)⟩
    · rintro ⟨granted | waiting, different⟩
      · exact .inl ⟨different, granted⟩
      · exact .inr waiting
  constructor
  case capacity =>
    exact lines.capacity
  case distinct =>
    exact lines.distinct.sublist ((List.erase_sublist ..).append_right _)
  case full =>
    intro waiting
    have full := lines.full waiting
    have granted : id ∈ mailbox.granted := welcome.resolve_right (by omega)
    have positive := List.length_pos_of_mem granted
    unfold free at full ⊢
    simp only [Mailbox.enter, List.length_append, List.length_singleton, List.length_erase,
      if_pos granted]
    omega
  case sought =>
    intro other member
    obtain ⟨member, different⟩ := (kept other).mp member
    exact ⟨lines.sought other member, different⟩
  case placed =>
    intro unclosed other sought
    exact (kept other).mpr ⟨lines.placed unclosed other sought.1, sought.2⟩

theorem Lines.await (lines : mailbox.Lines seeks) {id : Nat} (full : mailbox.admits id = false) :
    (mailbox.await id).Lines fun other => seeks other ∨ other = id := by
  have refused : id ∉ mailbox.granted ∧ mailbox.free = 0 := by simpa [admits] using full
  unfold Mailbox.await
  split
  case isTrue waiting =>
    constructor
    · exact lines.capacity
    · exact lines.distinct
    · exact lines.full
    · exact fun other member => .inl (lines.sought other member)
    · rintro unclosed other (sought | rfl)
      · exact lines.placed unclosed other sought
      · exact List.mem_append_right _ waiting
  case isFalse absent =>
    constructor
    · exact lines.capacity
    · dsimp only
      rw [← List.append_assoc]
      refine List.nodup_append.mpr ⟨lines.distinct, List.nodup_singleton _, ?_⟩
      rintro other member last own rfl
      rw [List.mem_singleton.mp own, List.mem_append] at member
      exact member.elim refused.1 absent
    · exact fun _ => refused.2
    · intro other member
      dsimp only at member
      rw [← List.append_assoc, List.mem_append, List.mem_singleton] at member
      exact member.imp_left (lines.sought other)
    · intro unclosed other sought
      dsimp only
      rw [← List.append_assoc, List.mem_append, List.mem_singleton]
      exact sought.imp_left (lines.placed unclosed other)

end BoundedScene.Mailbox
