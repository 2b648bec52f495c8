import BoundedScene.Agenda
import Mathlib.Data.List.Basic

/-!
Contract: how the run queue grows.

Owns:
- who is ready after tasks were woken, and who is seen to be ready when some tasks are hidden;
- `Agenda.Grows`, what a turn can do to the run queue and the clock;
- the owners of due alarms;
- `Turns.Keeps`, what survives every turn and every move of the clock survives the run of a
  world until it rests, and the passage of time.

Does not own: who wakes whom, and what a turn is good for.
-/

namespace BoundedScene

namespace Agenda

variable {Task : Type} [DecidableEq Task]

theorem mem_wake {agenda : Agenda Task} {task other : Task} :
    task ∈ (agenda.wake other).ready ↔ task = other ∨ task ∈ agenda.ready := by
  unfold wake
  split
  case isTrue present =>
    constructor
    · exact .inr
    · rintro (rfl | member)
      · exact present
      · exact member
  case isFalse => simp [or_comm]

theorem mem_wakeAll {agenda : Agenda Task} {task : Task} {tasks : List Task} :
    task ∈ (agenda.wakeAll tasks).ready ↔ task ∈ tasks ∨ task ∈ agenda.ready := by
  unfold wakeAll
  induction tasks generalizing agenda with
  | nil => simp
  | cons first rest inductionHypothesis =>
      rw [List.foldl_cons, inductionHypothesis, mem_wake, List.mem_cons, or_assoc,
        or_left_comm]

/-- Tasks are woken behind those that were ready, and the clock moves on by a given
length of time of which nothing is noticed. -/
structure Grows (length : Nat) (before after : Agenda Task) : Prop where
  queue : before.ready <+: after.ready
  now : after.clock.now = before.clock.now + length
  noticed : after.clock.noticed = before.clock.noticed

omit [DecidableEq Task] in
theorem Grows.refl (agenda : Agenda Task) : Grows 0 agenda agenda :=
  ⟨List.prefix_rfl, rfl, rfl⟩

omit [DecidableEq Task] in
theorem Grows.trans {first second : Nat} {before middle after : Agenda Task}
    (early : Grows first before middle) (late : Grows second middle after) :
    Grows (first + second) before after where
  queue := early.queue.trans late.queue
  now := by rw [late.now, early.now, Nat.add_assoc]
  noticed := late.noticed.trans early.noticed

theorem grows_wake (agenda : Agenda Task) (task : Task) : Grows 0 agenda (agenda.wake task) := by
  unfold wake
  split
  · exact .refl agenda
  · exact ⟨List.prefix_append _ _, rfl, rfl⟩

theorem grows_wakeAll (agenda : Agenda Task) (tasks : List Task) :
    Grows 0 agenda (agenda.wakeAll tasks) := by
  unfold wakeAll
  induction tasks generalizing agenda with
  | nil => exact .refl agenda
  | cons first rest inductionHypothesis =>
      exact (agenda.grows_wake first).trans (inductionHypothesis (agenda.wake first))

theorem length_wakeAll (agenda : Agenda Task) (tasks : List Task) :
    (agenda.wakeAll tasks).ready.length ≤ agenda.ready.length + tasks.length := by
  unfold wakeAll
  induction tasks generalizing agenda with
  | nil => simp
  | cons first rest inductionHypothesis =>
      have one : (agenda.wake first).ready.length ≤ agenda.ready.length + 1 := by
        unfold wake
        split <;> simp
      have others := inductionHypothesis (agenda.wake first)
      simp only [List.foldl_cons, List.length_cons]
      omega

/-- A task is woken once only. -/
theorem nodup_wakeAll {agenda : Agenda Task} (distinct : agenda.ready.Nodup) (tasks : List Task) :
    (agenda.wakeAll tasks).ready.Nodup := by
  unfold wakeAll
  induction tasks generalizing agenda with
  | nil => exact distinct
  | cons first rest inductionHypothesis =>
      apply inductionHypothesis
      unfold wake
      split
      case isTrue => exact distinct
      case isFalse absent =>
        refine List.nodup_append.mpr ⟨distinct, List.pairwise_singleton _ _, ?_⟩
        intro task member last own same
        exact absent (List.mem_singleton.mp own ▸ same ▸ member)

/-- Who is woken and was not ready stands behind those that were, each once. -/
theorem wakeAll_behind {agenda : Agenda Task} (distinct : agenda.ready.Nodup)
    (tasks : List Task) :
    ∃ woken, (agenda.wakeAll tasks).ready = agenda.ready ++ woken
      ∧ (agenda.ready ++ woken).Nodup ∧ ∀ task ∈ woken, task ∈ tasks := by
  obtain ⟨woken, whole⟩ := (agenda.grows_wakeAll tasks).queue
  have all := whole ▸ nodup_wakeAll distinct tasks
  refine ⟨woken, whole.symm, all, fun task member => ?_⟩
  have present : task ∈ (agenda.wakeAll tasks).ready := whole ▸ List.mem_append_right _ member
  refine (mem_wakeAll.mp present).resolve_right fun waited => ?_
  exact (List.nodup_append.mp all).2.2 task waited task member rfl

/-- Some tasks of a run queue, under names of their own. -/
def seen {Seen : Type} (agenda : Agenda Task) (name? : Task → Option Seen) : Agenda Seen :=
  { ready := agenda.ready.filterMap name?, clock := agenda.clock }

/-- The tasks that are seen are woken as if there were no others. -/
theorem seen_wakeAll {Seen : Type} [DecidableEq Seen] (name? : Task → Option Seen)
    (apart : ∀ {task other : Task} {name : Seen},
      name? task = some name → name? other = some name → task = other)
    (agenda : Agenda Task) (tasks : List Task) :
    (agenda.wakeAll tasks).seen name? = (agenda.seen name?).wakeAll (tasks.filterMap name?) := by
  have one (agenda : Agenda Task) (task : Task) : (agenda.wake task).seen name?
      = (agenda.seen name?).wakeAll (name? task).toList := by
    cases named : name? task with
    | none =>
        unfold wake
        split
        · rfl
        · simp [seen, wakeAll, named, List.filterMap_append]
    | some name =>
        have known : name ∈ (agenda.seen name?).ready ↔ task ∈ agenda.ready := by
          simp only [seen, List.mem_filterMap]
          constructor
          · rintro ⟨other, member, same⟩
            exact apart same named ▸ member
          · exact fun member => ⟨task, member, named⟩
        show _ = (agenda.seen name?).wake name
        unfold wake
        by_cases member : task ∈ agenda.ready
        · rw [if_pos member, if_pos (known.mpr member)]
        · rw [if_neg member, if_neg fun present => member (known.mp present)]
          simp [seen, named, List.filterMap_append]
  unfold wakeAll
  induction tasks generalizing agenda with
  | nil => rfl
  | cons first rest inductionHypothesis =>
      rw [List.foldl_cons, inductionHypothesis, one, List.filterMap_cons]
      cases name? first <;> rfl

/-- Waking does not look at the clock. -/
theorem ready_wakeAll_congr {first second : Agenda Task} (same : first.ready = second.ready)
    (tasks : List Task) : (first.wakeAll tasks).ready = (second.wakeAll tasks).ready := by
  unfold wakeAll
  induction tasks generalizing first second with
  | nil => exact same
  | cons task rest inductionHypothesis =>
      apply inductionHypothesis
      unfold wake
      rw [same]
      split
      · exact same
      · rfl

@[simp] theorem clock_wakeAll (agenda : Agenda Task) (tasks : List Task) :
    (agenda.wakeAll tasks).clock = agenda.clock := by
  unfold wakeAll
  induction tasks generalizing agenda with
  | nil => rfl
  | cons first rest inductionHypothesis =>
      rw [List.foldl_cons, inductionHypothesis]
      unfold wake
      split <;> rfl

end Agenda

/-! ## Runs of turns -/

namespace Turns

variable {World Task : Type} [DecidableEq Task] [Turns World Task]

omit [DecidableEq Task] in
theorem mem_dueOwners {world : World} {alarm : Alarm Task} (armed : alarm ∈ alarms world)
    (due : (clock world).isDue alarm.due = true) : alarm.owner ∈ dueOwners world := by
  unfold dueOwners
  exact List.mem_map_of_mem
    (List.mem_mergeSort.mpr (List.mem_filter.mpr ⟨armed, due⟩))

/-- What every turn of a ready task and every move of the clock keeps. -/
structure Keeps (holds : World → Prop) : Prop where
  resume : ∀ {world : World} {task : Task} {later : List Task}, holds world →
    (agenda world).ready = task :: later →
    holds (Turns.resume task (withAgenda world { agenda world with ready := later }))
  reach : ∀ {world : World} (instant : Nat), holds world → holds (Turns.reach instant world)

namespace Keeps

variable {holds : World → Prop} {world next : World}

theorem turn? (keeps : Keeps holds) (held : holds world) (turn : Turns.turn? world = some next) :
    holds next := by
  unfold Turns.turn? at turn
  split at turn
  case h_1 task later ready =>
    cases turn
    exact keeps.resume held ready
  case h_2 =>
    split at turn
    · cases turn
      exact keeps.reach _ held
    · cases turn

theorem run (keeps : Keeps holds) (turns : Nat) (held : holds world) :
    holds (Turns.run turns world) := by
  induction turns generalizing world with
  | zero => exact held
  | succ turns inductionHypothesis =>
      unfold Turns.run
      split
      · exact held
      case h_2 next turn => exact inductionHypothesis (keeps.turn? held turn)

theorem settle (keeps : Keeps holds) (held : holds world) : holds (Turns.settle world) :=
  keeps.run _ held

theorem followAlarms (keeps : Keeps holds) (target jumps : Nat) (held : holds world) :
    holds (Turns.followAlarms target jumps world) := by
  induction jumps generalizing world with
  | zero => exact held
  | succ jumps inductionHypothesis =>
      unfold Turns.followAlarms
      split
      · exact held
      case h_2 due _ => exact inductionHypothesis (keeps.settle (keeps.reach _ held))

theorem elapse (keeps : Keeps holds) (length : Span) (held : holds world) :
    holds (Turns.elapse length world) :=
  keeps.settle (keeps.reach _ (keeps.followAlarms _ _ (keeps.settle held)))

end Keeps

end Turns

end BoundedScene
