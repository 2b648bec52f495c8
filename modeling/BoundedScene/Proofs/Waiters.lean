import BoundedScene.Scene.Subscriptions
import Mathlib.Data.List.Nodup
import Mathlib.Data.List.Perm.Basic

/-!
Contract: the waiters of each topic after a registration or a signal.

Owns:
- the live waiters of a topic after pruning, registration and signal;
- the proof that no topic is listed twice and no waiter is duplicated or invented.

Does not own: which waiters are live.
-/

namespace BoundedScene.Subscriptions

/-- The registered topics have different names. -/
def Distinct (subscriptions : Subscriptions) : Prop :=
  (subscriptions.topics.map Topic.name).Nodup

variable {isLive : Nat → Bool} {subscriptions : Subscriptions}

theorem mem_allWaiters_of_mem_waiters {name : String} {waiter : Nat}
    (member : waiter ∈ subscriptions.waiters name) : waiter ∈ subscriptions.allWaiters := by
  unfold waiters at member
  split at member
  case h_1 topic found =>
    exact List.mem_flatMap.mpr ⟨topic, List.mem_of_find?_eq_some found, member⟩
  case h_2 => cases member

/-! ## Pruning -/

theorem distinct_prune (distinct : subscriptions.Distinct) :
    (subscriptions.prune isLive).Distinct := by
  have names : ((subscriptions.topics.map fun topic =>
      { topic with waiters := topic.waiters.filter isLive }).map Topic.name).Nodup := by
    rw [List.map_map]
    exact distinct
  exact names.sublist (List.filter_sublist.map _)

theorem allWaiters_prune :
    (subscriptions.prune isLive).allWaiters = subscriptions.allWaiters.filter isLive := by
  unfold prune allWaiters
  induction subscriptions.topics with
  | nil => rfl
  | cons topic rest inductionHypothesis =>
      rw [List.map_cons, List.flatMap_cons, List.filter_append, ← inductionHypothesis]
      cases live : topic.waiters.filter isLive with
      | nil => rw [List.filter_cons_of_neg (by simp), List.nil_append]
      | cons first others => rw [List.filter_cons_of_pos (by simp), List.flatMap_cons]

theorem waiters_of_cons {topic : Topic} {rest : List Topic} {name : String} :
    (⟨topic :: rest⟩ : Subscriptions).waiters name
      = if topic.name = name then topic.waiters else (⟨rest⟩ : Subscriptions).waiters name := by
  unfold waiters
  by_cases same : topic.name = name <;> simp [same]

theorem waiters_of_unnamed {topics : List Topic} {name : String}
    (unnamed : name ∉ topics.map Topic.name) : (⟨topics⟩ : Subscriptions).waiters name = [] := by
  unfold waiters
  rw [List.find?_eq_none.mpr]
  intro topic member same
  exact unnamed (List.mem_map.mpr ⟨topic, member, by simpa using same⟩)

/-- Pruning keeps the live waiters of every topic. -/
theorem waiters_prune (distinct : subscriptions.Distinct) (name : String) :
    (subscriptions.prune isLive).waiters name = (subscriptions.waiters name).filter isLive := by
  obtain ⟨topics⟩ := subscriptions
  unfold Distinct at distinct
  unfold prune
  dsimp only at distinct ⊢
  induction topics with
  | nil => rfl
  | cons topic rest inductionHypothesis =>
      obtain ⟨unseen, later⟩ := List.nodup_cons.mp distinct
      have tail := inductionHypothesis later
      rw [List.map_cons, waiters_of_cons]
      cases live : topic.waiters.filter isLive with
      | nil =>
          rw [List.filter_cons_of_neg (by simp), tail]
          split
          case isTrue same =>
            subst same
            rw [waiters_of_unnamed unseen, live]
            rfl
          case isFalse => rfl
      | cons first others =>
          rw [List.filter_cons_of_pos (by simp), waiters_of_cons, tail]
          split
          · exact live.symm
          · rfl

theorem waiters_ne_nil_of_mem_prune {topic : Topic}
    (member : topic ∈ (subscriptions.prune isLive).topics) : topic.waiters ≠ [] := by
  have kept := (List.mem_filter.mp member).2
  simpa using kept

/-- A second look at the waiters that pruning left removes nobody. -/
theorem filter_waiters_prune (name : String) :
    ((subscriptions.prune isLive).waiters name).filter isLive
      = (subscriptions.prune isLive).waiters name := by
  apply List.filter_eq_self.mpr
  intro waiter member
  have listed := mem_allWaiters_of_mem_waiters member
  rw [allWaiters_prune] at listed
  exact (List.mem_filter.mp listed).2

/-- A topic that pruning left without waiters is not listed. -/
theorem unnamed_of_waiters_prune {name : String}
    (deserted : (subscriptions.prune isLive).waiters name = []) :
    ∀ topic ∈ (subscriptions.prune isLive).topics, topic.name ≠ name := by
  unfold waiters at deserted
  split at deserted
  case h_1 topic found =>
    exact absurd deserted (waiters_ne_nil_of_mem_prune (List.mem_of_find?_eq_some found))
  case h_2 missing =>
    intro topic member same
    exact List.find?_eq_none.mp missing topic member (by simpa using same)

/-! ## Registration -/

theorem names_enroll (name : String) (waiter : Nat) (topics : List Topic) :
    (enroll name waiter topics).map Topic.name
      = if name ∈ topics.map Topic.name then topics.map Topic.name
        else topics.map Topic.name ++ [name] := by
  induction topics with
  | nil => rfl
  | cons topic rest inductionHypothesis =>
      unfold enroll
      by_cases same : topic.name = name
      · simp [same]
      · rw [if_neg same, List.map_cons, inductionHypothesis]
        have other : name ≠ topic.name := fun equal => same equal.symm
        by_cases seen : name ∈ rest.map Topic.name
        · have known : name ∈ (topic :: rest).map Topic.name := List.mem_cons_of_mem _ seen
          rw [if_pos seen, if_pos known, List.map_cons]
        · have unseen : name ∉ (topic :: rest).map Topic.name := by
            rw [List.map_cons, List.mem_cons]
            exact not_or.mpr ⟨other, seen⟩
          rw [if_neg seen, if_neg unseen, List.map_cons, List.cons_append]

theorem distinct_subscribe (distinct : subscriptions.Distinct) (name : String) (waiter : Nat) :
    (subscriptions.subscribe isLive name waiter).Distinct := by
  unfold Distinct subscribe
  rw [names_enroll]
  split
  · exact distinct_prune distinct
  case isFalse unseen =>
    refine List.nodup_append.mpr ⟨distinct_prune distinct, List.nodup_singleton _, ?_⟩
    rintro seen member last only rfl
    exact unseen (List.mem_singleton.mp only ▸ member)

theorem waiters_enroll (name : String) (waiter : Nat) (topics : List Topic) (other : String) :
    (⟨enroll name waiter topics⟩ : Subscriptions).waiters other
      = (⟨topics⟩ : Subscriptions).waiters other ++ if other = name then [waiter] else [] := by
  induction topics with
  | nil =>
      unfold enroll
      rw [waiters_of_cons]
      by_cases same : other = name
      · simp [same, waiters]
      · have differs : name ≠ other := fun equal => same equal.symm
        simp [same, differs, waiters]
  | cons topic rest inductionHypothesis =>
      unfold enroll
      split
      case isTrue same =>
        rw [waiters_of_cons, waiters_of_cons]
        by_cases hit : topic.name = other
        · have own : other = name := hit.symm.trans same
          simp [hit, own]
        · have differs : other ≠ name := fun equal => hit (same.trans equal.symm)
          simp [hit, differs]
      case isFalse different =>
        rw [waiters_of_cons, waiters_of_cons, inductionHypothesis]
        by_cases hit : topic.name = other
        · have differs : other ≠ name := fun equal => different (hit.trans equal)
          simp [hit, differs]
        · simp [hit]

/-- A registration keeps the live waiters and adds the new one at the end. -/
theorem waiters_subscribe (distinct : subscriptions.Distinct) (name : String) (waiter : Nat)
    (other : String) :
    (subscriptions.subscribe isLive name waiter).waiters other
      = (subscriptions.waiters other).filter isLive ++ if other = name then [waiter] else [] := by
  unfold subscribe
  rw [waiters_enroll, ← waiters_prune distinct]

theorem allWaiters_enroll (name : String) (waiter : Nat) (topics : List Topic) :
    ((enroll name waiter topics).flatMap Topic.waiters).Perm
      (topics.flatMap Topic.waiters ++ [waiter]) := by
  induction topics with
  | nil => exact List.Perm.refl _
  | cons topic rest inductionHypothesis =>
      unfold enroll
      split
      · simp only [List.flatMap_cons, List.append_assoc]
        exact List.perm_append_comm.append_left _
      · simp only [List.flatMap_cons, List.append_assoc]
        exact inductionHypothesis.append_left _

theorem allWaiters_subscribe (name : String) (waiter : Nat) :
    (subscriptions.subscribe isLive name waiter).allWaiters.Perm
      (subscriptions.allWaiters.filter isLive ++ [waiter]) := by
  rw [← allWaiters_prune]
  exact allWaiters_enroll name waiter _

/-! ## Signals -/

/-- A signal takes what pruning left of its topic. -/
theorem signal_pruned (name : String) :
    subscriptions.signal isLive name
      = match (subscriptions.prune isLive).waiters name with
        | [] => (.error (.noSubscriber name), subscriptions.prune isLive)
        | woken => (.ok woken,
            ⟨(subscriptions.prune isLive).topics.filter fun topic => topic.name != name⟩) := by
  unfold signal
  dsimp only
  rw [filter_waiters_prune]
  cases deserted : (subscriptions.prune isLive).waiters name with
  | nil =>
      have others : (subscriptions.prune isLive).topics.filter (fun topic => topic.name != name)
          = (subscriptions.prune isLive).topics := by
        apply List.filter_eq_self.mpr
        intro topic member
        simpa using unnamed_of_waiters_prune deserted topic member
      rw [others]
  | cons first rest => rfl

/-- A signal takes the live waiters of its topic, or fails when there are none; in both
cases the others stay. -/
theorem signal_eq (distinct : subscriptions.Distinct) (name : String) :
    subscriptions.signal isLive name
      = match (subscriptions.waiters name).filter isLive with
        | [] => (.error (.noSubscriber name), subscriptions.prune isLive)
        | woken => (.ok woken,
            ⟨(subscriptions.prune isLive).topics.filter fun topic => topic.name != name⟩) := by
  rw [signal_pruned, waiters_prune distinct]

theorem distinct_removed (distinct : subscriptions.Distinct) (name : String) :
    (⟨subscriptions.topics.filter fun topic => topic.name != name⟩ : Subscriptions).Distinct :=
  List.Nodup.sublist (List.filter_sublist.map _) distinct

theorem waiters_removed (name other : String) :
    (⟨subscriptions.topics.filter fun topic => topic.name != name⟩ : Subscriptions).waiters other
      = if other = name then [] else subscriptions.waiters other := by
  obtain ⟨topics⟩ := subscriptions
  induction topics with
  | nil => simp [waiters]
  | cons topic rest inductionHypothesis =>
      rw [waiters_of_cons]
      dsimp only at inductionHypothesis ⊢
      by_cases same : topic.name = name
      · rw [List.filter_cons_of_neg (by simp [same]), inductionHypothesis]
        by_cases own : other = name
        · simp [own]
        · have differs : topic.name ≠ other := fun equal => own (equal.symm.trans same)
          simp [own, differs]
      · rw [List.filter_cons_of_pos (by simp [same]), waiters_of_cons, inductionHypothesis]
        by_cases own : other = name
        · have differs : topic.name ≠ other := fun equal => same (equal.trans own)
          simp [own, same]
        · simp [own]

theorem allWaiters_removed (distinct : subscriptions.Distinct) (name : String) :
    subscriptions.allWaiters.Perm (subscriptions.waiters name
      ++ (⟨subscriptions.topics.filter fun topic => topic.name != name⟩ :
        Subscriptions).allWaiters) := by
  obtain ⟨topics⟩ := subscriptions
  unfold Distinct at distinct
  unfold allWaiters
  dsimp only at distinct ⊢
  induction topics with
  | nil => exact List.Perm.refl _
  | cons topic rest inductionHypothesis =>
      obtain ⟨unseen, later⟩ := List.nodup_cons.mp distinct
      rw [waiters_of_cons, List.flatMap_cons]
      by_cases same : topic.name = name
      · subst same
        have whole : rest.filter (fun other => other.name != topic.name) = rest := by
          refine List.filter_eq_self.mpr fun other member => ?_
          have differs : other.name ≠ topic.name := fun equal =>
            unseen (equal ▸ List.mem_map_of_mem member)
          simpa using differs
        rw [if_pos rfl, List.filter_cons_of_neg (by simp), whole]
      · rw [if_neg same, List.filter_cons_of_pos (by simp [same]), List.flatMap_cons]
        refine ((inductionHypothesis later).append_left _).trans ?_
        rw [← List.append_assoc, ← List.append_assoc]
        exact List.perm_append_comm.append_right _

end BoundedScene.Subscriptions
