import BoundedScene.Proofs.Waiters
import BoundedScene.Scene.Serving
import Mathlib.Data.List.Flatten

/-!
Contract: what a table of waiters holds on to, whatever happens to it and to its waiters.

Owns:
- `Registry`, a table together with the waiters that nobody listens to any more, and its histories;
- `Registry.Tidy`, the bounds on a table after a registration or a signal;
- `Registry.Careful`, which waiters a table gives up.

Main statement: `Registry.waiters_do_not_leak`.

A waiter may be given up at any time and the table is not told.  It finds out at the next
registration or signal, on any topic, so the waiters that it keeps for nothing are at most those
given up since, and never the cause of a topic without a waiter.

Does not own: what becomes of the waiters that a signal takes.
-/

namespace BoundedScene

namespace Subscriptions

variable {isLive : Nat → Bool} {subscriptions : Subscriptions}

/-! ## Topics without waiters -/

/-- What is left after pruning are the topics with a waiter that somebody listens to. -/
theorem length_topics_prune :
    (subscriptions.prune isLive).topics.length
      = (subscriptions.topics.filter fun topic => topic.waiters.any isLive).length := by
  have kept : ((fun topic : Topic => !topic.waiters.isEmpty)
        ∘ fun topic : Topic => { topic with waiters := topic.waiters.filter isLive })
      = fun topic => topic.waiters.any isLive := by
    funext topic
    rw [Bool.eq_iff_iff]
    simp
  unfold prune
  rw [List.filter_map, List.length_map, kept]

theorem waiters_ne_nil_of_mem_enroll {name : String} {waiter : Nat} {topics : List Topic}
    (inhabited : ∀ topic ∈ topics, topic.waiters ≠ []) :
    ∀ topic ∈ enroll name waiter topics, topic.waiters ≠ [] := by
  induction topics with
  | nil => simp [enroll]
  | cons first rest inductionHypothesis =>
      obtain ⟨own, others⟩ := List.forall_mem_cons.mp inhabited
      unfold enroll
      split
      · exact List.forall_mem_cons.mpr ⟨by simp, others⟩
      · exact List.forall_mem_cons.mpr ⟨own, inductionHypothesis others⟩

theorem length_enroll_le (name : String) (waiter : Nat) (topics : List Topic) :
    (enroll name waiter topics).length ≤ topics.length + 1 := by
  have names := congrArg List.length (names_enroll name waiter topics)
  rw [List.length_map] at names
  rw [names]
  split <;> simp

/-! ## What a signal leaves -/

/-- A signal takes topics away from the pruned table and adds nothing. -/
theorem topics_signal_sublist (name : String) :
    (subscriptions.signal isLive name).2.topics.Sublist (subscriptions.prune isLive).topics := by
  unfold signal
  dsimp only
  split <;> exact List.filter_sublist

theorem distinct_signal (distinct : subscriptions.Distinct) (name : String) :
    (subscriptions.signal isLive name).2.Distinct :=
  (distinct_prune distinct).sublist ((topics_signal_sublist name).map _)

/-- Other topics keep the waiters that somebody listens to. -/
theorem waiters_signal_of_ne (distinct : subscriptions.Distinct) {name other : String}
    (differs : other ≠ name) :
    (subscriptions.signal isLive name).2.waiters other
      = (subscriptions.waiters other).filter isLive := by
  rw [signal_eq distinct]
  split
  · exact waiters_prune distinct other
  · exact (waiters_removed name other).trans
      ((if_neg differs).trans (waiters_prune distinct other))

/-- Whoever signals a topic without listeners leaves every waiter that somebody listens to. -/
theorem waiters_signal_of_error (distinct : subscriptions.Distinct) {name : String}
    {error : SceneError} (failed : (subscriptions.signal isLive name).1 = .error error)
    (other : String) :
    (subscriptions.signal isLive name).2.waiters other
      = (subscriptions.waiters other).filter isLive := by
  rw [signal_eq distinct] at failed ⊢
  split at failed
  · exact waiters_prune distinct other
  · cases failed

/-! ## Releasing everybody -/

/-- Let go of every waiter at the end. -/
def releaseAll (subscriptions : Subscriptions) : List Nat × Subscriptions :=
  (subscriptions.allWaiters, {})

end Subscriptions

theorem Session.releaseWaiters_eq {V : Type} (session : Session V) :
    session.releaseWaiters
      = session.subscriptions.releaseAll.1.foldl (Session.notify .released)
        { session with subscriptions := session.subscriptions.releaseAll.2 } :=
  rfl

/-! ## Histories -/

/-- A table of waiters and the waiters that nobody listens to any more. -/
structure Registry where
  table : Subscriptions := {}
  departed : List Nat := []

namespace Registry

/-- What can happen to a table, and between the calls to it. -/
inductive Occurrence where
  | subscribe (topic : String) (waiter : Nat)
  | signal (topic : String)
  | releaseAll
  /-- Whoever listened to the waiter is gone. -/
  | depart (waiter : Nat)
deriving DecidableEq, Repr

/-- Somebody still listens to the waiter. -/
def isLive (registry : Registry) (waiter : Nat) : Bool :=
  !registry.departed.contains waiter

def proceed (registry : Registry) : Occurrence → Registry
  | .subscribe topic waiter =>
      { registry with table := registry.table.subscribe registry.isLive topic waiter }
  | .signal topic => { registry with table := (registry.table.signal registry.isLive topic).2 }
  | .releaseAll => { registry with table := registry.table.releaseAll.2 }
  | .depart waiter => { registry with departed := waiter :: registry.departed }

/-- The table after a history that begins with the empty table. -/
def after (history : List Occurrence) : Registry :=
  history.foldl proceed {}

variable {registry : Registry} {name : String} {occurrence : Occurrence}

theorem distinct_proceed (distinct : registry.table.Distinct) (occurrence : Occurrence) :
    (registry.proceed occurrence).table.Distinct := by
  cases occurrence with
  | subscribe topic waiter => exact Subscriptions.distinct_subscribe distinct topic waiter
  | signal topic => exact Subscriptions.distinct_signal distinct topic
  | releaseAll => exact List.nodup_nil
  | depart waiter => exact distinct

theorem distinct_after (history : List Occurrence) : (after history).table.Distinct :=
  List.foldlRecOn (motive := fun reached : Registry => reached.table.Distinct) history proceed
    List.nodup_nil fun _ soFar occurrence _ => distinct_proceed soFar occurrence

/-! ## One call -/

/-- What a call that registers the waiters `added` may leave behind.

- `inhabited`: no topic without a waiter;
- `stored`: besides the added ones, only waiters that were stored, and somebody listened to, when
  the call ran;
- `waiters`, `topics`: so there are at most as many waiters, and as many topics, as then had a
  listener, and one for each added waiter. -/
structure Tidy (registry : Registry) (added : List Nat) (left : Subscriptions) : Prop where
  inhabited : ∀ topic ∈ left.topics, topic.waiters ≠ []
  stored : left.allWaiters.Subperm (registry.table.allWaiters.filter registry.isLive ++ added)
  waiters : left.allWaiters.length
    ≤ (registry.table.allWaiters.filter registry.isLive).length + added.length
  topics : left.topics.length
    ≤ (registry.table.topics.filter fun topic => topic.waiters.any registry.isLive).length
      + added.length

theorem tidy_subscribe (registry : Registry) (topic : String) (waiter : Nat) :
    registry.Tidy [waiter] (registry.proceed (.subscribe topic waiter)).table := by
  have stored : (registry.proceed (.subscribe topic waiter)).table.allWaiters.Perm
      (registry.table.allWaiters.filter registry.isLive ++ [waiter]) :=
    Subscriptions.allWaiters_subscribe topic waiter
  constructor
  case inhabited =>
    exact Subscriptions.waiters_ne_nil_of_mem_enroll fun _ =>
      Subscriptions.waiters_ne_nil_of_mem_prune
  case stored => exact stored.subperm
  case waiters => exact Nat.le_of_eq (stored.length_eq.trans List.length_append)
  case topics =>
    rw [← Subscriptions.length_topics_prune]
    exact Subscriptions.length_enroll_le topic waiter _

theorem tidy_signal (registry : Registry) (topic : String) :
    registry.Tidy [] (registry.proceed (.signal topic)).table := by
  have kept : (registry.proceed (.signal topic)).table.topics.Sublist
      (registry.table.prune registry.isLive).topics :=
    Subscriptions.topics_signal_sublist topic
  have stored : (registry.proceed (.signal topic)).table.allWaiters.Sublist
      (registry.table.allWaiters.filter registry.isLive) := by
    rw [← Subscriptions.allWaiters_prune]
    exact kept.flatMap _
  constructor
  case inhabited =>
    exact fun topic member => Subscriptions.waiters_ne_nil_of_mem_prune (kept.subset member)
  case stored =>
    rw [List.append_nil]
    exact stored.subperm
  case waiters => exact stored.length_le
  case topics =>
    rw [← Subscriptions.length_topics_prune]
    exact kept.length_le

/-- Nothing but a signal on its own topic and the release of all takes a waiter away from somebody
who listens, and the waiters of a topic keep their order. -/
theorem proceed_keeps (distinct : registry.table.Distinct)
    (unsignalled : occurrence ≠ .signal name) (unreleased : occurrence ≠ .releaseAll) :
    (registry.table.waiters name).filter registry.isLive
      <+: ((registry.proceed occurrence).table.waiters name).filter registry.isLive := by
  cases occurrence with
  | subscribe topic waiter =>
      have stored : (registry.proceed (.subscribe topic waiter)).table.waiters name
          = (registry.table.waiters name).filter registry.isLive
            ++ if name = topic then [waiter] else [] :=
        Subscriptions.waiters_subscribe distinct topic waiter name
      rw [stored, List.filter_append, List.filter_filter]
      simp only [Bool.and_self]
      exact List.prefix_append _ _
  | signal topic =>
      have differs : name ≠ topic := by
        rintro rfl
        exact unsignalled rfl
      have stored : (registry.proceed (.signal topic)).table.waiters name
          = (registry.table.waiters name).filter registry.isLive :=
        Subscriptions.waiters_signal_of_ne distinct differs
      rw [stored, List.filter_filter]
      simp only [Bool.and_self]
      exact List.prefix_refl _
  | releaseAll => exact absurd rfl unreleased
  | depart waiter => exact List.prefix_refl _

/-! ## Whole histories -/

/-- Whoever is gone does not come back. -/
theorem isLive_of_proceed {waiter : Nat}
    (live : (registry.proceed occurrence).isLive waiter = true) :
    registry.isLive waiter = true := by
  cases occurrence with
  | depart other =>
      simp only [isLive, proceed, List.contains_cons, Bool.not_or, Bool.and_eq_true] at live
      exact live.2
  | _ => exact live

theorem isLive_of_foldl {later : List Occurrence} {waiter : Nat}
    (live : (later.foldl proceed registry).isLive waiter = true) :
    registry.isLive waiter = true := by
  induction later generalizing registry with
  | nil => exact live
  | cons first rest inductionHypothesis => exact isLive_of_proceed (inductionHypothesis live)

/-- Waiters that somebody listens to at the end have been there all the time, in their order. -/
theorem foldl_keeps (distinct : registry.table.Distinct) {later : List Occurrence}
    (unsignalled : .signal name ∉ later) (unreleased : .releaseAll ∉ later) :
    (registry.table.waiters name).filter (later.foldl proceed registry).isLive
      <+: ((later.foldl proceed registry).table.waiters name).filter
        (later.foldl proceed registry).isLive := by
  induction later generalizing registry with
  | nil => exact List.prefix_refl _
  | cons first rest inductionHypothesis =>
      obtain ⟨other, others⟩ := List.ne_and_not_mem_of_not_mem_cons unsignalled
      obtain ⟨alsoOther, alsoOthers⟩ := List.ne_and_not_mem_of_not_mem_cons unreleased
      have onward := inductionHypothesis (distinct_proceed distinct first) others alsoOthers
      refine List.IsPrefix.trans ?_ onward
      rw [List.foldl_cons]
      generalize ended : rest.foldl proceed (registry.proceed first) = last
      -- Whoever has a listener at the end had one at the first step.
      have still (waiter : Nat) : (last.isLive waiter && registry.isLive waiter)
          = last.isLive waiter := by
        rw [Bool.and_eq_left_iff_imp]
        exact fun live => isLive_of_proceed (isLive_of_foldl (ended ▸ live))
      have kept := (proceed_keeps distinct other.symm alsoOther.symm).filter last.isLive
      simp only [List.filter_filter, still] at kept
      exact kept

/-- Which waiters a table stores and which ones it gives up.

- `subscribed`, `signalled`: a registration and a signal leave it tidy;
- `kept`: only a signal on its own topic and the release of all take a waiter away from somebody
  who listens, and the others keep their order in their topics;
- `failed`: a signal that fails takes no waiter away from anybody who listens;
- `lasting`: so whoever listens to the end, with no signal on the topic and no release, is stored
  to the end. -/
structure Careful (registry : Registry) : Prop where
  subscribed : ∀ topic waiter,
    registry.Tidy [waiter] (registry.proceed (.subscribe topic waiter)).table
  signalled : ∀ topic, registry.Tidy [] (registry.proceed (.signal topic)).table
  kept : ∀ occurrence name, occurrence ≠ .signal name → occurrence ≠ .releaseAll →
    (registry.table.waiters name).filter registry.isLive
      <+: ((registry.proceed occurrence).table.waiters name).filter registry.isLive
  failed : ∀ topic error, (registry.table.signal registry.isLive topic).1 = .error error →
    ∀ name, (registry.proceed (.signal topic)).table.waiters name
      = (registry.table.waiters name).filter registry.isLive
  lasting : ∀ (later : List Occurrence) name, .signal name ∉ later → .releaseAll ∉ later →
    (registry.table.waiters name).filter (later.foldl proceed registry).isLive
      <+: ((later.foldl proceed registry).table.waiters name).filter
        (later.foldl proceed registry).isLive

/-- The table of waiters does not leak and its topics are independent, whatever was registered,
signalled and released before and whoever went away in between. -/
theorem waiters_do_not_leak (history : List Occurrence) : (after history).Careful := by
  have distinct := distinct_after history
  constructor
  case subscribed => exact tidy_subscribe _
  case signalled => exact tidy_signal _
  case kept =>
    exact fun _ _ unsignalled unreleased => proceed_keeps distinct unsignalled unreleased
  case failed => exact fun _ _ failed => Subscriptions.waiters_signal_of_error distinct failed
  case lasting =>
    exact fun _ _ unsignalled unreleased => foldl_keeps distinct unsignalled unreleased

-- A waiter that was given up is stored until the next call, on whichever topic that is.
example :
    (after [.subscribe "a" 0, .subscribe "b" 1, .depart 0, .depart 1, .subscribe "c" 2, .depart 2,
      .signal "a"]).table.topics = [] := by
  decide

end Registry

end BoundedScene
