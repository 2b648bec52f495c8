import BoundedScene.Proofs.Reference
import BoundedScene.Proofs.Waiters

/-!
Contract: one command does in a scene what it does in the reference.

Owns:
- `Simulates`, the scene's tables as the reference knows them;
- the proof that carrying out a command keeps them so and comes to the same.

Main statement: `Simulates.deals`.

Does not own: when a command is carried out, and which waiters listen.
-/

namespace BoundedScene

/-! ## The stored values -/

namespace PropTable

variable {V : Type}

/-- The value under a key, with its cleanup. -/
def content? (table : PropTable V) (key : String) : Option (V × Option Cleanup) :=
  (table.find? key).map fun prop => (prop.value, prop.cleanup)

theorem key_of_find? {table : PropTable V} {key : String} {prop : StoredProp V}
    (found : table.find? key = some prop) : prop.key = key := by
  have hit := List.find?_some found
  simpa using hit

theorem content?_append {table : PropTable V} {prop : StoredProp V}
    (missing : table.content? prop.key = none) :
    (⟨table.props ++ [prop]⟩ : PropTable V).content?
      = Function.update table.content? prop.key (some (prop.value, prop.cleanup)) := by
  funext key
  have appended : (⟨table.props ++ [prop]⟩ : PropTable V).find? key
      = (table.find? key).or ([prop].find? fun prop => prop.key == key) := List.find?_append
  unfold content? at missing ⊢
  rw [appended]
  by_cases same : key = prop.key
  · subst same
    rw [Option.map_eq_none_iff.mp missing]
    simp
  · have differs : prop.key ≠ key := fun equal => same equal.symm
    rw [Function.update_of_ne same]
    simp [differs]

theorem content?_erase (table : PropTable V) (key : String) :
    (table.erase key).content? = Function.update table.content? key none := by
  funext other
  unfold content? erase find?
  rw [List.find?_filter]
  by_cases same : other = key
  · subst same
    rw [Function.update_self, Option.map_eq_none_iff, List.find?_eq_none]
    intro prop _
    simp
  · rw [Function.update_of_ne same]
    congr 2
    funext prop
    by_cases hit : prop.key = other
    · simp [hit, same]
    · simp [hit]

end PropTable

/-! ## What commands do to the reference -/

namespace Reference

variable {V : Type}

theorem taken_perform (reference : Reference V) (caller : Nat) (command : Command V) :
    (reference.perform caller command).2.taken
      = reference.taken ++ (reference.perform caller command).1.woken := by
  cases command with
  | store prop => unfold perform; dsimp only; split <;> simp
  | fetch key => unfold perform; dsimp only; split <;> simp
  | dispose key => unfold perform; dsimp only; split <;> simp
  | signal topic => unfold perform; dsimp only; split <;> simp
  | subscribe topic => unfold perform; dsimp only; split <;> simp

theorem gone_perform (reference : Reference V) (caller : Nat) (command : Command V) :
    (reference.perform caller command).2.gone = reference.gone := by
  cases command with
  | store prop => unfold perform; dsimp only; split <;> rfl
  | fetch key => unfold perform; dsimp only; split <;> rfl
  | dispose key => unfold perform; dsimp only; split <;> rfl
  | signal topic => unfold perform; dsimp only; split <;> rfl
  | subscribe topic => unfold perform; dsimp only; split <;> rfl

/-- A caller is gone once its departure was among the inputs. -/
theorem mem_gone_foldl (inputs : List (Input V)) (reference : Reference V) (caller : Nat) :
    caller ∈ (inputs.foldl next reference).gone
      ↔ caller ∈ reference.gone ∨ .departure caller ∈ inputs := by
  induction inputs generalizing reference with
  | nil => simp
  | cons input rest inductionHypothesis =>
      rw [List.foldl_cons, inductionHypothesis]
      cases input with
      | command envelope => simp [next, gone_perform]
      | departure other =>
          simp only [next, depart, List.mem_cons, Input.departure.injEq]
          rw [or_assoc, or_left_comm]

theorem mem_gone_after (inputs : List (Input V)) (caller : Nat) :
    caller ∈ (after inputs).gone ↔ .departure caller ∈ inputs := by
  unfold after
  rw [mem_gone_foldl]
  simp

end Reference

/-! ## The simulation -/

namespace Session

variable {V : Type}

/-- The tables of a scene are those of a reference; a waiter that is gone does not count. -/
structure Simulates (session : Session V) (reference : Reference V) : Prop where
  props : session.props.content? = reference.props
  waiting : ∀ topic, (session.subscriptions.waiters topic).filter
    (fun waiter => decide (waiter ∉ reference.gone)) = reference.waiting topic

theorem Simulates.of_same {before after : Session V} {reference : Reference V}
    (simulates : before.Simulates reference) (props : after.props = before.props)
    (subscriptions : after.subscriptions = before.subscriptions) :
    after.Simulates reference where
  props := by rw [props, simulates.props]
  waiting := by
    rw [subscriptions]
    exact simulates.waiting

theorem Simulates.depart {session : Session V} {reference : Reference V}
    (simulates : session.Simulates reference) (caller : Nat) :
    session.Simulates (reference.depart caller) where
  props := simulates.props
  waiting topic := by
    simp only [Reference.depart, ← simulates.waiting topic, List.filter_filter, List.mem_cons,
      not_or, Bool.decide_and]
    congr 1
    funext waiter
    by_cases own : waiter = caller <;> simp [own]

theorem Simulates.departures {session : Session V} {inputs : List (Input V)}
    (departures : ∀ input ∈ inputs, ∃ caller, input = .departure caller)
    {reference : Reference V} (simulates : session.Simulates reference) :
    session.Simulates (inputs.foldl Reference.next reference) := by
  induction inputs generalizing reference with
  | nil => exact simulates
  | cons input rest inductionHypothesis =>
      obtain ⟨caller, rfl⟩ := departures input (List.mem_cons_self ..)
      exact inductionHypothesis (fun input member =>
        departures input (List.mem_cons_of_mem _ member)) (simulates.depart caller)

/-- A command of a caller comes to what it comes to in the reference, and leaves the
tables of the reference behind. -/
structure Deals (session : Session V) (reference : Reference V) (caller : Nat)
    (command : Command V) : Prop where
  response : (session.effect caller command).response
    = (reference.perform caller command).1.response
  ran : ((session.effect caller command).log.filterMap Happening.cleaned?).map CleanupRun.prop
    = (reference.perform caller command).1.ran
  woken : (session.effect caller command).woken = (reference.perform caller command).1.woken
  props : (session.effect caller command).props.content?
    = (reference.perform caller command).2.props
  waiting : ∀ topic, ((session.effect caller command).subscriptions.waiters topic).filter
    (fun waiter => decide (waiter ∉ reference.gone))
      = (reference.perform caller command).2.waiting topic

variable {session : Session V} {reference : Reference V}

theorem Simulates.deals_store (simulates : session.Simulates reference) (caller : Nat)
    (prop : StoredProp V) : Deals session reference caller (.store prop) := by
  have same := congrFun simulates.props prop.key
  cases found : session.props.find? prop.key with
  | some stored =>
      rw [PropTable.content?, found, Option.map_some] at same
      constructor <;>
        simp only [effect, PropTable.store, found, Reference.perform, ← same]
      · rfl
      · exact simulates.props
      · exact simulates.waiting
  | none =>
      have missing : session.props.content? prop.key = none := by
        rw [PropTable.content?, found]
        rfl
      rw [missing] at same
      constructor <;>
        simp only [effect, PropTable.store, found, Reference.perform, ← same]
      · rfl
      · rw [PropTable.content?_append missing, simulates.props]
      · exact simulates.waiting

theorem Simulates.deals_fetch (simulates : session.Simulates reference) (caller : Nat)
    (key : String) : Deals session reference caller (.fetch key) := by
  have same := congrFun simulates.props key
  cases found : session.props.find? key with
  | some stored =>
      rw [PropTable.content?, found, Option.map_some] at same
      constructor <;>
        simp only [effect, PropTable.fetch, found, Reference.perform, ← same]
      · rfl
      · rfl
      · exact simulates.props
      · exact simulates.waiting
  | none =>
      rw [PropTable.content?, found, Option.map_none] at same
      constructor <;>
        simp only [effect, PropTable.fetch, found, Reference.perform, ← same]
      · rfl
      · rfl
      · exact simulates.props
      · exact simulates.waiting

theorem Simulates.deals_dispose (simulates : session.Simulates reference) (caller : Nat)
    (key : String) : Deals session reference caller (.dispose key) := by
  have same := congrFun simulates.props key
  cases found : session.props.find? key with
  | some stored =>
      have own := PropTable.key_of_find? found
      obtain ⟨name, value, cleanup⟩ := stored
      cases own
      rw [PropTable.content?, found, Option.map_some] at same
      constructor <;>
        simp only [effect, PropTable.remove, found, Reference.perform, ← same]
      · rfl
      · exact cleaned_cleanupLog _ _
      · rw [PropTable.content?_erase, simulates.props]
      · exact simulates.waiting
  | none =>
      rw [PropTable.content?, found, Option.map_none] at same
      constructor <;>
        simp only [effect, PropTable.remove, found, Reference.perform, ← same]
      · rfl
      · exact simulates.props
      · exact simulates.waiting

/-- A signal wakes all that listen among the waiters of its topic, if there are any. -/
theorem effect_signal (distinct : session.subscriptions.Distinct) (caller : Nat) (topic : String) :
    session.effect caller (.signal topic)
      = match (session.subscriptions.waiters topic).filter session.listens with
        | [] => ⟨.error (.noSubscriber topic), session.props,
            session.subscriptions.prune session.listens, [], []⟩
        | woken => ⟨.ok .done, session.props,
            ⟨(session.subscriptions.prune session.listens).topics.filter fun other =>
              other.name != topic⟩, [], woken⟩ := by
  rw [effect, Subscriptions.signal_eq distinct]
  cases (session.subscriptions.waiters topic).filter session.listens <;> rfl

section Waiters

variable (simulates : session.Simulates reference) (distinct : session.subscriptions.Distinct)
  (live : ∀ waiter ∈ session.subscriptions.allWaiters,
    session.listens waiter = decide (waiter ∉ reference.gone))

include simulates live in
/-- Whoever listens among the waiters of a topic waits in the reference. -/
theorem Simulates.listening (topic : String) :
    (session.subscriptions.waiters topic).filter session.listens = reference.waiting topic := by
  rw [← simulates.waiting topic]
  exact List.filter_congr fun waiter member =>
    live waiter (Subscriptions.mem_allWaiters_of_mem_waiters member)

include simulates live in
theorem Simulates.listening_twice (topic : String) :
    ((session.subscriptions.waiters topic).filter session.listens).filter
      (fun waiter => decide (waiter ∉ reference.gone)) = reference.waiting topic := by
  rw [simulates.listening live, ← simulates.waiting topic, List.filter_filter]
  simp

include simulates distinct live

theorem Simulates.deals_signal (caller : Nat) (topic : String) :
    Deals session reference caller (.signal topic) := by
  have pruned (name : String) :
      ((session.subscriptions.prune session.listens).waiters name).filter
        (fun waiter => decide (waiter ∉ reference.gone)) = reference.waiting name := by
    rw [Subscriptions.waiters_prune distinct]
    exact simulates.listening_twice live name
  have raised := effect_signal distinct caller topic
  rw [simulates.listening live] at raised
  cases waiting : reference.waiting topic with
  | nil =>
      rw [waiting] at raised
      constructor <;> simp only [raised, Reference.perform, waiting]
      · rfl
      · exact simulates.props
      · exact pruned
  | cons first rest =>
      rw [waiting] at raised
      constructor <;> simp only [raised, Reference.perform, waiting]
      · rfl
      · exact simulates.props
      · intro name
        rw [Subscriptions.waiters_removed]
        by_cases same : name = topic
        · rw [if_pos same, same, Function.update_self]
          rfl
        · rw [if_neg same, Function.update_of_ne same]
          exact pruned name

theorem Simulates.deals_subscribe (caller : Nat) (topic : String) :
    Deals session reference caller (.subscribe topic) := by
  constructor
  case response =>
    rfl
  case ran =>
    rfl
  case woken =>
    rfl
  case props =>
    simp only [Reference.perform]
    split <;> exact simulates.props
  case waiting =>
    intro name
    show ((session.subscriptions.subscribe session.listens topic caller).waiters name).filter
      (fun waiter => decide (waiter ∉ reference.gone)) = _
    rw [Subscriptions.waiters_subscribe distinct, List.filter_append,
      simulates.listening_twice live]
    simp only [Reference.perform]
    by_cases departed : caller ∈ reference.gone
    · rw [if_pos departed]
      split
      · simp [departed]
      · simp
    · rw [if_neg departed]
      by_cases same : name = topic
      · subst same
        simp [departed]
      · simp [same]

/-- Whatever the command, it does in the scene what it does in the reference. -/
theorem Simulates.deals (caller : Nat) (command : Command V) :
    Deals session reference caller command := by
  cases command with
  | store prop => exact simulates.deals_store caller prop
  | fetch key => exact simulates.deals_fetch caller key
  | dispose key => exact simulates.deals_dispose caller key
  | signal topic => exact simulates.deals_signal distinct live caller topic
  | subscribe topic => exact simulates.deals_subscribe distinct live caller topic

end Waiters

/-! ## The registered waiters -/

/-- Whoever is woken is a waiter of the topic and listens. -/
theorem listed_of_mem_woken (distinct : session.subscriptions.Distinct) {caller waiter : Nat}
    {command : Command V} (woken : waiter ∈ (session.effect caller command).woken) :
    ∃ topic, waiter ∈ (session.subscriptions.waiters topic).filter session.listens := by
  cases command with
  | store prop => simp only [effect] at woken; split at woken <;> cases woken
  | fetch key => cases woken
  | dispose key => simp only [effect] at woken; split at woken <;> cases woken
  | signal topic =>
      refine ⟨topic, ?_⟩
      rw [effect_signal distinct] at woken
      cases listening : (session.subscriptions.waiters topic).filter session.listens with
      | nil =>
          rw [listening] at woken
          cases woken
      | cons first rest =>
          rw [listening] at woken
          exact woken
  | subscribe topic => cases woken

theorem listens_of_mem_woken (distinct : session.subscriptions.Distinct) {caller waiter : Nat}
    {command : Command V} (woken : waiter ∈ (session.effect caller command).woken) :
    session.listens waiter = true := by
  obtain ⟨topic, listed⟩ := listed_of_mem_woken distinct woken
  exact (List.mem_filter.mp listed).2

/-- A command registers at most its caller, and whoever is woken is not registered any
more. -/
theorem waiters_effect (distinct : session.subscriptions.Distinct) (caller : Nat)
    (command : Command V) :
    (session.effect caller command).subscriptions.Distinct
      ∧ ((session.effect caller command).woken
          ++ (session.effect caller command).subscriptions.allWaiters).Subperm
            (session.subscriptions.allWaiters ++ [caller]) := by
  have unchanged : session.subscriptions.allWaiters.Subperm
      (session.subscriptions.allWaiters ++ [caller]) :=
    (List.sublist_append_left _ _).subperm
  cases command with
  | store prop =>
      simp only [effect]
      split <;> exact ⟨distinct, unchanged⟩
  | fetch key => exact ⟨distinct, unchanged⟩
  | dispose key =>
      simp only [effect]
      split <;> exact ⟨distinct, unchanged⟩
  | signal topic =>
      have pruned : (session.subscriptions.prune session.listens).allWaiters.Subperm
          (session.subscriptions.allWaiters ++ [caller]) := by
        rw [Subscriptions.allWaiters_prune]
        exact List.filter_sublist.subperm.trans unchanged
      have distinctly : (session.subscriptions.prune session.listens).Distinct :=
        Subscriptions.distinct_prune distinct
      have removed := Subscriptions.allWaiters_removed distinctly topic
      rw [Subscriptions.waiters_prune distinct] at removed
      rw [effect_signal distinct]
      cases listening : (session.subscriptions.waiters topic).filter session.listens with
      | nil => exact ⟨distinctly, pruned⟩
      | cons first rest =>
          rw [listening] at removed
          exact ⟨Subscriptions.distinct_removed distinctly topic,
            removed.symm.subperm.trans pruned⟩
  | subscribe topic =>
      refine ⟨Subscriptions.distinct_subscribe distinct topic caller, ?_⟩
      refine (Subscriptions.allWaiters_subscribe topic caller).subperm.trans ?_
      exact (List.filter_sublist.append_right _).subperm

end Session

end BoundedScene
