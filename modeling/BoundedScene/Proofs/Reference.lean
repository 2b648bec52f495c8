import BoundedScene.Proofs.Cleanups
import Mathlib.Logic.Function.Basic

/-!
Contract: the sequential reference of a scene.

Owns:
- `Reference`, a map of stored values and, by topic, the callers that still wait;
- `perform`, what one command comes to, and the outcomes of a list of inputs;
- the inputs that a journal amounts to.

Main statement: `outcomes_of_silenced`.

Does not own: that a scene does what its reference does.
-/

namespace BoundedScene

/-- What a sequential reference knows.

- `props`: the value under each key, with its cleanup;
- `waiting`: by topic the callers that still wait, in order of registration;
- `taken`: the callers that a signal took;
- `gone`: the callers that wait for nothing any more. -/
structure Reference (V : Type) where
  props : String → Option (V × Option Cleanup) := fun _ => none
  waiting : String → List Nat := fun _ => []
  taken : List Nat := []
  gone : List Nat := []

/-- What a command comes to: its response, the props whose cleanup is run, and the
waiters that are taken. -/
structure Outcome (V : Type) where
  response : Response V
  ran : List (StoredProp V) := []
  woken : List Nat := []

/-- What the reference is told: a command is processed, or a caller goes. -/
inductive Input (V : Type) where
  | command (envelope : Envelope V)
  | departure (caller : Nat)

namespace Reference

variable {V : Type}

/-- What a command of a caller comes to, and the reference after it. -/
def perform (reference : Reference V) (caller : Nat) :
    Command V → Outcome V × Reference V
  | .store prop =>
      match reference.props prop.key with
      | some _ => ({ response := .error (.propAlreadyExists prop.key) }, reference)
      | none =>
          ({ response := .ok .done },
            { reference with
              props := Function.update reference.props prop.key
                (some (prop.value, prop.cleanup)) })
  | .fetch key =>
      match reference.props key with
      | some (value, _) => ({ response := .ok (.value value) }, reference)
      | none => ({ response := .error (.propNotFound key) }, reference)
  | .dispose key =>
      match reference.props key with
      | some (value, cleanup) =>
          ({ response := match cleanup.bind fun cleanup => cleanup.failure? key with
              | some failure => .error failure
              | none => .ok (.value value)
             ran := [{ key, value, cleanup }].filter StoredProp.hasCleanup },
            { reference with props := Function.update reference.props key none })
      | none => ({ response := .error (.propNotFound key) }, reference)
  | .signal topic =>
      match reference.waiting topic with
      | [] => ({ response := .error (.noSubscriber topic) }, reference)
      | woken =>
          ({ response := .ok .done, woken },
            { reference with
              waiting := Function.update reference.waiting topic []
              taken := reference.taken ++ woken })
  | .subscribe topic =>
      ({ response := .ok .done },
        if caller ∈ reference.gone then reference
        else
          { reference with
            waiting := Function.update reference.waiting topic
              (reference.waiting topic ++ [caller]) })

/-- A caller waits for nothing any more. -/
def depart (reference : Reference V) (caller : Nat) : Reference V :=
  { reference with
    waiting := fun topic => (reference.waiting topic).filter fun waiter => waiter != caller
    gone := caller :: reference.gone }

def next (reference : Reference V) : Input V → Reference V
  | .command envelope => (reference.perform envelope.caller envelope.command).2
  | .departure caller => reference.depart caller

/-- The reference after inputs, from the start. -/
def after (inputs : List (Input V)) : Reference V :=
  inputs.foldl next {}

/-- The commands among the inputs with what they come to, from a given reference. -/
def outcomesFrom (reference : Reference V) : List (Input V) → List (Envelope V × Outcome V)
  | [] => []
  | .command envelope :: rest =>
      (envelope, (reference.perform envelope.caller envelope.command).1)
        :: outcomesFrom (reference.next (.command envelope)) rest
  | .departure caller :: rest => outcomesFrom (reference.next (.departure caller)) rest

/-- The commands among the inputs with what they come to, from the start. -/
def outcomes (inputs : List (Input V)) : List (Envelope V × Outcome V) :=
  outcomesFrom {} inputs

theorem outcomesFrom_append (reference : Reference V) (first second : List (Input V)) :
    outcomesFrom reference (first ++ second)
      = outcomesFrom reference first ++ outcomesFrom (first.foldl next reference) second := by
  induction first generalizing reference with
  | nil => rfl
  | cons input rest inductionHypothesis =>
      cases input with
      | command envelope =>
          rw [List.cons_append, outcomesFrom, outcomesFrom, inductionHypothesis]
          rfl
      | departure caller =>
          rw [List.cons_append, outcomesFrom, outcomesFrom, inductionHypothesis]
          rfl

theorem outcomes_append (first second : List (Input V)) :
    outcomes (first ++ second) = outcomes first ++ outcomesFrom (after first) second :=
  outcomesFrom_append _ _ _

theorem after_append (first second : List (Input V)) :
    after (first ++ second) = second.foldl next (after first) :=
  List.foldl_append

/-- Nothing comes of departures, and nobody is taken by them. -/
theorem idle_of_departures {inputs : List (Input V)}
    (departures : ∀ input ∈ inputs, ∃ caller, input = .departure caller)
    (reference : Reference V) :
    outcomesFrom reference inputs = []
      ∧ (inputs.foldl next reference).taken = reference.taken := by
  induction inputs generalizing reference with
  | nil => exact ⟨rfl, rfl⟩
  | cons input rest inductionHypothesis =>
      obtain ⟨caller, rfl⟩ := departures input (List.mem_cons_self ..)
      exact inductionHypothesis (fun input member =>
        departures input (List.mem_cons_of_mem _ member)) (reference.depart caller)

end Reference

/-- The entry of the ledger that an outcome of the reference makes. -/
def Outcome.entry {V : Type} (dealt : Envelope V × Outcome V) : Processed V where
  caller := dealt.1.caller
  command := dealt.1.command
  response := dealt.2.response

/-! ## Silence -/

/-- The caller that an input concerns. -/
def Input.caller {V : Type} : Input V → Nat
  | .command envelope => envelope.caller
  | .departure caller => caller

namespace Reference

variable {V : Type}

/-- Two references that differ at most in whether a caller is gone that waits for
nothing. -/
structure AgreesBut (caller : Nat) (left right : Reference V) : Prop where
  props : left.props = right.props
  waiting : left.waiting = right.waiting
  taken : left.taken = right.taken
  gone : ∀ other, other ≠ caller → (other ∈ left.gone ↔ other ∈ right.gone)
  idle : ∀ topic, caller ∉ left.waiting topic

theorem AgreesBut.perform {caller sender : Nat} {left right : Reference V}
    (agrees : AgreesBut caller left right) (other : sender ≠ caller) (command : Command V) :
    (left.perform sender command).1 = (right.perform sender command).1
      ∧ AgreesBut caller (left.perform sender command).2 (right.perform sender command).2 := by
  obtain ⟨props, waiting, taken, gone, idle⟩ := agrees
  cases command with
  | store prop =>
      simp only [Reference.perform, props]
      cases right.props prop.key with
      | some content => exact ⟨rfl, props, waiting, taken, gone, idle⟩
      | none => exact ⟨rfl, rfl, waiting, taken, gone, idle⟩
  | fetch key =>
      simp only [Reference.perform, props]
      cases right.props key <;> exact ⟨rfl, props, waiting, taken, gone, idle⟩
  | dispose key =>
      simp only [Reference.perform, props]
      cases right.props key with
      | some content => exact ⟨rfl, rfl, waiting, taken, gone, idle⟩
      | none => exact ⟨rfl, props, waiting, taken, gone, idle⟩
  | signal topic =>
      simp only [Reference.perform, waiting, taken]
      cases right.waiting topic with
      | nil => exact ⟨rfl, props, waiting, taken, gone, idle⟩
      | cons first rest =>
          refine ⟨rfl, props, rfl, rfl, gone, fun name member => ?_⟩
          by_cases same : name = topic
          · subst same
            simp at member
          · dsimp only at member
            rw [Function.update_of_ne same, ← waiting] at member
            exact idle name member
  | subscribe topic =>
      simp only [Reference.perform]
      by_cases departed : sender ∈ right.gone
      · rw [if_pos departed, if_pos ((gone sender other).mpr departed)]
        exact ⟨trivial, props, waiting, taken, gone, idle⟩
      · rw [if_neg departed, if_neg fun member => departed ((gone sender other).mp member), waiting]
        refine ⟨trivial, props, rfl, taken, gone, fun name member => ?_⟩
        by_cases same : name = topic
        · subst same
          dsimp only at member
          rw [Function.update_self, List.mem_append, List.mem_singleton, ← waiting] at member
          exact member.elim (idle name) fun own => other own.symm
        · dsimp only at member
          rw [Function.update_of_ne same, ← waiting] at member
          exact idle name member

theorem AgreesBut.depart {caller sender : Nat} {left right : Reference V}
    (agrees : AgreesBut caller left right) :
    AgreesBut caller (left.depart sender) (right.depart sender) where
  props := agrees.props
  waiting := by simp only [Reference.depart, agrees.waiting]
  taken := agrees.taken
  gone other different := by
    simp only [Reference.depart, List.mem_cons, agrees.gone other different]
  idle topic member := agrees.idle topic (List.mem_of_mem_filter member)

theorem AgreesBut.leave {caller : Nat} {left right : Reference V}
    (agrees : AgreesBut caller left right) : AgreesBut caller (left.depart caller) right := by
  have untouched : (left.depart caller).waiting = left.waiting := by
    funext topic
    refine List.filter_eq_self.mpr fun waiter member => ?_
    have differs : waiter ≠ caller := fun same => agrees.idle topic (same ▸ member)
    simpa using differs
  exact {
    props := agrees.props
    waiting := untouched.trans agrees.waiting
    taken := agrees.taken
    gone := fun other different => by
      simp only [Reference.depart, List.mem_cons, different, false_or]
      exact agrees.gone other different
    idle := fun topic => by
      rw [untouched]
      exact agrees.idle topic }

theorem AgreesBut.outcomes {caller : Nat} (inputs : List (Input V)) {left right : Reference V}
    (agrees : AgreesBut caller left right)
    (silent : ∀ envelope, .command envelope ∈ inputs → envelope.caller ≠ caller) :
    outcomesFrom left inputs
        = outcomesFrom right (inputs.filter fun input => input.caller != caller)
      ∧ AgreesBut caller (inputs.foldl next left)
          ((inputs.filter fun input => input.caller != caller).foldl next right) := by
  induction inputs generalizing left right with
  | nil => exact ⟨rfl, agrees⟩
  | cons input rest inductionHypothesis =>
      have later : ∀ envelope, .command envelope ∈ rest → envelope.caller ≠ caller :=
        fun envelope member => silent envelope (List.mem_cons_of_mem _ member)
      cases input with
      | command envelope =>
          have other := silent envelope (List.mem_cons_self ..)
          obtain ⟨same, kept⟩ := agrees.perform other envelope.command
          obtain ⟨tail, agreed⟩ := inductionHypothesis kept later
          rw [List.filter_cons_of_pos (by simpa [Input.caller] using other)]
          refine ⟨?_, agreed⟩
          rw [outcomesFrom, outcomesFrom, same]
          exact congrArg _ tail
      | departure sender =>
          by_cases own : sender = caller
          · subst own
            rw [List.filter_cons_of_neg (by simp [Input.caller])]
            exact inductionHypothesis agrees.leave later
          · rw [List.filter_cons_of_pos (by simpa [Input.caller] using own)]
            exact inductionHypothesis agrees.depart later

/-- A caller that never has a command processed leaves no trace: without its
departures, every command comes to the same, and so do the stored values and the
waiters. -/
theorem outcomes_of_silenced {caller : Nat} (inputs : List (Input V))
    (silent : ∀ envelope, .command envelope ∈ inputs → envelope.caller ≠ caller) :
    outcomes inputs = outcomes (inputs.filter fun input => input.caller != caller)
      ∧ AgreesBut caller (after inputs)
          (after (inputs.filter fun input => input.caller != caller)) :=
  AgreesBut.outcomes inputs ⟨rfl, rfl, rfl, fun _ _ => Iff.rfl, fun _ => List.not_mem_nil⟩ silent

end Reference

/-! ## The inputs of a journal -/

namespace Happening

variable {V : Type}

/-- What the reference is told of a record. -/
def input? : Happening V → Option (Input V)
  | .processed entry => some (.command entry.envelope)
  | .overtaken id => some (.departure id)
  | .answered id _ => some (.departure id)
  | .cancelled id => some (.departure id)
  | _ => none

end Happening

/-- The inputs of the reference that a journal amounts to. -/
def inputsOf {V : Type} (happenings : List (Happening V)) : List (Input V) :=
  happenings.filterMap Happening.input?

end BoundedScene
