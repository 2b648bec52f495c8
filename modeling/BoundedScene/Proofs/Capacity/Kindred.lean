import BoundedScene.Proofs.Capacity.Docility
import BoundedScene.Proofs.Feeding

/-!
Contract: what two scenes have in common whatever their callers are about.

Owns:
- `backendRecords`, the records of what the backend did;
- `Kindred`, scenes that agree in everything but their calls, mailboxes and ready tasks;
- that they stay kindred when both backends do the same.

Does not own: what the callers of kindred scenes have in common.
-/

namespace BoundedScene

/-- What the backend does, as opposed to its callers. -/
def Happening.isBackends {V : Type} : Happening V → Bool
  | .opened => true
  | .processed _ => true
  | .cleaned _ => true
  | .concluded _ => true
  | .ended _ => true
  | _ => false

namespace Session

variable {V : Type}

/-- The records of what the backend did. -/
def backendRecords (session : Session V) : List (Record V) :=
  session.journal.filter fun record => record.happening.isBackends

/-- Apart from their calls, their mailboxes and the tasks that are ready, two scenes are in
the same state, and their backends have done the same things at the same instants. -/
structure Kindred (left right : Session V) : Prop where
  inactivity : left.inactivity = right.inactivity
  absolute : left.absolute = right.absolute
  visiting : left.visiting = right.visiting
  control : left.control = right.control
  phase : left.phase = right.phase
  props : left.props = right.props
  subscriptions : left.subscriptions = right.subscriptions
  backend : left.backend = right.backend
  handles : left.handles = right.handles
  delivery : left.delivery = right.delivery
  clock : left.clock = right.clock
  closed : left.mailbox.closed = right.mailbox.closed
  records : left.backendRecords = right.backendRecords

namespace Kindred

variable {left middle right : Session V}

theorem refl (session : Session V) : Kindred session session :=
  ⟨rfl, rfl, rfl, rfl, rfl, rfl, rfl, rfl, rfl, rfl, rfl, rfl, rfl⟩

theorem symm (kindred : Kindred left right) : Kindred right left where
  inactivity := kindred.inactivity.symm
  absolute := kindred.absolute.symm
  visiting := kindred.visiting.symm
  control := kindred.control.symm
  phase := kindred.phase.symm
  props := kindred.props.symm
  subscriptions := kindred.subscriptions.symm
  backend := kindred.backend.symm
  handles := kindred.handles.symm
  delivery := kindred.delivery.symm
  clock := kindred.clock.symm
  closed := kindred.closed.symm
  records := kindred.records.symm

theorem trans (first : Kindred left middle) (second : Kindred middle right) :
    Kindred left right where
  inactivity := first.inactivity.trans second.inactivity
  absolute := first.absolute.trans second.absolute
  visiting := first.visiting.trans second.visiting
  control := first.control.trans second.control
  phase := first.phase.trans second.phase
  props := first.props.trans second.props
  subscriptions := first.subscriptions.trans second.subscriptions
  backend := first.backend.trans second.backend
  handles := first.handles.trans second.handles
  delivery := first.delivery.trans second.delivery
  clock := first.clock.trans second.clock
  closed := first.closed.trans second.closed
  records := first.records.trans second.records

theorem record (kindred : Kindred left right) (happening : Happening V) :
    Kindred (left.record happening) (right.record happening) :=
  { kindred with
    records := by
      have records := kindred.records
      unfold backendRecords at records ⊢
      unfold Session.record
      rw [List.filter_append, List.filter_append, records, kindred.clock] }

/-- Whoever is woken. -/
theorem wakeAll (kindred : Kindred left right) (tasks others : List SceneTask) :
    Kindred (left.wakeAll tasks) (right.wakeAll others) :=
  { kindred with
    clock := by
      show (left.agenda.wakeAll tasks).clock = (right.agenda.wakeAll others).clock
      rw [Agenda.clock_wakeAll, Agenda.clock_wakeAll]
      exact kindred.clock }

theorem updateDelivery (kindred : Kindred left right) (change : Delivery → Delivery) :
    Kindred (left.updateDelivery change) (right.updateDelivery change) :=
  { kindred.wakeAll _ _ with
    delivery := congrArg (fun delivery : Delivery => { change delivery with woken := [] })
      kindred.delivery }

theorem openUp (kindred : Kindred left right) : Kindred left.openUp right.openUp := by
  have noted := kindred.record .opened
  have armed : Kindred (left.record .opened).arm (right.record .opened).arm :=
    { noted with
      backend := by
        unfold arm
        dsimp only
        rw [noted.absolute, noted.inactivity, noted.clock] }
  have event : (left.record .opened).arm.startedEvent
      = (right.record .opened).arm.startedEvent := by
    unfold startedEvent
    rw [armed.absolute, armed.inactivity]
  unfold Session.openUp
  dsimp only
  rw [event]
  exact armed.updateDelivery _

end Kindred

/-! ## Serving a command -/

section Serving

variable {session left right : Session V}

/-- Publishing puts an event on the bus, and nothing else happens to the delivery. -/
theorem delivery_publish (session : Session V) (event : Event) :
    (session.publish event).delivery = { session.delivery.publish event with woken := [] } :=
  rfl

theorem delivery_runCleanup {prop : StoredProp V} (docile : prop.isDocile = true)
    (session : Session V) : (session.runCleanup prop).2.delivery = session.delivery := by
  unfold StoredProp.isDocile at docile
  unfold runCleanup
  cases bound : prop.cleanup with
  | none => rfl
  | some cleanup =>
      rw [bound, Option.all_some] at docile
      unfold Cleanup.isDocile at docile
      show ((session.performAct cleanup.act).record _).delivery = _
      cases act : cleanup.act with
      | abort cause =>
          rw [act] at docile
          cases docile
      | _ => rfl

theorem isDocile_of_remove {key : String} {prop : StoredProp V} {props : PropTable V}
    (docile : ∀ prop ∈ session.props.props, prop.isDocile = true)
    (removed : session.props.remove key = .ok (prop, props)) : prop.isDocile = true := by
  unfold PropTable.remove at removed
  split at removed
  case h_1 found =>
    cases removed
    exact docile _ (List.mem_of_find?_eq_some found)
  case h_2 => cases removed

/-- Of a command that no abort comes from, the delivery sees the one event that tells of it. -/
theorem delivery_execute (docile : ∀ prop ∈ session.props.props, prop.isDocile = true)
    (caller : Nat) (command : Command V) :
    ((session.execute caller command).2.publishFailure
        (session.execute caller command).1).delivery
      = { session.delivery.publish (announcement command
            (session.effect caller command).response (session.effect caller command).woken) with
          woken := [] } := by
  cases command with
  | store prop =>
      cases stored : session.props.store prop <;> simp only [execute, effect, stored] <;> rfl
  | fetch key =>
      cases fetched : session.props.fetch key <;> simp only [execute, effect, fetched] <;> rfl
  | dispose key =>
      cases removed : session.props.remove key with
      | error error =>
          simp only [execute, effect, Session.dispose, removed]
          rfl
      | ok pair =>
          obtain ⟨prop, props⟩ := pair
          have still := delivery_runCleanup (isDocile_of_remove docile removed)
            { session with props }
          have failure := runCleanup_failure { session with props } prop
          simp only [execute, effect, Session.dispose, removed]
          generalize ({ session with props } : Session V).runCleanup prop = result at *
          obtain ⟨found, cleaned⟩ := result
          dsimp only at failure still
          rw [← failure]
          cases found <;> simp only [publishFailure, delivery_publish, still, announcement]
  | signal topic =>
      cases raised : session.subscriptions.signal session.listens topic with
      | mk result subscriptions =>
          cases result with
          | error error =>
              simp only [execute, effect, raised]
              rfl
          | ok woken =>
              have still := delivery_notifyAll .raised woken { session with subscriptions }
              simp only [execute, effect, raised, publishFailure, delivery_publish, still]
              rfl
  | subscribe topic => rfl

theorem delivery_serveOne (docile : ∀ prop ∈ session.props.props, prop.isDocile = true)
    (envelope : Envelope V) (rest : Mailbox (Envelope V) × Option Nat) :
    (session.serveOne envelope rest).delivery
      = { session.delivery.publish (announcement envelope.command
            (session.effect envelope.caller envelope.command).response
            (session.effect envelope.caller envelope.command).woken) with woken := [] } := by
  have executed := @delivery_execute V (session.relieved rest) docile envelope.caller
    envelope.command
  exact (delivery_rearm _).trans ((delivery_respond _ _ _).trans executed)

/-- Serving a command sets the inactivity deadline anew and leaves the absolute one. -/
theorem backend_serveOne {absolute inactivity : Option Nat}
    (serving : session.backend = .serving absolute inactivity) (envelope : Envelope V)
    (rest : Mailbox (Envelope V) × Option Nat) :
    (session.serveOne envelope rest).backend = .serving absolute
      (session.inactivity.map (session.serveOne envelope rest).clock.deadline) := by
  have processed := (session.relieved rest).process_evolves envelope
  rw [serveOne_eq serving]
  exact congrArg (fun length : Option Span => Backend.serving absolute
    (length.map ((session.relieved rest).process envelope).clock.deadline)) processed.inactivity

theorem prune_congr {first second : Nat → Bool} {subscriptions : Subscriptions}
    (same : ∀ waiter ∈ subscriptions.allWaiters, first waiter = second waiter) :
    subscriptions.prune first = subscriptions.prune second := by
  unfold Subscriptions.prune
  congr 2
  refine List.map_congr_left fun topic listed => ?_
  rw [List.filter_congr fun waiter member =>
    same waiter (List.mem_flatMap.mpr ⟨topic, listed, member⟩)]

/-- A command has the same effect on the same tables, if the same waiters listen. -/
theorem Kindred.effect (kindred : Kindred left right)
    (listens : ∀ waiter ∈ left.subscriptions.allWaiters,
      left.listens waiter = right.listens waiter) (caller : Nat) (command : Command V) :
    left.effect caller command = right.effect caller command := by
  have pruned : left.subscriptions.prune left.listens
      = right.subscriptions.prune right.listens :=
    (prune_congr listens).trans (by rw [kindred.subscriptions])
  cases command with
  | signal topic =>
      unfold Session.effect
      dsimp only
      rw [Subscriptions.signal_pruned, Subscriptions.signal_pruned, pruned, kindred.props]
  | subscribe topic =>
      unfold Session.effect Subscriptions.subscribe
      dsimp only
      rw [pruned, kindred.props]
  | dispose key =>
      unfold Session.effect
      dsimp only
      rw [kindred.props, kindred.subscriptions, kindred.phase]
  | _ =>
      unfold Session.effect
      dsimp only
      rw [kindred.props, kindred.subscriptions]

/-- The clock follows the records. -/
theorem Evolves.clock {before after : Session V} {log : List (Happening V)}
    {changes : List (CallChange V)} {events : List Event}
    (growth : Evolves log changes events before after) :
    after.clock = ⟨before.clock.now + Happening.elapsed log, before.clock.noticed⟩ := by
  rw [← growth.now, ← show after.clock.noticed = before.clock.noticed from growth.agenda.noticed]

/-- The backends of kindred scenes serve the same command. -/
theorem Kindred.serveOne (kindred : Kindred left right) (serving : left.isServing)
    (docile : ∀ prop ∈ left.props.props, prop.isDocile = true) {envelope : Envelope V}
    (same : left.effect envelope.caller envelope.command
      = right.effect envelope.caller envelope.command)
    {leftRest rightRest : Mailbox (Envelope V) × Option Nat}
    (leftTaken : left.mailbox.take? = some (envelope, leftRest))
    (rightTaken : right.mailbox.take? = some (envelope, rightRest)) :
    Kindred (left.serveOne envelope leftRest) (right.serveOne envelope rightRest) := by
  have rightServing : right.isServing := by
    unfold isServing at serving ⊢
    rwa [← kindred.backend]
  obtain ⟨absolute, inactivity, backend⟩ := serving
  have log : left.serveLog envelope = right.serveLog envelope := by
    unfold serveLog entryFor
    rw [same]
  obtain ⟨_, -, leftGrowth⟩ := serveOne_evolves ⟨absolute, inactivity, backend⟩ envelope leftRest
  obtain ⟨_, -, rightGrowth⟩ := serveOne_evolves rightServing envelope rightRest
  have clock : (left.serveOne envelope leftRest).clock
      = (right.serveOne envelope rightRest).clock := by
    have start : left.clock = right.clock := kindred.clock
    have leftClock : _ = (⟨left.clock.now + _, left.clock.noticed⟩ : Clock) := leftGrowth.clock
    have rightClock : _ = (⟨right.clock.now + _, right.clock.noticed⟩ : Clock) := rightGrowth.clock
    rw [leftClock, rightClock, log, start]
  constructor
  case clock => exact clock
  case inactivity =>
    exact leftGrowth.inactivity.trans (kindred.inactivity.trans rightGrowth.inactivity.symm)
  case absolute =>
    exact leftGrowth.absolute.trans (kindred.absolute.trans rightGrowth.absolute.symm)
  case visiting =>
    exact leftGrowth.visiting.trans (kindred.visiting.trans rightGrowth.visiting.symm)
  case control =>
    rw [leftGrowth.control, rightGrowth.control, log]
    exact congrArg (fun control => List.foldl steer control _) kindred.control
  case phase => exact leftGrowth.phase.trans (kindred.phase.trans rightGrowth.phase.symm)
  case props =>
    rw [leftGrowth.props, rightGrowth.props]
    exact congrArg Effect.props same
  case subscriptions =>
    rw [leftGrowth.subscriptions, rightGrowth.subscriptions]
    exact congrArg Effect.subscriptions same
  case backend =>
    rw [backend_serveOne backend, backend_serveOne (kindred.backend.symm.trans backend), clock,
      kindred.inactivity]
  case handles => exact leftGrowth.handles.trans (kindred.handles.trans rightGrowth.handles.symm)
  case delivery =>
    rw [delivery_serveOne docile, delivery_serveOne (kindred.props ▸ docile), same,
      kindred.delivery]
  case closed =>
    rw [leftGrowth.mailbox, rightGrowth.mailbox]
    exact (closed_of_take? leftTaken).trans
      (kindred.closed.trans (closed_of_take? rightTaken).symm)
  case records =>
    unfold backendRecords
    rw [leftGrowth.journal, rightGrowth.journal, log, List.filter_append, List.filter_append]
    exact congrArg₂ (fun earlier (clock : Clock) => earlier
      ++ (Record.sequence clock.now _).filter fun record : Record V => record.happening.isBackends)
      kindred.records kindred.clock

end Serving

end Session

end BoundedScene
