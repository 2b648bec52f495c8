import BoundedScene.Proofs.Bare
import BoundedScene.Proofs.Ending
import BoundedScene.Proofs.Waiters
import Mathlib.Algebra.GroupWithZero.Nat

/-!
Contract: how many turns a scene can still take before time has to pass.

Owns:
- `turnsAhead`, a number that prices every turn that the calls, the mailbox, the table of
  waiters, the control surface and the backend can still cause;
- that no function of a scene lets it grow, beyond what the caller of the function pays.

A task that is ready costs one.  Whoever wakes a task pays for it: a call with the stages
that it has yet to leave, a place in the line with its grant, an envelope with its reply, a
waiter with its signal, the control surface once for a stop, once for the begin of the end
and once for the result.

Does not own: the passage of time, and that the number falls with each turn.
-/

namespace BoundedScene

open BoundedScene.Supervision (Control)

/-- The turns that a call can still cause, besides one for which it is ready: those of the
backend when its command enters and when it is answered, its own at its deadline, and all
that its envelope causes. -/
def Stage.turnsAhead {V : Type} (noticed : Nat) : Stage V → Nat
  | .fresh => 10
  | .seekingSlot => 9
  | .awaitingReply => 2
  | .awaitingSignal deadline => if deadline.any fun due => decide (noticed < due) then 2 else 1
  | .awaitingResult => 1
  | .finished _ _ => 0
  | .dropped => 0

/-- An envelope is answered, may register a waiter, may let time pass, and may be the last
that the backend serves in one turn; a place in the line is granted once. -/
def Mailbox.turnsAhead {E : Type} (mailbox : Mailbox E) : Nat :=
  6 * mailbox.queued.length + mailbox.waiting.length

/-- The backend is woken once by a request for a stop, each call once by the begin of the
end and once by the result. -/
def Supervision.Control.turnsAhead {ε : Type} (calls : Nat) (control : Control ε) : Nat :=
  (if control.stopRequested then 0 else 1) + (if control.ending then 0 else calls)
    + (if control.outcome.isSome then 0 else calls)

theorem Stage.turnsAhead_awaitingSignal {V : Type} (noticed : Nat) (deadline : Option Nat) :
    1 ≤ (Stage.awaitingSignal deadline : Stage V).turnsAhead noticed
      ∧ (Stage.awaitingSignal deadline : Stage V).turnsAhead noticed ≤ 2 := by
  simp only [Stage.turnsAhead]
  split <;> simp

/-- A grant is paid with the place in the line. -/
theorem Mailbox.turnsAhead_grant {E : Type} (mailbox : Mailbox E) :
    mailbox.grant.1.turnsAhead + mailbox.grant.2.toList.length = mailbox.turnsAhead := by
  unfold Mailbox.grant
  split
  · rfl
  case h_2 next later waiting =>
    split
    · simp [Mailbox.turnsAhead, waiting]
      omega
    · rfl

/-- A signal takes the waiters that it wakes out of the table. -/
theorem Subscriptions.length_signal (isLive : Nat → Bool) (subscriptions : Subscriptions)
    (name : String) :
    match subscriptions.signal isLive name with
      | (.ok woken, rest) =>
          woken.length + rest.allWaiters.length ≤ subscriptions.allWaiters.length
      | (.error _, rest) => rest.allWaiters.length ≤ subscriptions.allWaiters.length := by
  have pruned : (subscriptions.prune isLive).allWaiters.length
      ≤ subscriptions.allWaiters.length := by
    rw [allWaiters_prune]
    exact List.length_filter_le _ _
  -- Topics may share a name here, so the permutation of the table does not apply.
  have taken (topics : List Topic) :
      ((⟨topics⟩ : Subscriptions).waiters name).length
          + (⟨topics.filter fun topic => topic.name != name⟩ : Subscriptions).allWaiters.length
        ≤ (⟨topics⟩ : Subscriptions).allWaiters.length := by
    induction topics with
    | nil => exact Nat.le_refl _
    | cons topic rest inductionHypothesis =>
        rw [waiters_of_cons]
        simp only [allWaiters, List.filter_cons, List.flatMap_cons, List.length_append]
          at inductionHypothesis ⊢
        by_cases same : topic.name = name
        · simp only [same, bne_self_eq_false, if_true]
          exact Nat.add_le_add_left (Nat.le_trans (Nat.le_add_left _ _) inductionHypothesis) _
        · rw [if_neg same, if_pos (by simpa using same), List.flatMap_cons, List.length_append]
          omega
  have taken : ((subscriptions.prune isLive).waiters name).length + _ ≤ _ :=
    taken (subscriptions.prune isLive).topics
  rw [signal_pruned]
  cases woken : (subscriptions.prune isLive).waiters name with
  | nil => exact pruned
  | cons first rest =>
      rw [woken] at taken
      exact Nat.le_trans taken pruned

theorem sum_modify {α : Type} (weigh : α → Nat) {items : List α} {index : Nat} {item : α}
    (found : items[index]? = some item) (change : α → α) :
    ((items.modify index change).map weigh).sum + weigh item
      = (items.map weigh).sum + weigh (change item) := by
  induction items generalizing index with
  | nil => cases found
  | cons first rest inductionHypothesis =>
      cases index with
      | zero =>
          obtain rfl := Option.some.inj found
          simp only [List.modify_zero_cons, List.map_cons, List.sum_cons]
          omega
      | succ index =>
          have later := @inductionHypothesis index found
          simp only [List.modify_succ_cons, List.map_cons, List.sum_cons]
          omega

namespace Session

variable {V : Type} {session : Session V} {id : Nat} {call : Call V}

/-- The price of the parts of a scene, of which `ready` own tasks are ready.  A backend that
runs may let time pass in its teardown, and may be polled once more after it. -/
def price (ready noticed : Nat) (calls : List (Call V)) (mailbox : Mailbox (Envelope V))
    (waiters : Nat) (control : Control SceneError) (runs : Bool) : Nat :=
  ready + (calls.map fun call => call.stage.turnsAhead noticed).sum + mailbox.turnsAhead + waiters
    + control.turnsAhead calls.length + (if runs then 4 else 0)

/-- The turns of the scene's own tasks that are due or can still be caused before time
passes. -/
def turnsAhead (session : Session V) : Nat :=
  price session.bare.agenda.ready.length session.clock.noticed session.calls session.mailbox
    session.subscriptions.allWaiters.length session.control session.backendRuns

/-! ## Changes of one part -/

theorem turnsAhead_wakeAll (session : Session V) (tasks : List SceneTask) :
    (session.wakeAll tasks).turnsAhead ≤ session.turnsAhead + tasks.length := by
  have woken : (session.wakeAll tasks).bare.agenda.ready.length
      ≤ session.bare.agenda.ready.length + tasks.length := by
    rw [bare_wakeAll]
    exact Nat.le_trans (Agenda.length_wakeAll _ _)
      (Nat.add_le_add_left (List.length_filter_le _ _) _)
  have noticed : (session.wakeAll tasks).clock = session.clock := Agenda.clock_wakeAll _ _
  show price _ (session.wakeAll tasks).clock.noticed session.calls session.mailbox
    session.subscriptions.allWaiters.length session.control session.backendRuns ≤ _
  rw [noticed]
  unfold turnsAhead price
  omega

theorem turnsAhead_record (session : Session V) (happening : Happening V) :
    (session.record happening).turnsAhead = session.turnsAhead :=
  rfl

theorem turnsAhead_updateDelivery (session : Session V) (change : Delivery → Delivery) :
    (session.updateDelivery change).turnsAhead = session.turnsAhead := by
  have ready : (session.updateDelivery change).bare.agenda = session.bare.agenda := by
    rw [bare_updateDelivery]
  have noticed : (session.updateDelivery change).clock = session.clock := Agenda.clock_wakeAll _ _
  unfold turnsAhead
  rw [ready, noticed]
  rfl

theorem turnsAhead_publish (session : Session V) (event : Event) :
    (session.publish event).turnsAhead = session.turnsAhead :=
  session.turnsAhead_updateDelivery _

theorem turnsAhead_publishAll (events : List Event) (session : Session V) :
    (events.foldl publish session).turnsAhead = session.turnsAhead := by
  induction events generalizing session with
  | nil => rfl
  | cons first rest inductionHypothesis =>
      exact (inductionHypothesis _).trans (session.turnsAhead_publish first)

theorem turnsAhead_modifyCall (session : Session V) (found : session.calls[id]? = some call)
    (change : Call V → Call V) :
    (session.modifyCall id change).turnsAhead + call.stage.turnsAhead session.clock.noticed
      = session.turnsAhead + (change call).stage.turnsAhead session.clock.noticed := by
  have sum := sum_modify (fun call => call.stage.turnsAhead session.clock.noticed) found change
  show price session.bare.agenda.ready.length session.clock.noticed
    (session.calls.modify id change) session.mailbox session.subscriptions.allWaiters.length
    session.control session.backendRuns + _ = _
  unfold turnsAhead price
  rw [List.length_modify]
  omega

theorem turnsAhead_withMailbox (session : Session V) (mailbox : Mailbox (Envelope V)) :
    ({ session with mailbox } : Session V).turnsAhead + session.mailbox.turnsAhead
      = session.turnsAhead + mailbox.turnsAhead := by
  show price session.bare.agenda.ready.length session.clock.noticed session.calls mailbox
    session.subscriptions.allWaiters.length session.control session.backendRuns + _ = _
  unfold turnsAhead price
  omega

theorem turnsAhead_withSubscriptions (session : Session V) (subscriptions : Subscriptions) :
    ({ session with subscriptions } : Session V).turnsAhead
        + session.subscriptions.allWaiters.length
      = session.turnsAhead + subscriptions.allWaiters.length := by
  show price session.bare.agenda.ready.length session.clock.noticed session.calls session.mailbox
    subscriptions.allWaiters.length session.control session.backendRuns + _ = _
  unfold turnsAhead price
  omega

theorem turnsAhead_updateControl (session : Session V) (control : Control SceneError)
    (woken : List SceneTask) :
    (session.updateControl control woken).turnsAhead
        + session.control.turnsAhead session.calls.length
      ≤ session.turnsAhead + control.turnsAhead session.calls.length + woken.length := by
  have woke := turnsAhead_wakeAll ({ session with control } : Session V) woken
  have changed : ({ session with control } : Session V).turnsAhead
      = price session.bare.agenda.ready.length session.clock.noticed session.calls
        session.mailbox session.subscriptions.allWaiters.length control session.backendRuns := rfl
  unfold updateControl
  rw [changed] at woke
  unfold turnsAhead price at woke ⊢
  omega

/-! ## Requests -/

theorem length_callTasks (session : Session V) (test : Call V → Bool) :
    (session.callTasks test).length ≤ session.calls.length := by
  unfold callTasks
  rw [List.length_map]
  exact Nat.le_trans (List.length_filter_le ..) (Nat.le_of_eq List.length_range)

theorem length_endingWatchers (session : Session V) :
    session.endingWatchers.length ≤ if session.control.ending then 0 else session.calls.length := by
  unfold endingWatchers
  split
  · exact Nat.le_refl 0
  · exact session.length_callTasks _

theorem length_stopWatchers (session : Session V) :
    session.stopWatchers.length ≤ (if session.control.stopRequested then 0 else 1)
      + if session.control.ending then 0 else session.calls.length := by
  unfold stopWatchers
  rw [List.length_append]
  refine Nat.add_le_add ?_ session.length_endingWatchers
  split <;> simp

/-- Tasks are woken once for a request to stop. -/
theorem turnsAhead_request (session : Session V) {control : Control SceneError}
    (stop : control.stopRequested = true)
    (ending : control.ending = true) (outcome : control.outcome = session.control.outcome) :
    (session.updateControl control session.stopWatchers).turnsAhead ≤ session.turnsAhead := by
  have bound := session.turnsAhead_updateControl control session.stopWatchers
  have few := session.length_stopWatchers
  unfold Control.turnsAhead at bound
  rw [stop, ending, outcome] at bound
  simp only [if_true] at bound
  omega

theorem turnsAhead_requestStop (session : Session V) :
    session.requestStop.turnsAhead ≤ session.turnsAhead :=
  (session.record .stopRequested).turnsAhead_request rfl rfl rfl

theorem turnsAhead_abort (session : Session V) (cause : Cause) :
    (session.abort cause).turnsAhead ≤ session.turnsAhead := by
  have killed := (session.record (.aborted cause)).turnsAhead_request
    (rfl : (session.control.kill (.aborted cause)).stopRequested = true) rfl rfl
  unfold abort
  dsimp only
  split
  · rw [turnsAhead_publish]
    exact killed
  · exact killed

theorem turnsAhead_conclude (session : Session V) (deadline : Option (TimeoutKind × Span)) :
    (session.conclude deadline).turnsAhead ≤ session.turnsAhead := by
  have bound : (session.conclude deadline).turnsAhead
      + session.control.turnsAhead session.calls.length
      ≤ session.turnsAhead + session.control.conclude.turnsAhead session.calls.length
        + session.endingWatchers.length :=
    (session.record (.concluded deadline)).turnsAhead_updateControl session.control.conclude
      session.endingWatchers
  have few := session.length_endingWatchers
  have concluded : session.control.conclude.turnsAhead session.calls.length
      = (if session.control.stopRequested then 0 else 1) + 0
        + (if session.control.outcome.isSome then 0 else session.calls.length) := rfl
  rw [concluded] at bound
  unfold Control.turnsAhead at bound
  omega

/-! ## Answers -/

theorem turnsAhead_noteHandles (session : Session V) :
    session.noteHandles.turnsAhead ≤ session.turnsAhead + 1 := by
  unfold noteHandles
  split
  · exact Nat.le_add_right _ _
  · exact session.turnsAhead_wakeAll [.backend]

/-- A call that is answered pays for the turn of the backend with what it had left. -/
theorem turnsAhead_answer (session : Session V) (found : session.calls[id]? = some call)
    (answer : Answer V) :
    (session.answer id answer).turnsAhead + call.stage.turnsAhead session.clock.noticed
      ≤ session.turnsAhead + 1 := by
  let finished : Session V := (session.record (.answered id answer)).setStage id
    (.finished answer session.clock.millisecond)
  have noted : (session.answer id answer).turnsAhead ≤ finished.turnsAhead + 1 :=
    finished.turnsAhead_noteHandles
  have staged : finished.turnsAhead + call.stage.turnsAhead session.clock.noticed
      = session.turnsAhead + 0 :=
    (session.record (.answered id answer)).turnsAhead_modifyCall found _
  omega

/-- To put something into the slots of a call costs the turn of the call. -/
theorem turnsAhead_deliver (session : Session V) (id : Nat) (test : Call V → Bool)
    {change : Call V → Call V} (still : ∀ call, (change call).stage = call.stage) :
    (match session.calls[id]? with
      | none => session
      | some call =>
          if test call then (session.modifyCall id change).wakeCall id
          else session).turnsAhead ≤ session.turnsAhead + 1 := by
  split
  · exact Nat.le_add_right _ _
  case h_2 call found =>
    split
    · have woken := (session.modifyCall id change).turnsAhead_wakeAll [.call id]
      have changed := session.turnsAhead_modifyCall found change
      have same : (change call).stage.turnsAhead session.clock.noticed
          = call.stage.turnsAhead session.clock.noticed := by rw [still]
      rw [List.length_singleton] at woken
      show ((session.modifyCall id change).wakeAll [.call id]).turnsAhead ≤ _
      omega
    · exact Nat.le_add_right _ _

theorem turnsAhead_respond (session : Session V) (id : Nat) (reply : ReplySlot V) :
    (session.respond id reply).turnsAhead ≤ session.turnsAhead + 1 :=
  session.turnsAhead_deliver id Call.awaitsReply fun _ => rfl

theorem turnsAhead_notify (signal : SignalSlot) (session : Session V) (id : Nat) :
    (notify signal session id).turnsAhead ≤ session.turnsAhead + 1 :=
  session.turnsAhead_deliver id Call.listens fun _ => rfl

theorem turnsAhead_notifyAll (signal : SignalSlot) (ids : List Nat) (session : Session V) :
    (ids.foldl (notify signal) session).turnsAhead ≤ session.turnsAhead + ids.length := by
  induction ids generalizing session with
  | nil => exact Nat.le_refl _
  | cons first rest inductionHypothesis =>
      have later := inductionHypothesis (notify signal session first)
      have now := turnsAhead_notify signal session first
      rw [List.length_cons]
      exact Nat.le_trans later (by omega)

/-! ## The turn of the backend -/

theorem turnsAhead_performAct (session : Session V) (act : CleanupAct) :
    (session.performAct act).turnsAhead ≤ session.turnsAhead := by
  cases act with
  | abort cause => exact session.turnsAhead_abort cause
  | _ => exact Nat.le_refl _

theorem turnsAhead_runCleanup (session : Session V) (prop : StoredProp V) :
    (session.runCleanup prop).2.turnsAhead ≤ session.turnsAhead := by
  unfold runCleanup
  split
  · exact Nat.le_refl _
  · exact session.turnsAhead_performAct _

theorem turnsAhead_runCleanups (props : List (StoredProp V)) (session : Session V) :
    (runCleanups props session).2.turnsAhead ≤ session.turnsAhead := by
  induction props generalizing session with
  | nil => exact Nat.le_refl _
  | cons prop rest inductionHypothesis =>
      exact Nat.le_trans (inductionHypothesis (session.runCleanup prop).2)
        (session.turnsAhead_runCleanup prop)

theorem turnsAhead_dispose (session : Session V) (key : String) :
    (session.dispose key).2.turnsAhead ≤ session.turnsAhead := by
  unfold dispose
  split
  · exact Nat.le_refl _
  case h_2 prop props _ =>
    have cleaned := turnsAhead_runCleanup ({ session with props } : Session V) prop
    split
    case h_1 reached failed =>
      rw [failed] at cleaned
      exact cleaned
    case h_2 reached done =>
      rw [done] at cleaned
      show (reached.publish _).turnsAhead ≤ _
      rw [turnsAhead_publish]
      exact cleaned

/-- To carry out a command costs at most the place of a new waiter. -/
theorem turnsAhead_execute (session : Session V) (caller : Nat) (command : Command V) :
    (session.execute caller command).2.turnsAhead ≤ session.turnsAhead + 1 := by
  cases command with
  | store prop =>
      unfold execute
      dsimp only
      split
      · exact Nat.le_add_right _ _
      · show (publish _ _).turnsAhead ≤ _
        rw [turnsAhead_publish]
        exact Nat.le_add_right _ _
  | fetch key =>
      unfold execute
      dsimp only
      split
      · exact Nat.le_add_right _ _
      · show (publish _ _).turnsAhead ≤ _
        rw [turnsAhead_publish]
        exact Nat.le_add_right _ _
  | dispose key => exact Nat.le_succ_of_le (session.turnsAhead_dispose key)
  | signal topic =>
      have taken := session.subscriptions.length_signal session.listens topic
      unfold execute
      dsimp only
      split
      case h_1 error subscriptions signalled =>
        rw [signalled] at taken
        have changed := session.turnsAhead_withSubscriptions subscriptions
        dsimp only at taken ⊢
        omega
      case h_2 woken subscriptions signalled =>
        rw [signalled] at taken
        have changed := session.turnsAhead_withSubscriptions subscriptions
        have notified := turnsAhead_notifyAll .raised woken { session with subscriptions }
        dsimp only at taken ⊢
        rw [turnsAhead_publish]
        omega
  | subscribe topic =>
      let published := session.publish ((Event.plain .waiterRegistered).withTopic topic)
      have enrolled := (@Subscriptions.allWaiters_subscribe published.listens
        published.subscriptions topic caller).length_eq
      have kept := List.length_filter_le published.listens published.subscriptions.allWaiters
      have changed := published.turnsAhead_withSubscriptions
        (published.subscriptions.subscribe published.listens topic caller)
      have same : published.turnsAhead = session.turnsAhead := session.turnsAhead_publish _
      rw [List.length_append, List.length_singleton] at enrolled
      show ({ published with
        subscriptions := published.subscriptions.subscribe published.listens topic caller } :
          Session V).turnsAhead ≤ _
      omega

theorem turnsAhead_publishFailure (session : Session V) (response : Response V) :
    (session.publishFailure response).turnsAhead = session.turnsAhead := by
  cases response with
  | error error => exact session.turnsAhead_publish _
  | ok reply => rfl

theorem turnsAhead_process (session : Session V) (envelope : Envelope V) :
    (session.process envelope).turnsAhead ≤ session.turnsAhead + 2 := by
  have executed := session.turnsAhead_execute envelope.caller envelope.command
  unfold process
  dsimp only
  generalize session.execute envelope.caller envelope.command = reached at executed ⊢
  obtain ⟨response, reached⟩ := reached
  have failed := reached.turnsAhead_publishFailure response
  dsimp only at executed ⊢
  refine Nat.le_trans (turnsAhead_respond _ _ _) ?_
  rw [turnsAhead_record]
  omega

theorem turnsAhead_rearm (session : Session V) : session.rearm.turnsAhead = session.turnsAhead := by
  unfold rearm
  split
  case h_1 absolute inactivity serving =>
    unfold turnsAhead backendRuns
    rw [serving]
    rfl
  case h_2 => rfl

/-- To serve an envelope leaves enough of its price for the time that may pass, and for
another turn of the backend. -/
theorem turnsAhead_serveOne {envelope : Envelope V} {rest : Mailbox (Envelope V) × Option Nat}
    (taken : session.mailbox.take? = some (envelope, rest)) :
    (session.serveOne envelope rest).turnsAhead + 4 ≤ session.turnsAhead := by
  have price : rest.1.turnsAhead + rest.2.toList.length + 6 = session.mailbox.turnsAhead := by
    unfold Mailbox.take? at taken
    split at taken
    · cases taken
    case h_2 later queue =>
      cases taken
      have granted := Mailbox.turnsAhead_grant { session.mailbox with queued := later }
      have whole : session.mailbox.turnsAhead
          = ({ session.mailbox with queued := later } : Mailbox _).turnsAhead + 6 := by
        simp [Mailbox.turnsAhead, queue]
        omega
      exact (congrArg (· + 6) granted).trans whole.symm
  have changed := session.turnsAhead_withMailbox rest.1
  have woken : (session.relieved rest).turnsAhead ≤ _ :=
    turnsAhead_wakeAll ({ session with mailbox := rest.1 } : Session V)
      (rest.2.toList.map SceneTask.call)
  have processed := turnsAhead_process (session.relieved rest) envelope
  have rearmed := ((session.relieved rest).process envelope).turnsAhead_rearm
  rw [List.length_map] at woken
  show ((session.relieved rest).process envelope).rearm.turnsAhead + _ ≤ _
  omega

theorem turnsAhead_openUp (fresh : session.backend = .fresh) :
    session.openUp.turnsAhead = session.turnsAhead := by
  refine (turnsAhead_publish _ _).trans ?_
  unfold turnsAhead backendRuns
  rw [fresh]
  rfl

/-! ## The end -/

theorem turnsAhead_closeMailbox (session : Session V) :
    session.closeMailbox.turnsAhead ≤ session.turnsAhead := by
  let closed : Session V := { session with mailbox := session.mailbox.close.1 }
  have changed : closed.turnsAhead + session.mailbox.turnsAhead
      = session.turnsAhead + session.mailbox.close.1.turnsAhead :=
    session.turnsAhead_withMailbox _
  have woken : session.closeMailbox.turnsAhead
      ≤ closed.turnsAhead + (session.mailbox.waiting.map SceneTask.call).length :=
    closed.turnsAhead_wakeAll _
  have price : session.mailbox.turnsAhead
      = session.mailbox.close.1.turnsAhead + session.mailbox.waiting.length := rfl
  rw [List.length_map] at woken
  omega

theorem turnsAhead_tearDown (session : Session V) :
    session.tearDown.2.turnsAhead ≤ session.turnsAhead :=
  turnsAhead_runCleanups _ { session with props := {} }

theorem turnsAhead_releaseWaiters (session : Session V) :
    session.releaseWaiters.turnsAhead ≤ session.turnsAhead := by
  let emptied : Session V := { session with subscriptions := {} }
  have changed : emptied.turnsAhead + session.subscriptions.allWaiters.length
      = session.turnsAhead + 0 := session.turnsAhead_withSubscriptions {}
  have notified : session.releaseWaiters.turnsAhead
      ≤ emptied.turnsAhead + session.subscriptions.allWaiters.length :=
    turnsAhead_notifyAll .released _ emptied
  omega

theorem turnsAhead_dropQueued (session : Session V) :
    session.dropQueued.turnsAhead ≤ session.turnsAhead := by
  have dropped (queued : List (Envelope V)) (session : Session V) :
      (queued.foldl (fun session envelope => session.respond envelope.caller .closed)
          session).turnsAhead ≤ session.turnsAhead + queued.length := by
    induction queued generalizing session with
    | nil => exact Nat.le_refl _
    | cons first rest inductionHypothesis =>
        have later := inductionHypothesis (session.respond first.caller .closed)
        have now := session.turnsAhead_respond first.caller .closed
        rw [List.length_cons]
        exact Nat.le_trans later (by omega)
  let mailbox : Mailbox (Envelope V) := { session.mailbox with queued := [] }
  let emptied : Session V := { session with mailbox }
  have changed : emptied.turnsAhead + session.mailbox.turnsAhead
      = session.turnsAhead + mailbox.turnsAhead := session.turnsAhead_withMailbox mailbox
  have price : session.mailbox.turnsAhead
      = 6 * session.mailbox.queued.length + mailbox.turnsAhead := by
    simp [Mailbox.turnsAhead, mailbox]
  have told : session.dropQueued.turnsAhead
      ≤ emptied.turnsAhead + session.mailbox.queued.length :=
    dropped session.mailbox.queued emptied
  omega

/-- The result wakes each call once, since the backend returns once. -/
theorem turnsAhead_storeResult (session : Session V) (runs : session.backendRuns = true)
    (unset : session.control.outcome = none) (own : Except SceneError Unit) :
    (session.storeResult own).turnsAhead + 4 ≤ session.turnsAhead := by
  let returned : Session V :=
    { session.record (.ended (session.control.resolve own)) with backend := .returned }
  have halted : returned.turnsAhead + 4 = session.turnsAhead := by
    unfold turnsAhead
    rw [runs]
    rfl
  have stored : (returned.updateControl (session.control.finish own)
        (session.endingWatchers ++ session.resultWatchers)).turnsAhead
      + session.control.turnsAhead session.calls.length
      ≤ returned.turnsAhead + (session.control.finish own).turnsAhead session.calls.length
        + (session.endingWatchers ++ session.resultWatchers).length :=
    returned.turnsAhead_updateControl _ _
  have watchers := session.length_endingWatchers
  have waiters : session.resultWatchers.length ≤ session.calls.length :=
    session.length_callTasks _
  have finished : (session.control.finish own).turnsAhead session.calls.length
      = (if session.control.stopRequested then 0 else 1) + 0 + 0 := rfl
  have before : session.control.turnsAhead session.calls.length
      = (if session.control.stopRequested then 0 else 1)
        + (if session.control.ending then 0 else session.calls.length) + session.calls.length := by
    unfold Control.turnsAhead
    rw [unset]
    rfl
  have told : (session.storeResult own).turnsAhead
      = (returned.updateControl (session.control.finish own)
        (session.endingWatchers ++ session.resultWatchers)).turnsAhead :=
    turnsAhead_updateDelivery _ _
  rw [List.length_append] at stored
  omega

/-- After the teardown the backend still runs and has no result yet. -/
theorem turnsAhead_takeLeave (runs : session.backendRuns = true)
    (unset : session.control.outcome = none) (removed : Nat) (cause : Option SceneError)
    (failures : List SceneError) :
    (takeLeave removed cause (failures, session)).turnsAhead + 4 ≤ session.turnsAhead := by
  unfold takeLeave
  dsimp only
  have published := turnsAhead_publishAll (failures.map cleanupFailedEvent) session
  have failed := publishAll_evolves (failures.map cleanupFailedEvent) (fun event member => by
    obtain ⟨failure, -, rfl⟩ := List.mem_map.mp member
    exact isFromBackend_cleanupFailedEvent failure) session
  generalize List.foldl publish session _ = reported at published failed ⊢
  have freed := reported.turnsAhead_releaseWaiters
  have released := reported.releaseWaiters_evolves
  let last : Session V := { reported.releaseWaiters with
    phase := reported.releaseWaiters.phase.later .ended }
  have farewell := publishOwn_evolves last (endedEvent removed (ownResult cause failures))
    (isFromBackend_endedEvent _ _)
  have same : (last.publish (endedEvent removed (ownResult cause failures))).turnsAhead
      = reported.releaseWaiters.turnsAhead := turnsAhead_publish _ _
  change (((last.publish (endedEvent removed (ownResult cause failures))).dropQueued).storeResult
    _).turnsAhead + 4 ≤ _
  generalize last.publish _ = told at farewell same ⊢
  have dropped := told.dropQueued_evolves
  have emptied := told.turnsAhead_dropQueued
  have control : told.dropQueued.control = session.control := by
    rw [dropped.control]
    exact farewell.control.trans (released.control.trans failed.control)
  have backend : told.dropQueued.backend = session.backend := by
    rw [dropped.backend]
    exact farewell.backend.trans (released.backend.trans failed.backend)
  have stored := told.dropQueued.turnsAhead_storeResult
    (by unfold backendRuns at runs ⊢; rwa [backend]) (by rwa [control]) (ownResult cause failures)
  omega

/-- The end leaves the backend's price for the time that its cleanups let pass, and for
another poll. -/
theorem turnsAhead_finish (runs : session.backendRuns = true)
    (unset : session.control.outcome = none) (cause : Option SceneError) :
    (session.finish cause).turnsAhead + 4 ≤ session.turnsAhead := by
  have closed : session.shutDown.turnsAhead ≤ session.turnsAhead := by
    refine Nat.le_trans (turnsAhead_closeMailbox _) ?_
    rw [turnsAhead_publish]
    exact Nat.le_refl _
  have cleaned := session.shutDown.turnsAhead_tearDown
  have torn := session.shutDown.tearDown_evolves.2
  have outcome : session.shutDown.tearDown.2.control.outcome = none := by
    rw [torn.control, foldl_steer_outcome _ fun happening member => ?_]
    · exact unset
    · obtain ⟨prop, -, logged⟩ := List.mem_flatMap.mp member
      exact (isByCleanup_of_mem_cleanupLog logged).steady
  have stillRuns : session.shutDown.tearDown.2.backendRuns = true := by
    have backend : session.shutDown.tearDown.2.backend = session.backend := torn.backend
    unfold backendRuns at runs ⊢
    rwa [backend]
  have left := turnsAhead_takeLeave stillRuns outcome session.props.size cause
    session.shutDown.tearDown.1
  rw [finish_eq]
  exact Nat.le_trans left (Nat.le_trans cleaned closed)

/-! ## The turn of a call -/

/-- A call that waits for the result, or is told, has at least one turn ahead before. -/
theorem turnsAhead_awaitResult (session : Session V) (found : session.calls[id]? = some call)
    (ahead : 1 ≤ call.stage.turnsAhead session.clock.noticed) (request : Request V) :
    (session.awaitResult id request).turnsAhead ≤ session.turnsAhead := by
  unfold awaitResult
  split
  case h_1 result _ =>
    have answered := session.turnsAhead_answer found (terminalAnswer request result)
    omega
  case h_2 =>
    have staged : (session.setStage id .awaitingResult).turnsAhead
        + call.stage.turnsAhead session.clock.noticed = session.turnsAhead + 1 :=
      session.turnsAhead_modifyCall found _
    omega

theorem turnsAhead_leaveMailbox (session : Session V) (id : Nat) :
    (session.leaveMailbox id).turnsAhead ≤ session.turnsAhead := by
  let mailbox : Mailbox (Envelope V) := { session.mailbox with
    granted := session.mailbox.granted.erase id
    waiting := session.mailbox.waiting.erase id }
  have shorter : mailbox.turnsAhead ≤ session.mailbox.turnsAhead :=
    Nat.add_le_add_left List.length_erase_le _
  have granted := Mailbox.turnsAhead_grant mailbox
  have changed := session.turnsAhead_withMailbox mailbox.grant.1
  have woken : (session.leaveMailbox id).turnsAhead
      ≤ ({ session with mailbox := mailbox.grant.1 } : Session V).turnsAhead
        + (mailbox.grant.2.toList.map SceneTask.call).length :=
    turnsAhead_wakeAll _ _
  rw [List.length_map] at woken
  omega

/-- A call pays for its envelope, and for the turn of the backend. -/
theorem turnsAhead_enters (session : Session V) (found : session.calls[id]? = some call)
    (ahead : 9 ≤ call.stage.turnsAhead session.clock.noticed) (envelope : Envelope V) :
    (((({ session with mailbox := session.mailbox.enter id envelope } : Session V).record
      (.entered envelope)).wakeAll [.backend]).setStage id .awaitingReply).turnsAhead
        ≤ session.turnsAhead := by
  let mailbox := session.mailbox.enter id envelope
  let entered : Session V := ({ session with mailbox } : Session V).record (.entered envelope)
  have price : mailbox.turnsAhead = session.mailbox.turnsAhead + 6 := by
    simp [mailbox, Mailbox.enter, Mailbox.turnsAhead]
    omega
  have changed : entered.turnsAhead + session.mailbox.turnsAhead
      = session.turnsAhead + mailbox.turnsAhead := session.turnsAhead_withMailbox mailbox
  have woken : (entered.wakeAll [.backend]).turnsAhead ≤ entered.turnsAhead + 1 :=
    entered.turnsAhead_wakeAll [.backend]
  have clock : (entered.wakeAll [.backend]).clock = session.clock := Agenda.clock_wakeAll _ _
  have staged : ((entered.wakeAll [.backend]).setStage id .awaitingReply).turnsAhead
      + call.stage.turnsAhead (entered.wakeAll [.backend]).clock.noticed
      = (entered.wakeAll [.backend]).turnsAhead + 2 :=
    (entered.wakeAll [.backend]).turnsAhead_modifyCall found _
  rw [clock] at staged
  show ((entered.wakeAll [.backend]).setStage id .awaitingReply).turnsAhead ≤ _
  omega

/-- A call pays for its place in the line; whoever looks for a slot again has its place. -/
theorem turnsAhead_linesUp (session : Session V) (found : session.calls[id]? = some call)
    (ahead : 9 ≤ call.stage.turnsAhead session.clock.noticed)
    (begins : call.stage = .fresh ∨ id ∈ session.mailbox.waiting) :
    (({ session with mailbox := session.mailbox.await id } : Session V).setStage id
      .seekingSlot).turnsAhead ≤ session.turnsAhead := by
  let lined : Session V := { session with mailbox := session.mailbox.await id }
  have changed : lined.turnsAhead + session.mailbox.turnsAhead
      = session.turnsAhead + (session.mailbox.await id).turnsAhead :=
    session.turnsAhead_withMailbox _
  have staged : (lined.setStage id .seekingSlot).turnsAhead
      + call.stage.turnsAhead session.clock.noticed = lined.turnsAhead + 9 :=
    lined.turnsAhead_modifyCall found _
  have price : (session.mailbox.await id).turnsAhead + 9
      ≤ session.mailbox.turnsAhead + call.stage.turnsAhead session.clock.noticed := by
    unfold Mailbox.await
    split
    case isTrue => omega
    case isFalse unlined =>
      rw [begins.resolve_right unlined]
      simp only [Mailbox.turnsAhead, Stage.turnsAhead, List.length_append, List.length_singleton]
      omega
  show (lined.setStage id .seekingSlot).turnsAhead ≤ _
  omega

theorem turnsAhead_submit (session : Session V) (found : session.calls[id]? = some call)
    (early : call.stage = .fresh ∨ call.stage = .seekingSlot)
    (placed : call.stage = .seekingSlot → session.mailbox.closed = false →
      id ∈ session.mailbox.granted ++ session.mailbox.waiting) (command : Command V) :
    (session.submit id command).turnsAhead ≤ session.turnsAhead := by
  have ahead : 9 ≤ call.stage.turnsAhead session.clock.noticed := by
    rcases early with stage | stage
    · rw [stage]
      exact Nat.le_succ 9
    · rw [stage]
      exact Nat.le_refl 9
  unfold submit
  split
  case isTrue =>
    have left := session.turnsAhead_leaveMailbox id
    have still : (session.leaveMailbox id).calls[id]? = some call := found
    have clock : (session.leaveMailbox id).clock = session.clock := Agenda.clock_wakeAll _ _
    have answered := (session.leaveMailbox id).turnsAhead_answer still (.failed .ended)
    rw [clock] at answered
    omega
  case isFalse open_ =>
    rw [Bool.or_eq_true, not_or] at open_
    split
    case isTrue admitted => exact session.turnsAhead_enters found ahead { caller := id, command }
    case isFalse full =>
      refine session.turnsAhead_linesUp found ahead (early.imp_right fun seeks => ?_)
      refine (List.mem_append.mp (placed seeks (by simpa using open_.2))).resolve_left
        fun granted => full ?_
      exact Bool.or_eq_true_iff.mpr (.inl (decide_eq_true granted))

theorem turnsAhead_overtake (session : Session V) (found : session.calls[id]? = some call)
    (ahead : 1 ≤ call.stage.turnsAhead session.clock.noticed) (request : Request V) :
    (session.overtake id request).turnsAhead ≤ session.turnsAhead :=
  turnsAhead_awaitResult (session.record (.overtaken id)) found ahead request

/-- A call that waits for a signal pays for that wait. -/
theorem turnsAhead_awaitSignal (session : Session V) (found : session.calls[id]? = some call)
    (topic : String) (deadline : Option Nat)
    (ahead : (Stage.awaitingSignal deadline : Stage V).turnsAhead session.clock.noticed
      ≤ call.stage.turnsAhead session.clock.noticed) :
    (session.awaitSignal id call topic deadline).turnsAhead ≤ session.turnsAhead := by
  have atLeast := (Stage.turnsAhead_awaitingSignal (V := V) session.clock.noticed deadline).1
  have overtaken := session.turnsAhead_overtake found (Nat.le_trans atLeast ahead) call.request
  unfold awaitSignal
  split
  case h_1 =>
    have answered := session.turnsAhead_answer found .done
    omega
  case h_2 => exact overtaken
  case h_3 =>
    split
    · exact overtaken
    · split
      · have answered := session.turnsAhead_answer found (.failed (.waitedTooLong topic))
        omega
      · have staged : (session.setStage id (.awaitingSignal deadline)).turnsAhead
            + call.stage.turnsAhead session.clock.noticed = session.turnsAhead
              + (Stage.awaitingSignal deadline : Stage V).turnsAhead session.clock.noticed :=
          session.turnsAhead_modifyCall found _
        omega

theorem turnsAhead_acceptReply (session : Session V) (found : session.calls[id]? = some call)
    (waits : call.stage = .awaitingReply) (response : Response V) :
    (session.acceptReply id call response).turnsAhead ≤ session.turnsAhead := by
  have ahead : call.stage.turnsAhead session.clock.noticed = 2 := by
    rw [waits]
    rfl
  have told (answer : Answer V) :
      ((session.record (.replied id response)).answer id answer).turnsAhead
        ≤ session.turnsAhead := by
    have answered : ((session.record (.replied id response)).answer id answer).turnsAhead
        + call.stage.turnsAhead session.clock.noticed ≤ session.turnsAhead + 1 :=
      (session.record (.replied id response)).turnsAhead_answer found answer
    omega
  have waiting (topic : String) (deadline : Option Nat) :
      ((session.record (.replied id response)).awaitSignal id call topic deadline).turnsAhead
        ≤ session.turnsAhead := by
    refine (session.record (.replied id response)).turnsAhead_awaitSignal found topic
      deadline (Nat.le_trans (Stage.turnsAhead_awaitingSignal _ _).2 ?_)
    exact Nat.le_of_eq ahead.symm
  unfold acceptReply
  dsimp only
  split
  · exact told _
  · split
    · exact waiting _ _
    · split
      · exact told _
      · exact told _

theorem turnsAhead_awaitReply (session : Session V) (found : session.calls[id]? = some call)
    (waits : call.stage = .awaitingReply) :
    (session.awaitReply id call).turnsAhead ≤ session.turnsAhead := by
  have ahead : 1 ≤ call.stage.turnsAhead session.clock.noticed := by
    rw [waits]
    exact Nat.le_succ 1
  unfold awaitReply
  split
  case h_1 response _ => exact session.turnsAhead_acceptReply found waits response
  case h_2 => exact session.turnsAhead_overtake found ahead _
  case h_3 =>
    split
    case isTrue =>
      let closed : Session V := session.modifyCall id fun call => { call with reply := .closed }
      have still : closed.calls[id]? = some { call with reply := .closed } := by
        show (session.calls.modify id _)[id]? = _
        rw [List.getElem?_modify_eq, found]
        rfl
      have same : closed.turnsAhead + call.stage.turnsAhead session.clock.noticed
          = session.turnsAhead + call.stage.turnsAhead session.clock.noticed :=
        session.turnsAhead_modifyCall found _
      exact Nat.le_trans (closed.turnsAhead_overtake still ahead _)
        (Nat.le_of_eq (Nat.add_right_cancel same))
    case isFalse => exact Nat.le_refl _

theorem turnsAhead_begin (session : Session V) (found : session.calls[id]? = some call)
    (fresh : call.stage = .fresh) :
    (session.begin id call).turnsAhead ≤ session.turnsAhead := by
  have ahead (noticed : Nat) : 1 ≤ call.stage.turnsAhead noticed := by
    rw [fresh]
    exact Nat.succ_pos 9
  unfold Session.begin
  dsimp only
  split
  case h_1 =>
    have stopped := (session.record (.started id)).turnsAhead_requestStop
    exact Nat.le_trans ((session.record (.started id)).requestStop.turnsAhead_awaitResult found
      (ahead _) _) stopped
  case h_2 =>
    exact (session.record (.started id)).turnsAhead_awaitResult found (ahead _) _
  case h_3 cause _ =>
    have aborted := (session.record (.started id)).turnsAhead_abort cause
    have still : ((session.record (.started id)).abort cause).calls[id]? = some call := by
      unfold abort
      dsimp only
      split <;> exact found
    have answered := ((session.record (.started id)).abort cause).turnsAhead_answer still .done
    have paid := ahead ((session.record (.started id)).abort cause).clock.noticed
    rw [turnsAhead_record] at aborted
    omega
  case h_4 =>
    have answered := (session.record (.started id)).turnsAhead_answer found
      (.phase session.phase)
    have paid := ahead (session.record (.started id)).clock.noticed
    rw [turnsAhead_record] at answered
    show ((session.record (.started id)).answer id (.phase session.phase)).turnsAhead ≤ _
    omega
  case h_5 =>
    split
    · exact (session.record (.started id)).turnsAhead_submit found (.inl fresh)
        (by simp [fresh]) _
    · exact Nat.le_refl _

/-- A call causes nothing in its turn that it has not paid for. -/
theorem turnsAhead_resumeCall
    (placed : ∀ call : Call V, session.calls[id]? = some call → call.stage = .seekingSlot →
      session.mailbox.closed = false →
        id ∈ session.mailbox.granted ++ session.mailbox.waiting) :
    (session.resumeCall id).turnsAhead ≤ session.turnsAhead := by
  unfold resumeCall
  split
  case h_1 => exact Nat.le_refl _
  case h_2 call found =>
    split
    case h_1 fresh => exact session.turnsAhead_begin found fresh
    case h_2 seeks =>
      unfold seekSlot
      split
      · exact session.turnsAhead_submit found (.inr seeks) (placed call found) _
      · exact Nat.le_refl _
    case h_3 waits => exact session.turnsAhead_awaitReply found waits
    case h_4 deadline waits =>
      split
      · exact session.turnsAhead_awaitSignal found _ _ (Nat.le_of_eq (congrArg _ waits.symm))
      · exact Nat.le_refl _
    case h_5 waits =>
      refine session.turnsAhead_awaitResult found ?_ _
      rw [waits]
      exact Nat.le_refl 1
    case h_6 => exact Nat.le_refl _
    case h_7 => exact Nat.le_refl _

end Session

end BoundedScene
