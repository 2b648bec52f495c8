import BoundedScene.Proofs.Bare

/-!
Contract: what a scene does to the delivery of its events.

Owns:
- `Fed`: the scene puts events on the bus and leaves the rest of the delivery alone;
- that this is all that any function of a scene does to it, until the backend returns and
  tells the courier.

Does not own: what the delivery does with the events.
-/

namespace BoundedScene

/-- Events were put on the bus, and at most the courier was woken for them. -/
def Delivery.Fed (before after : Delivery) : Prop :=
  ∃ feed woken, before.feed.published <+: feed.published ∧ after = { before with feed, woken }

namespace Delivery.Fed

variable {before middle after : Delivery}

theorem refl (delivery : Delivery) : Fed delivery delivery :=
  ⟨_, _, List.prefix_rfl, rfl⟩

theorem of_same (same : after = before) : Fed before after :=
  same ▸ refl before

theorem trans (first : Fed before middle) (second : Fed middle after) : Fed before after := by
  obtain ⟨feed, woken, grown, rfl⟩ := first
  obtain ⟨feed, woken, further, rfl⟩ := second
  exact ⟨feed, woken, grown.trans further, rfl⟩

end Delivery.Fed

/-- The courier was told to end, after it was fed. -/
def Delivery.LastFed (before after : Delivery) : Prop :=
  ∃ fed, Fed before fed ∧ ∃ woken, after = { fed with ended := true, woken }

theorem Delivery.Fed.last {before middle after : Delivery} (fed : Fed before middle)
    (last : LastFed middle after) : LastFed before after := by
  obtain ⟨reached, further, told⟩ := last
  exact ⟨reached, fed.trans further, told⟩

open Delivery (Fed LastFed)

namespace Session

variable {V : Type} {session before after : Session V} {id : Nat} {call : Call V}

/-! ## Requests and answers -/

theorem publish_fed (session : Session V) (event : Event) :
    Fed session.delivery (session.publish event).delivery := by
  refine ⟨session.delivery.feed.publish event, [], List.prefix_append .., ?_⟩
  unfold publish updateDelivery Delivery.publish Delivery.wakeIf
  dsimp only
  split <;> rfl

theorem publishAll_fed (events : List Event) (session : Session V) :
    Fed session.delivery (events.foldl publish session).delivery := by
  induction events generalizing session with
  | nil => exact .refl _
  | cons first rest inductionHypothesis =>
      exact (session.publish_fed first).trans (inductionHypothesis _)

theorem abort_fed (session : Session V) (cause : Cause) :
    Fed session.delivery (session.abort cause).delivery := by
  unfold abort
  dsimp only
  split
  · exact publish_fed _ _
  · exact .refl _

theorem delivery_noteHandles (session : Session V) :
    session.noteHandles.delivery = session.delivery := by
  unfold noteHandles
  split <;> rfl

theorem delivery_answer (session : Session V) (id : Nat) (answer : Answer V) :
    (session.answer id answer).delivery = session.delivery :=
  delivery_noteHandles _

theorem delivery_respond (session : Session V) (id : Nat) (reply : ReplySlot V) :
    (session.respond id reply).delivery = session.delivery := by
  unfold respond
  split
  · rfl
  · split <;> rfl

theorem delivery_notifyAll (signal : SignalSlot) (ids : List Nat) (session : Session V) :
    (ids.foldl (notify signal) session).delivery = session.delivery := by
  induction ids generalizing session with
  | nil => rfl
  | cons first rest inductionHypothesis =>
      refine (inductionHypothesis _).trans ?_
      unfold notify
      split
      · rfl
      · split <;> rfl

/-! ## The turn of the backend -/

theorem performAct_fed (session : Session V) (act : CleanupAct) :
    Fed session.delivery (session.performAct act).delivery := by
  cases act with
  | abort cause => exact session.abort_fed cause
  | _ => exact .refl _

theorem runCleanup_fed (session : Session V) (prop : StoredProp V) :
    Fed session.delivery (session.runCleanup prop).2.delivery := by
  unfold runCleanup
  split
  · exact .refl _
  · exact session.performAct_fed _

theorem runCleanups_fed (props : List (StoredProp V)) (session : Session V) :
    Fed session.delivery (runCleanups props session).2.delivery := by
  induction props generalizing session with
  | nil => exact .refl _
  | cons first rest inductionHypothesis =>
      exact (session.runCleanup_fed first).trans (inductionHypothesis _)

theorem dispose_fed (session : Session V) (key : String) :
    Fed session.delivery (session.dispose key).2.delivery := by
  unfold dispose
  split
  case h_1 => exact .refl _
  case h_2 prop props _ =>
    have cleaned := runCleanup_fed { session with props } prop
    split
    case h_1 failure reached same =>
      rw [same] at cleaned
      exact cleaned
    case h_2 reached same =>
      rw [same] at cleaned
      exact cleaned.trans (publish_fed _ _)

theorem execute_fed (session : Session V) (caller : Nat) (command : Command V) :
    Fed session.delivery (session.execute caller command).2.delivery := by
  cases command with
  | store prop =>
      unfold execute
      dsimp only
      split
      · exact .refl _
      · exact publish_fed _ _
  | fetch key =>
      unfold execute
      dsimp only
      split
      · exact .refl _
      · exact publish_fed _ _
  | dispose key => exact session.dispose_fed key
  | signal topic =>
      unfold execute
      dsimp only
      split
      case h_1 => exact .refl _
      case h_2 woken subscriptions _ =>
        have notified := delivery_notifyAll .raised woken { session with subscriptions }
        exact (Fed.of_same notified).trans (publish_fed _ _)
  | subscribe topic => exact publish_fed _ _

theorem process_fed (session : Session V) (envelope : Envelope V) :
    Fed session.delivery (session.process envelope).delivery := by
  have executed := session.execute_fed envelope.caller envelope.command
  unfold process
  dsimp only
  generalize session.execute envelope.caller envelope.command = reached at executed ⊢
  obtain ⟨response, reached⟩ := reached
  have failed : Fed reached.delivery (reached.publishFailure response).delivery := by
    cases response with
    | error error => exact publish_fed _ _
    | ok reply => exact .refl _
  exact executed.trans (failed.trans (.of_same (delivery_respond _ _ _)))

theorem serveOne_fed (session : Session V) (envelope : Envelope V)
    (rest : Mailbox (Envelope V) × Option Nat) :
    Fed session.delivery (session.serveOne envelope rest).delivery := by
  have processed := (session.relieved rest).process_fed envelope
  exact processed.trans (.of_same (delivery_rearm _))

theorem storeResult_tells (session : Session V) (own : Except SceneError Unit) :
    LastFed session.delivery (session.storeResult own).delivery := by
  refine ⟨session.delivery, .refl _, [], ?_⟩
  unfold storeResult updateDelivery Delivery.tellEnd Delivery.wakeIf
  dsimp only
  split <;> rfl

theorem delivery_dropQueued (session : Session V) :
    session.dropQueued.delivery = session.delivery := by
  have dropped (queued : List (Envelope V)) (session : Session V) :
      (queued.foldl (fun session envelope => session.respond envelope.caller .closed)
        session).delivery = session.delivery := by
    induction queued generalizing session with
    | nil => rfl
    | cons first rest inductionHypothesis =>
        exact (inductionHypothesis _).trans (delivery_respond _ _ _)
  exact dropped _ _

theorem takeLeave_tells (session : Session V) (removed : Nat) (cause : Option SceneError)
    (failures : List SceneError) :
    LastFed session.delivery (takeLeave removed cause (failures, session)).delivery := by
  have failed := publishAll_fed (failures.map cleanupFailedEvent) session
  unfold takeLeave
  dsimp only
  generalize List.foldl publish session _ = reported at failed ⊢
  let last : Session V := { reported.releaseWaiters with
    phase := reported.releaseWaiters.phase.later .ended }
  have released : Fed reported.delivery last.delivery :=
    .of_same (delivery_notifyAll .released _ _)
  have farewell := last.publish_fed (endedEvent removed (ownResult cause failures))
  change LastFed _ (((last.publish (endedEvent removed (ownResult cause failures))).dropQueued
    ).storeResult _).delivery
  generalize last.publish _ = told at farewell ⊢
  have stored := told.dropQueued.storeResult_tells (ownResult cause failures)
  rw [delivery_dropQueued] at stored
  exact ((failed.trans released).trans farewell).last stored

theorem finish_tells (session : Session V) (cause : Option SceneError) :
    LastFed session.delivery (session.finish cause).delivery := by
  have shut : Fed session.delivery session.shutDown.delivery := publish_fed _ _
  have torn : Fed session.shutDown.delivery session.shutDown.tearDown.2.delivery :=
    runCleanups_fed _ { session.shutDown with props := {} }
  exact (shut.trans torn).last (session.shutDown.tearDown.2.takeLeave_tells _ cause _)

theorem EndCause.tells {log : List (Happening V)} {heralds : List Event}
    {error : Option SceneError} (cause : EndCause before log heralds error after) :
    LastFed before.delivery after.delivery := by
  cases cause with
  | stopped => exact before.finish_tells none
  | @timedOut kind length =>
      exact ((before.conclude (some (kind, length))).publish_fed (timeoutEvent kind length)).last
        (finish_tells _ _)
  | abandoned => exact (before.conclude none).finish_tells none

/-- A backend feeds the delivery until it ends, and tells the courier when it does. -/
def FedUntilEnd (before after : Session V) : Prop :=
  Fed before.delivery after.delivery
    ∨ LastFed before.delivery after.delivery ∧ after.backend = .returned

theorem serve_fed (commands : Nat) (serving : session.isServing) :
    FedUntilEnd session (session.serve commands) :=
  serve_induction (FedUntilEnd session)
    (fun {later envelope rest} held serving _ _ _ => by
      rcases held with fed | ⟨-, returned⟩
      · exact .inl (fed.trans (later.serveOne_fed envelope rest))
      · obtain ⟨absolute, inactivity, backend⟩ := serving
        cases returned.symm.trans backend)
    (fun held serving cause => by
      rcases held with fed | ⟨-, returned⟩
      · exact .inr ⟨fed.last cause.tells, cause.backend⟩
      · obtain ⟨absolute, inactivity, backend⟩ := serving
        cases returned.symm.trans backend)
    commands serving (.inl (.refl _))

theorem resumeBackend_fed (session : Session V) : FedUntilEnd session session.resumeBackend := by
  unfold resumeBackend
  split
  case h_1 fresh =>
    have opened : Fed session.delivery session.openUp.delivery := publish_fed _ _
    rcases serve_fed session.mailbox.queued.length
      (⟨_, _, session.openUp_evolves.backend⟩ : session.openUp.isServing)
      with fed | ⟨last, returned⟩
    · exact .inl (opened.trans fed)
    · exact .inr ⟨opened.last last, returned⟩
  case h_2 absolute inactivity backend => exact serve_fed _ ⟨absolute, inactivity, backend⟩
  case h_3 => exact .inl (.refl _)

/-! ## The turn of a call -/

theorem delivery_awaitResult (session : Session V) (id : Nat) (request : Request V) :
    (session.awaitResult id request).delivery = session.delivery := by
  unfold awaitResult
  split
  · exact delivery_answer _ _ _
  · rfl

theorem delivery_submit (session : Session V) (id : Nat) (command : Command V) :
    (session.submit id command).delivery = session.delivery := by
  unfold submit
  split
  · exact delivery_answer _ _ _
  · split <;> rfl

theorem delivery_awaitSignal (session : Session V) (id : Nat) (call : Call V) (topic : String)
    (deadline : Option Nat) :
    (session.awaitSignal id call topic deadline).delivery = session.delivery := by
  unfold awaitSignal
  split
  · exact delivery_answer _ _ _
  · exact delivery_awaitResult _ _ _
  · split
    · exact delivery_awaitResult _ _ _
    · split
      · exact delivery_answer _ _ _
      · rfl

theorem delivery_awaitReply (session : Session V) (id : Nat) (call : Call V) :
    (session.awaitReply id call).delivery = session.delivery := by
  unfold awaitReply
  split
  case h_1 response _ =>
    unfold acceptReply
    dsimp only
    split
    · exact delivery_answer _ _ _
    · split
      · exact delivery_awaitSignal _ _ _ _ _
      · split <;> exact delivery_answer _ _ _
  case h_2 => exact delivery_awaitResult _ _ _
  case h_3 =>
    split
    · exact delivery_awaitResult _ _ _
    · rfl

theorem begin_fed (session : Session V) (id : Nat) (call : Call V) :
    Fed session.delivery (session.begin id call).delivery := by
  unfold Session.begin
  dsimp only
  split
  · exact .of_same (delivery_awaitResult _ _ _)
  · exact .of_same (delivery_awaitResult _ _ _)
  · exact ((session.record (.started id)).abort_fed _).trans (.of_same (delivery_answer _ _ _))
  · exact .of_same (delivery_answer _ _ _)
  · split
    · exact .of_same (delivery_submit _ _ _)
    · exact .refl _

theorem resumeCall_fed (session : Session V) (id : Nat) :
    Fed session.delivery (session.resumeCall id).delivery := by
  unfold resumeCall
  split
  · exact .refl _
  · split
    · exact session.begin_fed _ _
    · unfold seekSlot
      split
      · exact .of_same (delivery_submit _ _ _)
      · exact .refl _
    · exact .of_same (delivery_awaitReply _ _ _)
    · split
      · exact .of_same (delivery_awaitSignal _ _ _ _ _)
      · exact .refl _
    · exact .of_same (delivery_awaitResult _ _ _)
    · exact .refl _
    · exact .refl _

theorem delivery_cancel (session : Session V) (id : Nat) :
    (session.cancel id).delivery = session.delivery := by
  unfold cancel
  split
  · rfl
  · split
    · exact delivery_noteHandles _
    · rfl

end Session

end BoundedScene
