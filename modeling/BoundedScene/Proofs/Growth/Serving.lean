import BoundedScene.Proofs.Growth.Basic

/-!
Contract: what the functions of the backend change in a scene.

Owns:
- the effect of one command and of the teardown, read off the tables;
- for each function of the backend the growth of the scene and the tables that
  it replaces.

Main statements: `process_evolves` and `finish_evolves`.

Does not own: what the growth of a whole run amounts to.
-/

namespace BoundedScene

open BoundedScene.Supervision (Control)

namespace Session

variable {V : Type}

/-! ## Cleanups -/

/-- What running the cleanup of a removed prop puts into the journal, in a given
phase of the scene. -/
def cleanupLog (phase : Phase) (prop : StoredProp V) : List (Happening V) :=
  match prop.cleanup with
  | none => []
  | some cleanup =>
      let observed := match cleanup.act with
        | .observe => some phase
        | _ => none
      let aborts := match cleanup.act with
        | .abort cause => [.aborted cause]
        | _ => []
      aborts ++ [.cleaned { key := prop.key, value := prop.value, cleanup, observed }]

/-- The error of the cleanup of a removed prop, if it has one that fails. -/
def cleanupFailure? (prop : StoredProp V) : Option SceneError :=
  prop.cleanup.bind fun cleanup => cleanup.failure? prop.key

theorem runCleanup_failure (session : Session V) (prop : StoredProp V) :
    (session.runCleanup prop).1 = cleanupFailure? prop := by
  unfold runCleanup cleanupFailure?
  cases prop.cleanup <;> rfl

/-- Time passes while a cleanup runs, which is recorded at its end. -/
theorem pass_evolves (session : Session V) (run : CleanupRun V) (time : Span)
    (passes : run.cleanup.act = .pass time) :
    Evolves [.cleaned run] [] [] session
      ((session.performAct (.pass time)).record (.cleaned run)) := by
  have length : (Happening.cleaned run).duration = time.nanoseconds := by
    simp [Happening.duration, passes]
  exact { Evolves.refl session with
    journal := by simp [record, performAct, clock, Clock.pass, Record.sequence, length]
    agenda := by
      have whole : Happening.elapsed [Happening.cleaned run] = time.nanoseconds := by
        simp [Happening.elapsed, length]
      rw [whole]
      exact ⟨List.prefix_rfl, rfl, rfl⟩
    alerts := alerts_of_steady rfl fun _ _ _ _ => ⟨rfl, rfl⟩ }

theorem runCleanup_evolves (session : Session V) (prop : StoredProp V) :
    Evolves (cleanupLog session.phase prop) [] [] session (session.runCleanup prop).2 := by
  unfold runCleanup cleanupLog
  cases prop.cleanup with
  | none => exact Evolves.refl session
  | some cleanup =>
      dsimp only
      cases act : cleanup.act with
      | nothing => exact record_evolves session _ rfl rfl (by simp [Happening.duration, act])
      | abort cause =>
          exact (session.abort_evolves cause).trans
            (record_evolves _ _ rfl rfl (by simp [Happening.duration, act]))
      | observe => exact record_evolves session _ rfl rfl (by simp [Happening.duration, act])
      | pass time => exact session.pass_evolves _ time act

theorem runCleanups_evolves (props : List (StoredProp V)) (session : Session V) :
    (runCleanups props session).1 = props.filterMap cleanupFailure?
      ∧ Evolves (props.flatMap (cleanupLog session.phase)) [] [] session
          (runCleanups props session).2 := by
  induction props generalizing session with
  | nil => exact ⟨rfl, Evolves.refl session⟩
  | cons prop rest inductionHypothesis =>
      have head := session.runCleanup_evolves prop
      obtain ⟨failures, tail⟩ := inductionHypothesis (session.runCleanup prop).2
      rw [head.phase] at tail
      refine ⟨?_, head.trans tail⟩
      calc (runCleanups (prop :: rest) session).1
          = (session.runCleanup prop).1.toList
              ++ (runCleanups rest (session.runCleanup prop).2).1 := rfl
        _ = (cleanupFailure? prop).toList ++ rest.filterMap cleanupFailure? := by
            rw [failures, runCleanup_failure]
        _ = (prop :: rest).filterMap cleanupFailure? := by
            rw [List.filterMap_cons]
            cases cleanupFailure? prop <;> rfl

/-! ## Commands -/

/-- What carrying out a command amounts to: the response, the new tables, the
records of a cleanup and the waiters that are woken. -/
structure Effect (V : Type) where
  response : Response V
  props : PropTable V
  subscriptions : Subscriptions
  log : List (Happening V) := []
  woken : List Nat := []

/-- The effect of a command of a given caller. -/
def effect (session : Session V) (caller : Nat) : Command V → Effect V
  | .store prop =>
      match session.props.store prop with
      | .error error => ⟨.error error, session.props, session.subscriptions, [], []⟩
      | .ok props => ⟨.ok .done, props, session.subscriptions, [], []⟩
  | .fetch key =>
      ⟨(session.props.fetch key).map .value, session.props, session.subscriptions, [], []⟩
  | .dispose key =>
      match session.props.remove key with
      | .error error => ⟨.error error, session.props, session.subscriptions, [], []⟩
      | .ok (prop, props) =>
          { response := match cleanupFailure? prop with
              | some failure => .error failure
              | none => .ok (.value prop.value)
            props
            subscriptions := session.subscriptions
            log := cleanupLog session.phase prop }
  | .signal topic =>
      match session.subscriptions.signal session.listens topic with
      | (.error error, subscriptions) => ⟨.error error, session.props, subscriptions, [], []⟩
      | (.ok woken, subscriptions) => ⟨.ok .done, session.props, subscriptions, [], woken⟩
  | .subscribe topic =>
      ⟨.ok .done, session.props,
        session.subscriptions.subscribe session.listens topic caller, [], []⟩

/-- The event that tells of a processed command, when it woke `woken` waiters. -/
def announcement (command : Command V) (response : Response V) (woken : List Nat) : Event :=
  match response with
  | .error error => rejectedEvent error
  | .ok _ =>
      match command with
      | .store prop => (Event.plain .propStored).withKey prop.key
      | .fetch key => (Event.plain .propFetched).withKey key
      | .dispose key => (Event.plain .propDisposed).withKey key
      | .signal topic =>
          ((Event.plain .signalDelivered).withTopic topic).withCount woken.length
      | .subscribe topic => (Event.plain .waiterRegistered).withTopic topic

theorem isFromBackend_cleanupFailedEvent (error : SceneError) :
    (cleanupFailedEvent error).isFromBackend = true := by
  cases error <;> rfl

theorem isFromBackend_rejectedEvent (error : SceneError) :
    (rejectedEvent error).isFromBackend = true := by
  cases error <;> rfl

/-- A failed command changes nothing but the events. -/
theorem rejected_evolves (session : Session V) (error : SceneError) :
    Evolves [] [] [rejectedEvent error] session
      (session.publishFailure (.error error : Response V)) :=
  session.publishOwn_evolves _ (isFromBackend_rejectedEvent error)

theorem dispose_evolves (session : Session V) (caller : Nat) (key : String) :
    (session.dispose key).1 = (session.effect caller (.dispose key)).response
      ∧ Evolves (session.effect caller (.dispose key)).log []
          [announcement (.dispose key) (session.dispose key).1 []]
          { session with props := (session.effect caller (.dispose key)).props }
          ((session.dispose key).2.publishFailure (session.dispose key).1) := by
  cases taken : session.props.remove key with
  | error error =>
      simp only [effect, dispose, taken]
      exact ⟨trivial, session.rejected_evolves error⟩
  | ok removed =>
      obtain ⟨prop, props⟩ := removed
      have failure := runCleanup_failure { session with props } prop
      have growth := runCleanup_evolves { session with props } prop
      simp only [effect, dispose, taken]
      generalize ({ session with props } : Session V).runCleanup prop = result at *
      obtain ⟨found, cleaned⟩ := result
      dsimp only at failure growth
      rw [← failure]
      cases found with
      | some error =>
          have rejected := growth.trans (cleaned.rejected_evolves error)
          rw [List.append_nil] at rejected
          exact ⟨rfl, rejected⟩
      | none =>
          have disposed := growth.trans
            (cleaned.publishOwn_evolves ((Event.plain .propDisposed).withKey key) rfl)
          rw [List.append_nil] at disposed
          exact ⟨rfl, disposed⟩

theorem execute_evolves (session : Session V) (caller : Nat) (command : Command V) :
    (session.execute caller command).1 = (session.effect caller command).response
      ∧ Evolves (session.effect caller command).log
          ((session.effect caller command).woken.map fun waiter => .signal waiter .raised)
          [announcement command (session.execute caller command).1
            (session.effect caller command).woken]
          { session with
            props := (session.effect caller command).props
            subscriptions := (session.effect caller command).subscriptions }
          ((session.execute caller command).2.publishFailure
            (session.execute caller command).1) := by
  cases command with
  | store prop =>
      cases stored : session.props.store prop with
      | error error =>
          simp only [effect, execute, stored]
          exact ⟨trivial, session.rejected_evolves error⟩
      | ok props =>
          simp only [effect, execute, stored]
          exact ⟨trivial, publishOwn_evolves { session with props } _ rfl⟩
  | fetch key =>
      cases fetched : session.props.fetch key with
      | error error =>
          simp only [effect, execute, fetched]
          exact ⟨rfl, session.rejected_evolves error⟩
      | ok value =>
          simp only [effect, execute, fetched]
          exact ⟨rfl, session.publishOwn_evolves _ rfl⟩
  | dispose key =>
      obtain ⟨response, growth⟩ := session.dispose_evolves caller key
      have idle : (session.effect caller (.dispose key)).subscriptions = session.subscriptions
          ∧ (session.effect caller (.dispose key)).woken = [] := by
        unfold effect
        dsimp only
        split <;> exact ⟨rfl, rfl⟩
      rw [idle.1, idle.2]
      exact ⟨response, growth⟩
  | signal topic =>
      cases raised : session.subscriptions.signal session.listens topic with
      | mk result subscriptions =>
          cases result with
          | error error =>
              simp only [effect, execute, raised]
              exact ⟨trivial, rejected_evolves { session with subscriptions } error⟩
          | ok woken =>
              simp only [effect, execute, raised]
              have delivered :=
                (notifyAll_evolves .raised woken { session with subscriptions }).trans
                  (publishOwn_evolves _
                    (((Event.plain .signalDelivered).withTopic topic).withCount woken.length) rfl)
              simp only [List.append_nil] at delivered
              exact ⟨trivial, delivered⟩
  | subscribe topic =>
      refine ⟨rfl, ?_⟩
      have registered := session.publishOwn_evolves
        ((Event.plain .waiterRegistered).withTopic topic) rfl
      exact registered.withSubscriptions _

/-- The entry of the ledger for an envelope that is processed now. -/
def entryFor (session : Session V) (envelope : Envelope V) : Processed V where
  caller := envelope.caller
  command := envelope.command
  response := (session.effect envelope.caller envelope.command).response

/-- Processing an envelope carries out its command, publishes one event, notes
the response and only then gives it to the caller. -/
theorem process_evolves (session : Session V) (envelope : Envelope V) :
    Evolves
      ((session.effect envelope.caller envelope.command).log
        ++ [.processed (session.entryFor envelope)])
      ((session.effect envelope.caller envelope.command).woken.map
          (fun waiter => .signal waiter .raised)
        ++ [.reply envelope.caller (.filled (session.entryFor envelope).response)])
      [announcement envelope.command (session.entryFor envelope).response
        (session.effect envelope.caller envelope.command).woken]
      { session with
        props := (session.effect envelope.caller envelope.command).props
        subscriptions := (session.effect envelope.caller envelope.command).subscriptions }
      (session.process envelope) := by
  obtain ⟨response, carried⟩ := session.execute_evolves envelope.caller envelope.command
  have noted := carried.trans (record_evolves _ (.processed (session.entryFor envelope)) rfl)
  have answered := noted.trans
    (respond_evolves _ envelope.caller (.filled (session.entryFor envelope).response))
  have same : session.process envelope =
      (((session.execute envelope.caller envelope.command).2.publishFailure
        (session.execute envelope.caller envelope.command).1).record
          (.processed (session.entryFor envelope))).respond envelope.caller
            (.filled (session.entryFor envelope).response) := by
    simp only [entryFor, ← response]
    rfl
  rw [same]
  simp only [List.append_nil, response] at answered ⊢
  exact answered

/-! ## The end -/

theorem closeMailbox_evolves (session : Session V) :
    Evolves [] [] [] { session with mailbox := session.mailbox.close.1 } session.closeMailbox :=
  wakeAll_evolves _ _

theorem tearDown_evolves (session : Session V) :
    session.tearDown.1
        = (session.visiting.arrange session.props.props).filterMap cleanupFailure?
      ∧ Evolves
          ((session.visiting.arrange session.props.props).flatMap (cleanupLog session.phase))
          [] [] { session with props := {} } session.tearDown.2 :=
  runCleanups_evolves _ _

theorem releaseWaiters_evolves (session : Session V) :
    Evolves [] (session.subscriptions.allWaiters.map fun waiter => .signal waiter .released) []
      { session with subscriptions := {} } session.releaseWaiters :=
  notifyAll_evolves .released _ _

theorem dropQueued_evolves (session : Session V) :
    Evolves []
      (session.mailbox.queued.map fun envelope => .reply envelope.caller .closed) []
      { session with mailbox := { session.mailbox with queued := [] } } session.dropQueued := by
  have dropAll (envelopes : List (Envelope V)) (session : Session V) :
      Evolves [] (envelopes.map fun envelope => .reply envelope.caller .closed) [] session
        (envelopes.foldl (fun session envelope => session.respond envelope.caller .closed)
          session) := by
    induction envelopes generalizing session with
    | nil => exact Evolves.refl session
    | cons first rest inductionHypothesis =>
        exact (session.respond_evolves first.caller .closed).trans (inductionHypothesis _)
  exact dropAll session.mailbox.queued _

theorem storeResult_evolves (session : Session V) (own : Except SceneError Unit) :
    Evolves [.ended (session.control.resolve own)] [] []
      { session with backend := .returned } (session.storeResult own) := by
  have stored := session.record_updateControl_evolves (.ended (session.control.resolve own)) rfl
    (session.endingWatchers ++ session.resultWatchers)
    (fun _ member => List.mem_append_left _ member) (.inl rfl)
    (.inr fun _ member => List.mem_append_right _ member)
  exact (stored.withBackend .returned).trans
    (updateDelivery_evolves _ _ (Delivery.sceneEvents_tellEnd _) (Delivery.tellEnd_changes _))

/-- The events with which a scene ends, when `failures` came from the teardown of
`removed` props. -/
def farewell (removed : Nat) (cause : Option SceneError) (failures : List SceneError) :
    List Event :=
  ((Event.plain .sceneEnding).withCount removed :: failures.map cleanupFailedEvent)
    ++ [endedEvent removed (ownResult cause failures)]

/-- What the teardown of a scene puts into the journal. -/
def teardownLog (session : Session V) : List (Happening V) :=
  (session.visiting.arrange session.props.props).flatMap
    (cleanupLog (session.phase.later .ending))

/-- The failures of a teardown, in the order in which it visits the props. -/
def teardownFailures (session : Session V) : List SceneError :=
  (session.visiting.arrange session.props.props).filterMap cleanupFailure?

/-- The result that is stored when the backend ends because of `cause`. -/
def terminalResult (session : Session V) (cause : Option SceneError) :
    Except SceneError Unit :=
  (session.teardownLog.foldl steer session.control).resolve
    (ownResult cause session.teardownFailures)

theorem isFromBackend_endedEvent (removed : Nat) (own : Except SceneError Unit) :
    (endedEvent removed own).isFromBackend = true := by
  cases own <;> rfl

/-- The first half of the end: the scene is announced to end, the mailbox is
closed, every cleanup is run and its failure published. -/
theorem tearDown_published_evolves (session : Session V) :
    let closed := (({ session with phase := session.phase.later .ending }).publish
      ((Event.plain .sceneEnding).withCount session.props.size)).closeMailbox
    closed.tearDown.1 = session.teardownFailures
      ∧ Evolves session.teardownLog []
          ((Event.plain .sceneEnding).withCount session.props.size
            :: session.teardownFailures.map cleanupFailedEvent)
          { session with
            phase := session.phase.later .ending
            mailbox := session.mailbox.close.1
            props := {} }
          ((closed.tearDown.1.map cleanupFailedEvent).foldl publish closed.tearDown.2) := by
  intro closed
  have announced := publishOwn_evolves { session with phase := session.phase.later .ending }
    ((Event.plain .sceneEnding).withCount session.props.size) rfl
  have shut : Evolves [] [] [(Event.plain .sceneEnding).withCount session.props.size]
      { session with
        phase := session.phase.later .ending
        mailbox := session.mailbox.close.1 } closed :=
    (announced.withMailbox session.mailbox.close.1).trans (closeMailbox_evolves _)
  obtain ⟨failures, torn⟩ := closed.tearDown_evolves
  have sameOrder : closed.visiting.arrange closed.props.props =
      session.visiting.arrange session.props.props := by rw [shut.visiting, shut.props]
  rw [sameOrder] at failures torn
  rw [shut.phase] at torn
  refine ⟨failures, ?_⟩
  have published := publishAll_evolves (closed.tearDown.1.map cleanupFailedEvent)
    (fun event member => by
      obtain ⟨failure, _, rfl⟩ := List.mem_map.mp member
      exact isFromBackend_cleanupFailedEvent failure) closed.tearDown.2
  have whole := ((shut.withProps {}).trans torn).trans published
  rw [failures] at whole ⊢
  simp only [List.nil_append, List.append_nil, List.singleton_append] at whole
  exact whole

/-- The end removes every prop, every waiter and every queued command, runs the
cleanups in visiting order and stores the terminal result last. -/
theorem finish_evolves (session : Session V) (cause : Option SceneError) :
    Evolves
      (session.teardownLog ++ [.ended (session.terminalResult cause)])
      ((session.subscriptions.allWaiters.map fun waiter => .signal waiter .released)
        ++ session.mailbox.queued.map fun envelope => .reply envelope.caller .closed)
      (farewell session.props.size cause session.teardownFailures)
      { session with
        phase := (session.phase.later .ending).later .ended
        mailbox := { session.mailbox.close.1 with queued := [] }
        props := {}
        subscriptions := {}
        backend := .returned }
      (session.finish cause) := by
  obtain ⟨failures, torn⟩ := session.tearDown_published_evolves
  unfold finish
  dsimp only at failures torn ⊢
  rw [failures] at torn ⊢
  generalize List.foldl publish _ _ = cleaned at torn ⊢
  have released := (torn.withSubscriptions {}).trans cleaned.releaseWaiters_evolves
  rw [torn.subscriptions] at released
  have told := (released.withPhase ((session.phase.later .ending).later .ended)).trans
    (publishOwn_evolves _ (endedEvent session.props.size (ownResult cause session.teardownFailures))
      (isFromBackend_endedEvent _ _))
  have samePhase : cleaned.releaseWaiters.phase = session.phase.later .ending := released.phase
  rw [samePhase]
  generalize publish _ _ = last at told ⊢
  have dropped := (told.withMailbox { session.mailbox.close.1 with queued := [] }).trans
    (by simpa only [told.mailbox] using last.dropQueued_evolves)
  have stored := (dropped.withBackend .returned).trans
    (storeResult_evolves _ (ownResult cause session.teardownFailures))
  rw [dropped.control] at stored
  simpa [farewell, terminalResult, Mailbox.close] using stored

end Session

end BoundedScene
