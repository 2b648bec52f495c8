import BoundedScene.Proofs.Phases
import BoundedScene.Proofs.Receivers
import Mathlib.Data.List.Induction

/-!
Contract: a scene that nothing else makes end lives as long as it has a handle.

Owns:
- `Unforced`, a scene that nobody and no deadline made end;
- what the turn of a backend makes of a scene without a handle;
- `WoundUp`, how a scene ends that only lost its handles.

Main statement: `last_handle_ends_scene`.

Does not own: that the workers of the subscribers come to an end.
-/

namespace BoundedScene

open BoundedScene.Supervision (Control)

namespace Session

variable {V : Type} {session before after : Session V} {id : Nat} {call : Call V}

/-! ## Scenes that nothing makes end -/

/-- Nobody asked for a stop or an abort, no deadline fired, and the tasks were not
destroyed. -/
structure Unforced (session : Session V) : Prop where
  kept : session.control.lost = false
  unasked : session.happenings.any Happening.asksToStop = false
  undue : ∀ happening ∈ session.happenings, happening.deadline? = none

theorem Unforced.earlier (unforced : after.Unforced) (later : Later before after) :
    before.Unforced where
  kept := by
    cases lost : before.control.lost with
    | false => rfl
    | true =>
        have still := later.lost lost
        rw [unforced.kept] at still
        cases still
  unasked := by
    have calm := unforced.unasked
    rw [List.any_eq_false] at calm ⊢
    exact fun happening member => calm happening (later.happenings.subset member)
  undue happening member := unforced.undue happening (later.happenings.subset member)

theorem Unforced.along (unforced : after.Unforced) (passed : Passed before)
    (run : Advances before after) : before.Unforced := by
  induction run with
  | refl => exact unforced
  | tail earlier step inductionHypothesis =>
      have steered := (passed.advances earlier).steered
      exact inductionHypothesis (unforced.earlier (step.later steered))

/-- A scene that nothing makes end is not about to end as long as its backend runs. -/
theorem Unforced.ongoing (unforced : session.Unforced) (steered : session.Steered)
    (runs : session.backendRuns = true) : session.control.ending = false := by
  have unstopped : session.control.stopRequested = false := by
    rw [steered.asked runs]
    exact unforced.unasked
  exact steered.ongoing runs unstopped

/-- Calls that are over stay over when none is moved. -/
theorem finished_of_unmoved {changes : List (CallChange V)}
    (calls : ∀ id : Nat, after.calls[id]? = before.calls[id]?.map (Call.applyAll id changes))
    (unmoved : ∀ id, ∀ change ∈ changes, change.moved? ≠ some id)
    (finished : ∀ (id : Nat) (call : Call V), before.calls[id]? = some call →
      call.isUnfinished = false) :
    ∀ (id : Nat) (call : Call V), after.calls[id]? = some call → call.isUnfinished = false := by
  intro id call found
  obtain ⟨old, present, stage, -⟩ := origin_of_unmoved calls (unmoved id) found
  have ended := finished id old present
  unfold Call.isUnfinished at ended ⊢
  rwa [← stage]

section Ends

variable {log : List (Happening V)} {heralds : List Event} {error : Option SceneError}

/-- Such a scene ends only because no handle is left, and with an empty mailbox. -/
theorem EndCause.abandoned_of_unforced (cause : EndCause before log heralds error after)
    (serving : before.isServing) (steered : before.Steered) (unforced : after.Unforced) :
    log = [.concluded none] ∧ before.mailbox.queued = [] ∧ before.anyHandle = false := by
  have happenings := cause.happenings
  cases cause with
  | stopped stopped =>
      have asked := steered.asked serving.runs
      have calm := unforced.unasked
      rw [happenings, List.any_append, ← asked, stopped] at calm
      cases calm
  | @timedOut kind after unstopped due =>
      have fired := unforced.undue (.concluded (some (kind, after))) (by simp [happenings, endLog])
      cases fired
  | abandoned unstopped undue idle unheld =>
      refine ⟨rfl, ?_, unheld⟩
      unfold Mailbox.take? at idle
      split at idle
      · assumption
      · cases idle

theorem unheld_of_end (cause : EndCause before log heralds error after)
    (unheld : before.anyHandle = false) : after.anyHandle = false := by
  have growth := cause.evolves
  have earlier := unheld_iff.mp unheld
  rw [unheld_iff]
  constructor
  case owners =>
    rw [growth.handles]
    exact earlier.owners
  case calls => exact finished_of_unmoved growth.calls before.unmoved_endChanges earlier.calls
  case props =>
    rw [growth.props]
    nofun
  case queued =>
    rw [growth.mailbox]
    nofun

end Ends

/-- Nothing arrives any more once the backend is gone. -/
theorem Chronicle.arrivals_of_halted (chronicle : before.Chronicle)
    (halted : before.backendRuns = false) (step : Advance before after) :
    after.arrivals = before.arrivals := by
  have still {log : List (Happening V)} (happenings : after.happenings = before.happenings ++ log)
      (unarrived : log.filterMap Happening.arrival? = []) : after.arrivals = before.arrivals := by
    rw [arrivals_of_happenings happenings, unarrived, List.append_nil]
  cases step with
  | drifts growth => exact still growth.happenings rfl
  | makes request => exact still (before.makeCall_evolves request).happenings rfl
  | turns found =>
      obtain ⟨log, changes, mailbox, turn, growth, -⟩ := before.resumeCall_turnsBy _ _ found
      refine still growth.happenings ?_
      rcases turn.queue.2.2 with none | ⟨unclosed, -⟩
      · exact none
      · rw [(chronicle.stopped halted).1] at unclosed
        cases unclosed
  | cancels found unfinished =>
      exact still (before.cancel_evolves found unfinished).1.happenings rfl
  | opens fresh => exact absurd fresh (not_fresh_of_halted halted)
  | processes serving => exact absurd serving (not_serving_of_halted halted)
  | ends serving => exact absurd serving (not_serving_of_halted halted)
  | loses => exact still (List.append_nil _).symm rfl

/-- The journal of a scene that ended for want of handles.

- `order`: first commands were served, then the backend ended on its own, then came the
  teardown, and then the result was stored;
- `arrived`: all commands that ever arrived were served, in the order of their arrival;
- `cleaned`: the teardown ran the cleanups of all props that were left, in its order. -/
structure TornDown (session : Session V) (served torn late : List (Happening V))
    (result : Except SceneError Unit) : Prop where
  order : session.happenings = served ++ .concluded none :: (torn ++ .ended result :: late)
  arrived : (served.filterMap Happening.processed?).map Processed.envelope = session.arrivals
  cleaned : (torn.filterMap Happening.cleaned?).map CleanupRun.prop
    = session.remains.filter StoredProp.hasCleanup
  ledger : session.ledger = served.filterMap Happening.processed?
  outcome : session.control.outcome = some result

theorem tornDown_of_end {log : List (Happening V)} {heralds : List Event}
    {error : Option SceneError} (passed : Passed before) (serving : before.isServing)
    (cause : EndCause before log heralds error after) (unforced : after.Unforced) :
    ∃ result, after.TornDown before.happenings before.teardownLog [] result := by
  have happenings := cause.happenings
  obtain ⟨rfl, empty, -⟩ := cause.abandoned_of_unforced serving passed.steered unforced
  have cleaned := cause.cleaned_endLog
  refine ⟨before.resultAfter [.concluded none] error, ?_⟩
  constructor
  case order =>
    rw [happenings]
    simp [endLog]
  case arrived =>
    have split := (passed.chronicle.running serving.runs).2
    rw [empty, List.append_nil] at split
    rw [cause.arrivals]
    exact split.symm
  case cleaned =>
    unfold remains
    rw [cause.visiting, cause.ledger, ← passed.holding.kept serving.runs, ← cleaned]
    simp [endLog, List.filterMap_cons, Happening.cleaned?]
  case ledger => exact cause.ledger
  case outcome => exact cause.outcome

theorem Advance.visiting (step : Advance before after) : after.visiting = before.visiting := by
  cases step.course with
  | calm calm happenings control visiting => exact visiting
  | @serves envelope rest serving unstopped taken served =>
      subst served
      obtain ⟨backend, -, growth⟩ := serveOne_evolves serving envelope rest
      exact growth.visiting
  | ends serving cause => exact cause.visiting
  | loses lost =>
      subst lost
      rfl

/-- A scene that nothing else made end has wound up in good order. -/
theorem Passed.tornDown (passed : Passed session) (returned : session.backend = .returned)
    (unforced : session.Unforced) :
    ∃ served torn late result, session.TornDown served torn late result := by
  induction passed with
  | initial initial =>
      rw [initial.backend] at returned
      cases returned
  | @advance before after passed step inductionHypothesis =>
      have earlier := unforced.earlier (step.later passed.steered)
      cases runs : before.backendRuns with
      | true =>
          cases step.course with
          | calm calm happenings control visiting limits props subscriptions backend =>
              rcases backend with same | ⟨-, still⟩
              · rw [same] at returned
                simp [backendRuns, returned] at runs
              · simp [backendRuns, returned] at still
          | @serves envelope rest serving unstopped taken served =>
              subst served
              exact absurd (serveOne_isServing serving envelope rest)
                (not_serving_of_returned returned)
          | ends serving cause =>
              obtain ⟨result, wound⟩ := tornDown_of_end passed serving cause unforced
              exact ⟨_, _, _, result, wound⟩
          | loses lost =>
              subst lost
              have stopped := backend_dropTasks_returned.mp returned
              simp [backendRuns, stopped] at runs
      | false =>
          have silenced := silenced_of_halted runs step
          have arrivals := passed.chronicle.arrivals_of_halted runs step
          have stopped := silenced.backend.symm.trans returned
          obtain ⟨served, torn, late, result, wound⟩ := inductionHypothesis stopped earlier
          have unmoved := (passed.ended wound.outcome).unmoved step
          obtain ⟨log, grown⟩ := (step.later passed.steered).happenings
          refine ⟨served, torn, late ++ log, result, ?_⟩
          constructor
          case order => simp [← grown, wound.order]
          case arrived => exact wound.arrived.trans arrivals.symm
          case cleaned =>
            unfold remains
            rw [step.visiting, unmoved.ledger]
            exact wound.cleaned
          case ledger => exact unmoved.ledger.trans wound.ledger
          case outcome => exact unmoved.outcome.trans wound.outcome

/-! ## The turn of a backend without handles -/

/-- The props after a command are old ones, but for one that the command brought. -/
theorem mem_keep {props : List (StoredProp V)} {entry : Processed V} {prop : StoredProp V}
    (member : prop ∈ Processed.keep props entry) : prop ∈ props ∨ entry.command = .store prop := by
  unfold Processed.keep at member
  split at member
  case h_1 stored command response =>
    rcases List.mem_append.mp member with old | new
    · exact .inl old
    · rw [List.mem_singleton.mp new]
      exact .inr command
  case h_2 => exact .inl (List.mem_filter.mp member).1
  case h_3 => exact .inl member

/-- Serving a command creates no handle. -/
theorem unheld_serveOne {envelope : Envelope V} {rest : Mailbox (Envelope V) × Option Nat}
    (serving : before.isServing) (taken : before.mailbox.take? = some (envelope, rest))
    (unheld : before.anyHandle = false) : (before.serveOne envelope rest).anyHandle = false := by
  obtain ⟨backend, -, growth⟩ := serveOne_evolves serving envelope rest
  have earlier := unheld_iff.mp unheld
  have queue := (take_queue taken).1
  generalize before.serveOne envelope rest = after at growth ⊢
  rw [unheld_iff]
  constructor
  case owners =>
    rw [growth.handles]
    exact earlier.owners
  case calls =>
    exact finished_of_unmoved growth.calls (before.unmoved_serveChanges envelope) earlier.calls
  case props =>
    intro prop member
    rw [growth.props] at member
    replace member : prop ∈ (before.effect envelope.caller envelope.command).props.props := member
    rw [before.effect_props envelope] at member
    rcases mem_keep member with old | stored
    · exact earlier.props prop old
    · have brought := earlier.queued envelope (by rw [queue]; exact List.mem_cons_self ..)
      replace stored : envelope.command = .store prop := stored
      rw [stored] at brought
      exact brought
  case queued =>
    intro other member
    rw [growth.mailbox] at member
    exact earlier.queued other (by rw [queue]; exact List.mem_cons_of_mem _ member)

/-- What the backend does with a scene without handles, once it is serving: nothing arrives
and no handle comes up. -/
theorem serve_unheld (commands : Nat) (serving : session.isServing)
    (unheld : session.anyHandle = false) :
    (session.serve commands).anyHandle = false
      ∧ (session.serve commands).arrivals = session.arrivals :=
  serve_induction (fun reached => reached.anyHandle = false ∧ reached.arrivals = session.arrivals)
    (fun {reached envelope rest} held serving _ _ taken => by
      obtain ⟨backend, -, growth⟩ := serveOne_evolves serving envelope rest
      refine ⟨unheld_serveOne serving taken held.1, ?_⟩
      rw [arrivals_of_happenings growth.happenings, reached.unarrived_serveLog, List.append_nil]
      exact held.2)
    (fun held _ cause => by
      refine ⟨unheld_of_end cause held.1, ?_⟩
      rw [cause.arrivals]
      exact held.2)
    commands serving ⟨unheld, rfl⟩

theorem resumeBackend_unheld (unheld : session.anyHandle = false) :
    session.resumeBackend.anyHandle = false
      ∧ session.resumeBackend.arrivals = session.arrivals := by
  unfold resumeBackend
  cases state : session.backend with
  | fresh =>
      have serving : session.openUp.isServing := ⟨_, _, rfl⟩
      have growth := session.openUp_evolves
      have arrived : session.openUp.arrivals = session.arrivals :=
        (arrivals_of_happenings growth.happenings).trans (List.append_nil _)
      have served := serve_unheld session.openUp.mailbox.queued.length serving unheld
      exact ⟨served.1, served.2.trans arrived⟩
  | serving absolute inactivity => exact serve_unheld _ ⟨_, _, state⟩ unheld
  | _ => exact ⟨unheld, rfl⟩

/-- A running backend without a handle is ready, and its next turn processes everything
that arrived, in order, and ends the scene. -/
structure LetGo (session : Session V) : Prop where
  ready : .backend ∈ session.agenda.ready
  ends : (session.move (.resume .backend)).backendRuns = false
  serves : (session.move (.resume .backend)).Unforced →
    (session.move (.resume .backend)).ledger.map Processed.envelope
      = session.ledger.map Processed.envelope ++ session.mailbox.queued

theorem Reachable.letGo (reachable : Reachable session) (runs : session.backendRuns = true)
    (unheld : session.anyHandle = false) : session.LetGo := by
  have turn := @resumeBackend_unheld V (session.dequeue .backend) unheld
  have next := (reachable.moved (.resume .backend)).passed
  have same : session.move (.resume .backend) = (session.dequeue .backend).resumeBackend := rfl
  have ends : (session.move (.resume .backend)).backendRuns = false := by
    cases still : (session.move (.resume .backend)).backendRuns with
    | false => rfl
    | true =>
        rw [same] at still
        have held := held_of_resumeBackend still
        rw [turn.1] at held
        cases held
  refine ⟨reachable.handlesNoted runs unheld, ends, fun unforced => ?_⟩
  have returned : (session.move (.resume .backend)).backend = .returned := by
    rcases halted_cases ends with returned | lost
    · exact returned
    · have flagged := (next.steered.lost lost).1
      rw [unforced.kept] at flagged
      cases flagged
  obtain ⟨served, torn, late, result, wound⟩ := next.tornDown returned unforced
  have arrived : (session.move (.resume .backend)).arrivals = session.arrivals := turn.2
  rw [wound.ledger, wound.arrived, arrived]
  exact (reachable.passed.chronicle.running runs).2

/-! ## A scene goes on as long as there is a handle -/

/-- A backend that serves ends a scene that nothing makes end only without a handle. -/
theorem serve_forgoes (commands : Nat) (serving : session.isServing) (passed : Passed session)
    (returned : (session.serve commands).backend = .returned)
    (unforced : (session.serve commands).Unforced) :
    (session.serve commands).anyHandle = false :=
  (serve_induction (fun reached => Passed reached ∧ (reached.backend = .returned →
      reached.Unforced → reached.anyHandle = false))
    (fun held serving unstopped undue taken =>
      ⟨held.1.advance (.processes serving unstopped undue taken), fun returned _ =>
        absurd (serveOne_isServing serving _ _) (not_serving_of_returned returned)⟩)
    (fun held serving cause =>
      ⟨held.1.advance (.ends serving cause), fun _ unforced =>
        unheld_of_end cause (cause.abandoned_of_unforced serving held.1.steered unforced).2.2⟩)
    commands serving ⟨passed, fun returned _ => absurd serving (not_serving_of_returned returned)⟩).2
    returned unforced

/-- A move that ends a scene which nothing else makes end leaves no handle. -/
theorem Reachable.unheld_of_move (reachable : Reachable session)
    (runs : session.backendRuns = true) (move : Move V)
    (returned : (session.move move).backend = .returned)
    (unforced : (session.move move).Unforced) : (session.move move).anyHandle = false := by
  have ran {before : Session V} (same : before.backend = .returned)
      (running : before.backendRuns = true) : (session.move move).anyHandle = false := by
    simp [backendRuns, same] at running
  cases move with
  | act deed => exact ran (returned_of_act deed returned) runs
  | resume task =>
      cases task with
      | backend =>
          have dequeued : Passed (session.dequeue .backend) :=
            reachable.passed.advance (.drifts (Evolves.refl _))
          have same : session.move (.resume .backend) = (session.dequeue .backend).resumeBackend :=
            rfl
          rw [same] at returned unforced ⊢
          unfold resumeBackend at returned unforced ⊢
          cases state : (session.dequeue .backend).backend with
          | fresh =>
              rw [state] at returned unforced
              have opened : Passed (session.dequeue .backend).openUp :=
                dequeued.advance (.opens state)
              exact serve_forgoes _ ⟨_, _, rfl⟩ opened returned unforced
          | serving absolute inactivity =>
              rw [state] at returned unforced
              exact serve_forgoes _ ⟨_, _, state⟩ dequeued returned unforced
          | returned => simp [backendRuns, show session.backend = .returned from state] at runs
          | lost => simp [backendRuns, show session.backend = .lost from state] at runs
      | call id =>
          have same := backendRuns_resumeCall id (session.dequeue (.call id))
          replace same :
              (session.move (.resume (.call id))).backendRuns = session.backendRuns := same
          rw [runs] at same
          exact ran returned same
      | delivery task => exact ran (show session.backend = .returned from returned) runs
  | serve commands =>
      cases state : session.backend with
      | serving absolute inactivity =>
          have same : session.move (.serve commands)
              = (session.serve commands).wakeAll [.backend] := by
            simp only [Session.move, state]
          rw [same] at returned unforced ⊢
          exact serve_forgoes commands ⟨_, _, state⟩ reachable.passed returned
            ⟨unforced.kept, unforced.unasked, unforced.undue⟩
      | _ =>
          have same : session.move (.serve commands) = session := by
            simp only [Session.move, state]
          rw [same] at returned
          exact ran returned runs
  | reach instant => exact ran (show session.backend = .returned from returned) runs

/-- As long as some handle is left, a scene that nothing makes end goes on. -/
theorem Reachable.runs_while_held (reachable : Reachable session)
    (runs : session.backendRuns = true) (schedule : List (Move V))
    (held : ∀ early late, schedule = early ++ late → (session.moves early).anyHandle = true)
    (unforced : (session.moves schedule).Unforced) :
    (session.moves schedule).backendRuns = true := by
  induction schedule using List.reverseRecOn with
  | nil => exact runs
  | append_singleton earlier move inductionHypothesis =>
      have last := held (earlier ++ [move]) [] (List.append_nil _).symm
      have reached := reachable.moves earlier
      rw [moves_concat] at unforced last ⊢
      have before_ := unforced.along reached.passed ((session.moves earlier).move_advances move)
      have ran := inductionHypothesis
        (fun early late split => held early (late ++ [move]) (by rw [split, List.append_assoc]))
        before_
      cases still : ((session.moves earlier).move move).backendRuns with
      | true => rfl
      | false =>
          rcases halted_cases still with returned | lost
          · rw [reached.unheld_of_move ran move returned unforced] at last
            cases last
          · have flagged := ((reached.moved move).passed.steered.lost lost).1
            rw [unforced.kept] at flagged
            cases flagged

/-! ## The last handle -/

/-- A scene that takes commands. -/
structure IsOpen (session : Session V) : Prop where
  runs : session.backendRuns = true
  phase : session.phase = .active
  ongoing : session.control.ending = false
  unset : session.control.outcome = none

/-- A scene that has ended with a result because no handle was left.

- `journal`: everything that arrived was processed before the teardown;
- `cleanups`: every accepted cleanup was run, and no prop is left;
- `verdict`: the result is that of the first cleanup that failed in the teardown, if one did;
- `events`: the stream of the scene is complete, and tells of no deadline. -/
structure WoundUp (session : Session V) (result : Except SceneError Unit) : Prop where
  journal : ∃ served torn late, session.TornDown served torn late result
  cleanups : (session.cleanups.map CleanupRun.prop).Perm
    (session.ledger.filterMap Processed.acceptedCleanup?)
  props : session.props = {}
  verdict : result = ownResult none (session.remains.filterMap cleanupFailure?)
  phase : session.phase = .ended
  unfired : session.fired? = none
  events : session.TellsAll session.remains.length (terminalReason result)

theorem Reachable.woundUp (reachable : Reachable session) (unforced : session.Unforced)
    {result : Except SceneError Unit} (set : session.control.outcome = some result) :
    session.WoundUp result := by
  have passed := reachable.passed
  have returned := (passed.ended set).returned
  have halted : session.backendRuns = false := (passed.ended set).halted
  obtain ⟨served, torn, late, stored, wound⟩ := passed.tornDown returned unforced
  obtain rfl : stored = result := Option.some.inj (wound.outcome.symm.trans set)
  have props : session.props = {} := passed.holding.emptied halted
  have unfired : session.fired? = none :=
    List.findSome?_eq_none_iff.mpr fun happening member =>
      unforced.undue happening (List.takeWhile_subset _ member)
  have own : stored = session.ownVerdict := by
    have outcome := passed.outcome_eq returned
    have unaborted : firstAbort? session.happenings = none := by
      refine List.findSome?_eq_none_iff.mpr fun happening member => ?_
      have calm := List.any_eq_false.mp unforced.unasked happening (List.takeWhile_subset _ member)
      cases happening <;> first | rfl | exact absurd rfl calm
    rw [firstAbort?_history, unaborted, set] at outcome
    exact Option.some.inj outcome
  constructor
  case journal => exact ⟨served, torn, late, wound⟩
  case cleanups =>
    have accounted := passed.holding.accounted (by simp [returned])
    rwa [props, List.filter_nil, List.append_nil] at accounted
  case props => exact props
  case verdict =>
    rw [own, ownVerdict, unfired]
    rfl
  case phase => exact (passed.ended set).phase
  case unfired => exact unfired
  case events =>
    rw [own]
    exact reachable.tellsAll returned

/-- A scene between `session` and what a schedule makes of it, that nothing but the loss of
its handles makes end.

- `stays`: with a handle left all the time, it stays open;
- `leaves`: without one, the backend is about to process what is queued and to end;
- `completes`: once there is a result, everything was done;
- `closes`: at rest and without a handle there is a result, and once the workers are gone
  every receiver obtains what is kept for it, and then the end of the stream. -/
structure LivesByHandles (session : Session V) (schedule : List (Move V)) : Prop where
  stays : session.backendRuns = true →
    (∀ early late, schedule = early ++ late → (session.moves early).anyHandle = true) →
      (session.moves schedule).IsOpen
  leaves : (session.moves schedule).backendRuns = true →
    (session.moves schedule).anyHandle = false → (session.moves schedule).LetGo
  completes : ∀ result, (session.moves schedule).control.outcome = some result →
    (session.moves schedule).WoundUp result
  closes : (session.moves schedule).agenda.ready = [] →
    (session.moves schedule).anyHandle = false →
      (session.moves schedule).control.outcome.isSome = true
        ∧ ((session.moves schedule).delivery.workersGone = true →
          let later := session.moves schedule
          ∀ receiver, (later.delivery.feed.drain later.busClosed receiver).1
            = later.delivery.feed.gapBefore receiver
              ++ (later.delivery.feed.keptFor receiver).map Receipt.event ++ [.closed])

/-- The loss of the last handle ends a scene gracefully and completely. -/
theorem last_handle_ends_scene (reachable : Reachable session) (schedule : List (Move V))
    (unforced : (session.moves schedule).Unforced) : LivesByHandles session schedule := by
  have later := reachable.moves schedule
  constructor
  case stays =>
    intro runs held
    have ran := reachable.runs_while_held runs schedule held unforced
    have unreturned : (session.moves schedule).backend ≠ .returned := by
      intro returned
      simp [backendRuns, returned] at ran
    exact ⟨ran, later.passed.phase_of_unreturned unreturned,
      unforced.ongoing later.passed.steered ran, (later.passed.steered.running ran).1⟩
  case leaves => exact fun runs unheld => later.letGo runs unheld
  case completes => exact fun result set => later.woundUp unforced set
  case closes =>
    intro idle unheld
    have returned : (session.moves schedule).backend = .returned := by
      cases runs : (session.moves schedule).backendRuns with
      | true =>
          have ready := (later.letGo runs unheld).ready
          rw [idle] at ready
          cases ready
      | false =>
          rcases halted_cases runs with returned | lost
          · exact returned
          · have flagged := (later.passed.steered.lost lost).1
            rw [unforced.kept] at flagged
            cases flagged
    refine ⟨(later.passed.steered.returned returned).1, fun gone => ?_⟩
    intro settled receiver
    have closed : settled.busClosed = true := later.busClosed idle returned unheld gone
    rw [closed]
    exact settled.delivery.feed.drain_closed receiver

/-- A prop with a failing cleanup is stored, a caller queues one more store and gives up,
and the only handle is dropped. -/
def cancelAndDrop : List (Move Nat) :=
  let failing : Cleanup := { outcome := .fail (.foreign "jammed") }
  [.act (.call (.store "n" 1 (some failing))), .resume (.call 0), .resume .backend,
    .resume (.call 0), .act (.call (.store "m" 2 none)), .resume (.call 1), .act (.cancel 1),
    .act (.drop 0), .resume .backend]

theorem last_handle_ends_scene_cancelAndDrop :
    (plain.moves cancelAndDrop).agenda.ready = []
      ∧ (plain.moves cancelAndDrop).anyHandle = false
      ∧ (plain.moves cancelAndDrop).ledger.map Processed.caller = [0, 1]
      ∧ (plain.moves cancelAndDrop).control.outcome
        = some (.error (.cleanupFailed "n" (.foreign "jammed")))
      ∧ LivesByHandles plain cancelAndDrop := by
  have unforced : (plain.moves cancelAndDrop).Unforced :=
    ⟨by decide +kernel, by decide +kernel, by decide +kernel⟩
  refine ⟨by decide +kernel, by decide +kernel, by decide +kernel, rfl, ?_⟩
  exact last_handle_ends_scene reachable_plain cancelAndDrop unforced

end Session

end BoundedScene
