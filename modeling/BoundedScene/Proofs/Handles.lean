import BoundedScene.Proofs.Deadlines

/-!
Contract: the handles of a scene, and that the loss of the last one is noticed.

Owns:
- `Unheld`, a scene without a handle, wherever handles can be held;
- `HandlesNoted`, the invariant that the backend of such a scene is ready.

A handle is given up by its owner, by a call that finishes, and by a cleanup that was run.
The last of these happens only in a turn of the backend, which looks for handles itself
before it waits again.

Does not own: what the backend does about it.
-/

namespace BoundedScene

open BoundedScene.Supervision (Control)

namespace Session

variable {V : Type} {session before after : Session V} {id : Nat} {call : Call V}

/-! ## Scenes without a handle -/

/-- Nobody holds a handle: no owner, no call under way, no cleanup in the table or in the
mailbox. -/
structure Unheld (session : Session V) : Prop where
  owners : ∀ handle ∈ session.handles, handle = false
  calls : ∀ (id : Nat) (call : Call V), session.calls[id]? = some call →
    call.isUnfinished = false
  props : ∀ prop ∈ session.props.props, prop.cleanup.any Cleanup.holdsHandle = false
  queued : ∀ envelope ∈ session.mailbox.queued, envelope.command.holdsHandle = false

theorem unheld_iff : session.anyHandle = false ↔ session.Unheld := by
  have calls : session.calls.any Call.isUnfinished = false
      ↔ ∀ (id : Nat) (call : Call V), session.calls[id]? = some call →
        call.isUnfinished = false := by
    simp only [List.any_eq_false, Bool.not_eq_true]
    constructor
    · intro finished id call found
      exact finished call (List.mem_of_getElem? found)
    · intro finished call member
      obtain ⟨id, found⟩ := List.mem_iff_getElem?.mp member
      exact finished id call found
  unfold anyHandle PropTable.holdsHandle
  simp only [Bool.or_eq_false_iff, calls, List.any_eq_false, id_eq, Bool.not_eq_true]
  constructor
  · rintro ⟨⟨⟨owners, calls⟩, props⟩, queued⟩
    exact ⟨owners, calls, props, queued⟩
  · rintro ⟨owners, calls, props, queued⟩
    exact ⟨⟨⟨owners, calls⟩, props⟩, queued⟩

/-- A call under way holds a handle. -/
theorem anyHandle_of_unfinished (found : session.calls[id]? = some call)
    (unfinished : call.isUnfinished = true) : session.anyHandle = true := by
  by_contra unheld
  rw [Bool.not_eq_true, unheld_iff] at unheld
  rw [unheld.calls id call found] at unfinished
  cases unfinished

/-! ## The last handle is noted -/

/-- Without a handle the backend is ready. -/
def Noted (session : Session V) : Prop :=
  session.anyHandle = false → .backend ∈ session.agenda.ready

theorem noted_of_unfinished (found : session.calls[id]? = some call)
    (unfinished : call.isUnfinished = true) : session.Noted := by
  intro unheld
  rw [anyHandle_of_unfinished found unfinished] at unheld
  cases unheld

theorem noted_noteHandles (session : Session V) : session.noteHandles.Noted := by
  intro unheld
  unfold noteHandles at unheld ⊢
  split
  case isTrue held =>
    rw [if_pos held, held] at unheld
    cases unheld
  case isFalse => exact Agenda.mem_wakeAll.mpr (.inl (List.mem_singleton.mpr rfl))

theorem noted_answer (session : Session V) (id : Nat) (answer : Answer V) :
    (session.answer id answer).Noted :=
  noted_noteHandles _

/-- A call that waits for something still holds its handle. -/
theorem noted_setStage {stage : Stage V} (found : session.calls[id]? = some call)
    (unfinished : ({ call with stage } : Call V).isUnfinished = true) :
    (session.setStage id stage).Noted := by
  have staged : (session.setStage id stage).calls[id]? = some { call with stage } := by
    rw [setStage, modifyCall_calls, found]
    simp
  exact noted_of_unfinished staged unfinished

section Turn

variable (found : session.calls[id]? = some call)
include found

theorem noted_awaitResult (request : Request V) : (session.awaitResult id request).Noted := by
  unfold awaitResult
  split
  · exact noted_answer _ _ _
  · exact noted_setStage found rfl

theorem noted_overtake (request : Request V) : (session.overtake id request).Noted := by
  have recorded : (session.record (.overtaken id)).calls[id]? = some call := found
  exact noted_awaitResult recorded request

theorem noted_submit (command : Command V) : (session.submit id command).Noted := by
  unfold submit
  split
  · exact noted_answer _ _ _
  · split
    · exact noted_setStage (show _ = some call from found) rfl
    · exact noted_setStage (show _ = some call from found) rfl

theorem noted_awaitSignal (topic : String) (deadline : Option Nat) :
    (session.awaitSignal id call topic deadline).Noted := by
  unfold awaitSignal
  split
  · exact noted_answer _ _ _
  · exact noted_overtake found call.request
  · split
    · exact noted_overtake found call.request
    · split
      · exact noted_answer _ _ _
      · exact noted_setStage found rfl

theorem noted_acceptReply (response : Response V) :
    (session.acceptReply id call response).Noted := by
  unfold acceptReply
  split
  · exact noted_answer _ _ _
  · split
    · have recorded (happening : Happening V) :
          (session.record happening).calls[id]? = some call := found
      exact noted_awaitSignal (recorded _) _ _
    · split <;> exact noted_answer _ _ _

theorem noted_awaitReply (waiting : call.isUnfinished = true) :
    (session.awaitReply id call).Noted := by
  unfold awaitReply
  split
  · exact noted_acceptReply found _
  · exact noted_overtake found call.request
  · split
    · have shut : (session.modifyCall id fun call => { call with reply := .closed }).calls[id]?
          = some { call with reply := .closed } := by
        rw [modifyCall_calls, found]
        simp
      exact noted_overtake shut call.request
    · exact noted_of_unfinished found waiting

theorem noted_begin (fresh : call.isUnfinished = true) : (session.begin id call).Noted := by
  have recorded : (session.record (.started id)).calls[id]? = some call := found
  have stopped : (session.record (.started id)).requestStop.calls[id]? = some call := found
  unfold begin
  dsimp only
  split
  · exact noted_awaitResult stopped _
  · exact noted_awaitResult recorded _
  · exact noted_answer _ _ _
  · exact noted_answer _ _ _
  · split
    · exact noted_submit recorded _
    · exact noted_of_unfinished recorded fresh

end Turn

theorem noted_resumeCall (noted : session.Noted) (id : Nat) : (session.resumeCall id).Noted := by
  unfold resumeCall
  cases found : session.calls[id]? with
  | none => exact noted
  | some call =>
      dsimp only
      cases stage : call.stage with
      | fresh => exact noted_begin found (by simp [Call.isUnfinished, stage])
      | seekingSlot =>
          dsimp only [seekSlot]
          split
          · exact noted_submit found _
          · exact noted
      | awaitingReply => exact noted_awaitReply found (by simp [Call.isUnfinished, stage])
      | awaitingSignal deadline =>
          dsimp only
          split
          · exact noted_awaitSignal found _ _
          · exact noted
      | awaitingResult => exact noted_awaitResult found _
      | finished => exact noted
      | dropped => exact noted

/-! ## The turn of the backend -/

/-- A backend that has processed every command goes on only if a handle is left. -/
theorem held_of_serve (commands : Nat) (serving : session.isServing)
    (enough : session.mailbox.queued.length ≤ commands)
    (runs : (session.serve commands).backendRuns = true) :
    (session.serve commands).anyHandle = true := by
  have ceased {log : List (Happening V)} {heralds : List Event} {error : Option SceneError}
      {before after : Session V} (cause : EndCause before log heralds error after)
      (runs : after.backendRuns = true) : after.anyHandle = true := by
    simp [backendRuns, cause.backend] at runs
  induction commands using Nat.strongRecOn generalizing session with
  | ind commands inductionHypothesis =>
      generalize served : session.serve commands = after at runs ⊢
      rw [serve_eq] at served
      split at served
      case isTrue stopped =>
        subst served
        exact ceased (.stopped stopped) runs
      case isFalse unstopped =>
        rw [Bool.not_eq_true] at unstopped
        split at served
        case h_1 due =>
          subst served
          exact ceased (.timedOut unstopped due) runs
        case h_2 envelope rest later undue taken =>
          subst served
          obtain ⟨backend, -, growth⟩ := serveOne_evolves serving envelope rest
          have shorter : (session.serveOne envelope rest).mailbox.queued.length ≤ later := by
            have queue := (take_queue taken).1
            rw [growth.mailbox]
            rw [queue, List.length_cons] at enough
            exact Nat.le_of_succ_le_succ enough
          exact inductionHypothesis later (Nat.lt_succ_self later)
            (serveOne_isServing serving envelope rest) shorter runs
        case h_3 envelope rest undue taken =>
          rw [(take_queue taken).1] at enough
          exact absurd enough (by simp)
        case h_4 undue idle =>
          split at served
          · subst served
            assumption
          case isFalse unheld =>
            subst served
            exact ceased (.abandoned unstopped undue idle (by simpa using unheld)) runs

theorem held_of_resumeBackend (runs : session.resumeBackend.backendRuns = true) :
    session.resumeBackend.anyHandle = true := by
  unfold resumeBackend at runs ⊢
  cases state : session.backend with
  | fresh =>
      rw [state] at runs
      have serving : session.openUp.isServing := ⟨_, _, rfl⟩
      exact held_of_serve _ serving (Nat.le_refl _) runs
  | serving absolute inactivity =>
      rw [state] at runs
      exact held_of_serve _ ⟨_, _, state⟩ (Nat.le_refl _) runs
  | _ =>
      rw [state] at runs
      simp [backendRuns, state] at runs

/-! ## Along a run -/

theorem backendRuns_resumeCall (id : Nat) (session : Session V) :
    (session.resumeCall id).backendRuns = session.backendRuns := by
  cases found : session.calls[id]? with
  | none =>
      unfold resumeCall
      rw [found]
  | some call =>
      obtain ⟨log, changes, mailbox, turn, growth, -⟩ := session.resumeCall_turnsBy id call found
      simp only [backendRuns, growth.backend]

theorem returned_of_resumeCall (id : Nat) (returned : (session.resumeCall id).backend = .returned) :
    session.backend = .returned := by
  cases found : session.calls[id]? with
  | none =>
      unfold resumeCall at returned
      rwa [found] at returned
  | some call =>
      obtain ⟨log, changes, mailbox, turn, growth, -⟩ := session.resumeCall_turnsBy id call found
      exact growth.backend.symm.trans returned

theorem returned_of_act (deed : Deed V) (returned : (session.act deed).backend = .returned) :
    session.backend = .returned := by
  cases deed with
  | cancel id =>
      cases found : session.calls[id]? with
      | none =>
          rw [act, cancel, found] at returned
          exact returned
      | some call =>
          cases unfinished : call.isUnfinished with
          | true => exact (session.cancel_evolves found unfinished).1.backend.symm.trans returned
          | false =>
              rw [act, cancel, found] at returned
              simp only [unfinished, Bool.false_eq_true, if_false] at returned
              exact returned
  | drop handle =>
      have growth :=
        noteHandles_evolves { session with handles := session.handles.set handle false }
      exact growth.backend.symm.trans returned
  | dropTasks => exact backend_dropTasks_returned.mp returned
  | _ => exact returned

/-- A backend that runs is ready when the last handle is gone. -/
def HandlesNoted (session : Session V) : Prop :=
  session.backendRuns = true → session.Noted

theorem noted_act (noted : session.HandlesNoted) (deed : Deed V) :
    (session.act deed).HandlesNoted := by
  intro runs
  cases deed with
  | call request =>
      have made : (session.makeCall request).calls[session.calls.length]? = some { request } := by
        show (session.calls ++ [({ request } : Call V)])[session.calls.length]? = _
        simp
      exact noted_of_unfinished made rfl
  | cancel id =>
      show (session.cancel id).Noted
      unfold cancel
      cases found : session.calls[id]? with
      | none =>
          rw [act, cancel, found] at runs
          exact noted runs
      | some call =>
          cases unfinished : call.isUnfinished with
          | true =>
              simp only [unfinished, if_true]
              exact noted_noteHandles _
          | false =>
              rw [act, cancel, found] at runs
              simp only [unfinished, Bool.false_eq_true, if_false] at runs ⊢
              exact noted runs
  | clone =>
      intro unheld
      have owned := (unheld_iff.mp unheld).owners true
        (List.mem_append_right session.handles (List.mem_singleton.mpr rfl))
      cases owned
  | drop handle => exact noted_noteHandles _
  | release lane count =>
      intro unheld
      exact Agenda.mem_wakeAll.mpr (.inr (noted runs unheld))
  | dropTasks =>
      rw [act, backendRuns_dropTasks] at runs
      cases runs

theorem HandlesNoted.move (noted : session.HandlesNoted) (move : Move V) :
    (session.move move).HandlesNoted := by
  have kept {task : SceneTask} (other : task ≠ .backend) (runs : session.backendRuns = true) :
      (session.dequeue task).Noted := by
    intro unheld
    exact (List.mem_erase_of_ne other.symm).mpr (noted runs unheld)
  intro runs
  cases move with
  | act deed => exact noted_act noted deed runs
  | resume task =>
      cases task with
      | backend =>
          intro unheld
          have held := @held_of_resumeBackend V (session.dequeue .backend) runs
          rw [show (session.dequeue .backend).resumeBackend.anyHandle = false from unheld] at held
          cases held
      | call id =>
          have ran : session.backendRuns = true := by
            have same := backendRuns_resumeCall id (session.dequeue (.call id))
            exact same.symm.trans runs
          have earlier : (session.dequeue (.call id)).Noted := kept (by simp) ran
          exact noted_resumeCall earlier id
      | delivery task =>
          intro unheld
          have earlier : (session.dequeue (.delivery task)).Noted := kept (by simp) runs
          exact Agenda.mem_wakeAll.mpr (.inr (earlier unheld))
  | serve commands =>
      unfold Session.move at runs ⊢
      dsimp only at runs ⊢
      split at runs
      · exact fun _ => Agenda.mem_wakeAll.mpr (.inl (List.mem_singleton.mpr rfl))
      · exact noted runs
  | reach instant =>
      intro unheld
      exact Agenda.mem_wakeAll.mpr (.inr (noted runs unheld))

theorem Reachable.handlesNoted (reachable : Reachable session) : session.HandlesNoted := by
  induction reachable with
  | created created =>
      intro _ _
      exact (isInitial_of_create? created).ready
  | moved move _ inductionHypothesis => exact inductionHypothesis.move move

end Session

end BoundedScene
