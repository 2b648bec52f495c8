import BoundedScene.Proofs.Noninterference
import BoundedScene.Proofs.Quiescence
import BoundedScene.Proofs.Timekeeping
import BoundedScene.Proofs.TurnsAhead

/-!
Contract: a scene without subscribers comes to rest, and strands nobody there.

Owns:
- `Alarmed`: whoever waited for a millisecond that was noticed is ready;
- `pending`, the turns ahead together with those that unnoticed time can cause;
- `Poll`, one poll of a task in any order, by which `pending` falls;
- the rest that a settled scene has come to.

Main statement: `no_caller_stranded`.

Does not own: what the tasks wait for at rest.
-/

namespace BoundedScene

namespace Session

variable {V : Type} {session before after : Session V} {busy : Option SceneTask} {id : Nat}
  {call : Call V}

/-! ## Deadlines that were noticed -/

/-- A call whose deadline has been noticed is ready, except perhaps the one whose turn it
is. -/
def Alarmed (session : Session V) (busy : Option SceneTask) : Prop :=
  ∀ (id : Nat) (call : Call V) (due : Nat), session.calls[id]? = some call →
    call.deadline? = some due → due ≤ session.clock.noticed → busy ≠ some (.call id) →
      .call id ∈ session.agenda.ready

theorem Alarmed.keep (alarmed : before.Alarmed busy)
    (queue : ∀ task ∈ before.agenda.ready, task ∈ after.agenda.ready)
    (noticed : after.clock.noticed = before.clock.noticed)
    (known : ∀ (id : Nat) (call : Call V), after.calls[id]? = some call →
      call.deadline?.isSome = true → busy ≠ some (.call id) →
        ∃ old : Call V, before.calls[id]? = some old ∧ old.deadline? = call.deadline?) :
    after.Alarmed busy := by
  intro id call due found waits lapsed idle
  obtain ⟨old, present, same⟩ := known id call found (by simp [waits]) idle
  exact queue _ (alarmed id old due present (same.trans waits) (noticed ▸ lapsed) idle)

theorem deadline?_of_stage {call other : Call V} (same : other.stage = call.stage) :
    other.deadline? = call.deadline? := by
  unfold Call.deadline?
  rw [same]

/-- A step that moves no call but perhaps the one whose turn it is. -/
theorem Alarmed.grow {log : List (Happening V)} {changes : List (CallChange V)}
    {events : List Event} {earlier : Session V} (alarmed : before.Alarmed busy)
    (growth : Evolves log changes events earlier after) (agenda : earlier.agenda = before.agenda)
    (calls : earlier.calls = before.calls)
    (unmoved : ∀ id, busy ≠ some (.call id) → ∀ change ∈ changes, change.moved? ≠ some id) :
    after.Alarmed busy := by
  refine alarmed.keep (fun task member => growth.ready task (agenda ▸ member))
    (growth.agenda.noticed.trans (congrArg (·.clock.noticed) agenda)) ?_
  intro id call found _ idle
  obtain ⟨old, present, stage, -⟩ := origin_of_unmoved growth.calls (unmoved id idle) found
  exact ⟨old, calls ▸ present, deadline?_of_stage stage⟩

theorem SignalTurn.undue {control : Supervision.Control SceneError} {clock : Clock}
    {topic : String} {deadline : Option Nat} {log : List (Happening V)} {stage : Stage V}
    (turn : SignalTurn control clock id call topic deadline log stage) {due : Nat}
    (waits : stage = .awaitingSignal (some due)) : clock.noticed < due := by
  cases turn with
  | raised => cases waits
  | overtaken lapsed turn => cases turn <;> cases waits
  | expired => cases waits
  | waits silent ongoing early =>
      cases waits
      simpa [Clock.isDue] using early

/-- A call that waits on after its turn has not reached its deadline. -/
theorem CallTurn.undue {log : List (Happening V)} {changes : List (CallChange V)}
    {mailbox : Mailbox (Envelope V)} (turn : CallTurn before id call log changes mailbox)
    {records : List (Happening V)} (story : Story before id call records) {due : Nat}
    (waits : (Call.applyAll id changes call).stage = .awaitingSignal (some due)) :
    before.clock.noticed < due := by
  have told {control : Supervision.Control SceneError} {request : Request V}
      {log : List (Happening V)} {stage : Stage V}
      (turn : ResultTurn control id request log stage) (same : stage = .awaitingSignal (some due)) :
      before.clock.noticed < due := by
    cases turn <;> cases same
  cases turn with
  | rests resting =>
      have waiting : call.stage = .awaitingSignal (some due) := waits
      simp [Call.isUnfinished, Call.awaitsReply, waiting] at resting
  | strays stray =>
      have waiting : call.stage = .awaitingSignal (some due) := waits
      rcases stray with ⟨seeks, -⟩ | ⟨deadline, -, other⟩
      · cases waiting.symm.trans seeks
      · cases story with
        | listening => exact absurd rfl (other _ _)
        | _ => cases waiting
  | stops fresh asks turn => exact told turn (by simpa [Call.apply] using waits)
  | waits fresh asks turn => exact told turn (by simpa [Call.apply] using waits)
  | aborts => simp [Call.apply] at waits
  | looks => simp [Call.apply] at waits
  | submits opens sends turn => cases turn <;> simp [Call.apply] at waits
  | replied waiting filled turn =>
      cases turn with
      | answered => simp [Call.apply] at waits
      | registered deadline asks accepted turn =>
          exact turn.undue (by simpa [Call.apply] using waits)
  | overtaken waiting lapsed turn => exact told turn (by simpa [Call.apply] using waits)
  | listens waiting asks turn => exact turn.undue (by simpa [Call.apply] using waits)
  | asks waiting turn => exact told turn (by simpa [Call.apply] using waits)

theorem Alarmed.turn (alarmed : before.Alarmed (some (.call id))) (chronicle : before.Chronicle) :
    (before.resumeCall id).Alarmed none := by
  cases found : before.calls[id]? with
  | none =>
      have still : before.resumeCall id = before := by
        unfold Session.resumeCall
        rw [found]
      rw [still]
      intro other call due present waits lapsed _
      refine alarmed other call due present waits lapsed fun same => ?_
      cases same
      cases found.symm.trans present
  | some call =>
      obtain ⟨log, changes, mailbox, turn, growth, -⟩ := before.resumeCall_turnsBy _ _ found
      have others : (before.resumeCall id).Alarmed (some (.call id)) :=
        alarmed.grow growth rfl rfl fun other elsewhere =>
          turn.moves_own fun same => elsewhere (by rw [same])
      intro other later due present waits lapsed _
      by_cases own : id = other
      · subst own
        rw [growth.calls, Option.map_eq_some_iff] at present
        obtain ⟨old, earlier, rfl⟩ := present
        obtain rfl : call = old := Option.some.inj (found.symm.trans earlier)
        have stage : (Call.applyAll id changes call).stage = .awaitingSignal (some due) := by
          unfold Call.deadline? at waits
          split at waits
          case h_1 deadline stage => rw [stage, waits]
          case h_2 => cases waits
        have undue := turn.undue (chronicle.stories _ _ found) stage
        have noticed : (before.resumeCall id).clock.noticed = before.clock.noticed :=
          growth.agenda.noticed
        omega
      · exact others other later due present waits lapsed fun same => own (by cases same; rfl)

theorem Alarmed.serve_while (commands : Nat) (alarmed : before.Alarmed (some .backend))
    (serving : before.isServing) : (before.serve commands).Alarmed (some .backend) :=
  serve_induction (Alarmed · (some .backend))
    (fun {session envelope _} held serving _ _ _ => by
      obtain ⟨backend, -, growth⟩ := serveOne_evolves serving envelope _
      exact held.grow growth rfl rfl fun id _ => session.unmoved_serveChanges envelope id)
    (fun {session _ _ _ _} held _ cause =>
      held.grow cause.evolves rfl rfl fun id _ => session.unmoved_endChanges id)
    commands serving alarmed

theorem Alarmed.resumeBackend (alarmed : before.Alarmed (some .backend)) :
    before.resumeBackend.Alarmed (some .backend) := by
  unfold Session.resumeBackend
  split
  case h_1 fresh =>
    have growth := before.openUp_evolves
    exact Alarmed.serve_while _ (alarmed.grow growth rfl rfl (by simp)) ⟨_, _, growth.backend⟩
  case h_2 absolute inactivity backend =>
    exact alarmed.serve_while _ ⟨absolute, inactivity, backend⟩
  case h_3 => exact alarmed

theorem Alarmed.act (alarmed : before.Alarmed none) (deed : Deed V) :
    (before.act deed).Alarmed none := by
  cases deed with
  | call request =>
      refine alarmed.keep (before.makeCall_evolves request).ready
        (before.makeCall_evolves request).agenda.noticed fun id call found waits _ => ?_
      have begun : call.stage ≠ .fresh := fun fresh => by simp [Call.deadline?, fresh] at waits
      obtain ⟨old, present, stage, -⟩ := origin_of_makeCall found begun
      exact ⟨old, present, deadline?_of_stage stage⟩
  | cancel id =>
      show (before.cancel id).Alarmed none
      cases found : before.calls[id]? with
      | none =>
          unfold Session.cancel
          rwa [found]
      | some call =>
          cases unfinished : call.isUnfinished with
          | false =>
              unfold Session.cancel
              rw [found]
              simpa [unfinished] using alarmed
          | true =>
              have growth := (before.cancel_evolves found unfinished).1
              refine alarmed.keep growth.ready growth.agenda.noticed fun id call left waits _ => ?_
              have kept : call.stage ≠ .dropped := fun gone => by
                simp [Call.deadline?, gone] at waits
              obtain ⟨old, present, stage, -⟩ := origin_of_cancel found unfinished left kept
              exact ⟨old, present, deadline?_of_stage stage⟩
  | clone => exact alarmed
  | drop handle =>
      exact alarmed.grow (noteHandles_evolves { before with
        handles := before.handles.set handle false }) rfl rfl (by simp)
  | release lane count => exact alarmed.grow (before.release_evolves lane count) rfl rfl (by simp)
  | dropTasks =>
      intro id call due found waits
      have finished := isUnfinished_dropTasks found
      unfold Call.deadline? at waits
      split at waits
      case h_1 stage => simp [Call.isUnfinished, stage] at finished
      case h_2 => cases waits

theorem mem_alarms_of_call {due : Nat} (found : session.calls[id]? = some call)
    (waits : call.deadline? = some due) :
    (⟨due, .call id⟩ : Alarm SceneTask) ∈ Turns.alarms session := by
  refine List.mem_append_right _ (List.mem_filterMap.mpr ⟨id, ?_, by simp [found, waits]⟩)
  exact List.mem_range.mpr (List.getElem?_eq_some_iff.mp found).1

theorem Alarmed.move (alarmed : before.Alarmed none) (steered : before.Steered)
    (chronicle : before.Chronicle) (move : Move V) : (before.move move).Alarmed none := by
  have released {after : Session V} (alarmed : after.Alarmed (some .backend)) :
      after.Alarmed none :=
    fun id call due found waits lapsed _ => alarmed id call due found waits lapsed (by simp)
  cases move with
  | act deed => exact alarmed.act deed
  | resume task =>
      have dequeued : (before.dequeue task).Alarmed (some task) :=
        fun id call due found waits lapsed idle =>
          (List.mem_erase_of_ne fun same => idle (by rw [same])).mpr
            (alarmed id call due found waits lapsed (by simp))
      cases task with
      | backend => exact released dequeued.resumeBackend
      | call id =>
          have drifted : Advance before (before.dequeue (.call id)) := .drifts (Evolves.refl _)
          exact dequeued.turn (chronicle.advance steered drifted)
      | delivery task =>
          have rested := dequeued.grow
            ((before.dequeue (.delivery task)).resumeDelivery_evolves task) rfl rfl (by simp)
          exact fun id call due found waits lapsed _ =>
            rested id call due found waits lapsed (by simp)
  | serve commands =>
      unfold Session.move
      dsimp only
      split
      case h_1 absolute inactivity backend =>
        have busy : before.Alarmed (some .backend) := fun id call due found waits lapsed _ =>
          alarmed id call due found waits lapsed (by simp)
        have served := busy.serve_while commands ⟨absolute, inactivity, backend⟩
        exact released (served.grow (wakeAll_evolves _ [.backend]) rfl rfl (by simp))
      case h_2 => exact alarmed
  | reach instant =>
      intro id call due found waits lapsed _
      have noticed : (before.move (.reach instant)).clock.noticed
          = (before.clock.reach instant).noticed :=
        congrArg Clock.noticed (Agenda.clock_wakeAll _ _)
      rw [noticed] at lapsed
      let ticked : Session V := Turns.withClock before (before.clock.reach instant)
      have armed : (⟨due, .call id⟩ : Alarm SceneTask) ∈ Turns.alarms ticked :=
        mem_alarms_of_call found waits
      exact Agenda.mem_wakeAll.mpr (.inl (Turns.mem_dueOwners armed (decide_eq_true lapsed)))

theorem Reachable.alarmed (reachable : Reachable session) : session.Alarmed none := by
  induction reachable with
  | created created =>
      intro id call due found
      simp [(isInitial_of_create? created).calls] at found
  | moved move reachable inductionHypothesis =>
      exact inductionHypothesis.move reachable.passed.steered reachable.passed.chronicle move

/-! ## Scenes without subscribers -/

/-- Nothing of the scene belongs to subscribers. -/
def Unwatched (session : Session V) : Prop :=
  session.bare = session

theorem unwatched_of_create? {settings : Settings} {visiting : VisitingOrder V}
    (created : create? settings [] visiting = some session) : session.Unwatched :=
  Option.some.inj ((bare_of_create? created).symm.trans created)

theorem Unwatched.isOwn (unwatched : session.Unwatched) {task : SceneTask}
    (ready : task ∈ session.agenda.ready) : task.isOwn = true := by
  have own : task ∈ session.bare.agenda.ready := unwatched.symm ▸ ready
  exact (List.mem_filter.mp own).2

/-- What belongs to subscribers has nothing to do. -/
theorem Unwatched.still (unwatched : session.Unwatched) (change : Delivery → Delivery)
    (same : change session.delivery.bare = session.delivery.bare) :
    session.updateDelivery change = session := by
  have bare : session.delivery.bare = session.delivery := congrArg delivery unwatched
  unfold updateDelivery
  rw [← bare, same]
  calc
    _ = ({ session with delivery := session.delivery.bare } : Session V) := rfl
    _ = session := by rw [bare]

theorem Unwatched.dequeue (unwatched : session.Unwatched) (task : SceneTask) :
    (session.dequeue task).Unwatched := by
  have own : session.agenda.ready.filter SceneTask.isOwn = session.agenda.ready :=
    congrArg (·.agenda.ready) unwatched
  have bare : session.delivery.bare = session.delivery := congrArg delivery unwatched
  unfold Unwatched Session.bare Session.dequeue
  dsimp only
  rw [← List.erase_filter, own, bare]

theorem Unwatched.move (unwatched : session.Unwatched) (move : Move V) :
    (session.move move).Unwatched := by
  cases move with
  | act deed =>
      have same := bare_act session deed
      rw [unwatched] at same
      cases deed with
      | release lane count =>
          have still : session.move (.act (.release lane count)) = session :=
            unwatched.still (fun delivery => delivery.permit lane count) rfl
          rwa [still]
      | _ => exact same
  | resume task =>
      have same := bare_resume task (session.dequeue task)
      rw [unwatched.dequeue task] at same
      cases task with
      | delivery task =>
          have still : session.move (.resume (.delivery task)) = session.dequeue (.delivery task) :=
            (unwatched.dequeue _).still (Delivery.resume task) (by cases task <;> rfl)
          rw [still]
          exact unwatched.dequeue _
      | _ => exact same
  | serve commands =>
      unfold Session.move
      dsimp only
      split
      · show ((session.serve commands).wakeAll [.backend]).bare = _
        rw [bare_wakeAll, bare_serve, unwatched]
        rfl
      · exact unwatched
  | reach instant =>
      show (Turns.reach instant session).bare = Turns.reach instant session
      rw [bare_reach, unwatched]

theorem Unwatched.moves (unwatched : session.Unwatched) (schedule : List (Move V)) :
    (session.moves schedule).Unwatched := by
  induction schedule generalizing session with
  | nil => exact unwatched
  | cons move later inductionHypothesis => exact inductionHypothesis (unwatched.move move)

/-! ## The price of the turns ahead -/

/-- The turns that the scene can still take before time has to pass: unnoticed time can rouse
the backend for either of its deadlines. -/
def pending (session : Session V) : Nat :=
  session.turnsAhead + if session.clock.isBehind then 3 else 0

theorem pending_le (session : Session V) : session.pending ≤ session.turnsAhead + 3 := by
  unfold pending
  split <;> omega

theorem turnsAhead_le_pending (session : Session V) : session.turnsAhead ≤ session.pending :=
  Nat.le_add_right _ _

/-- A task that is taken off the run queue has paid for its turn. -/
theorem pending_dequeue {task : SceneTask} (ready : task ∈ session.agenda.ready)
    (own : task.isOwn = true) : (session.dequeue task).pending + 1 = session.pending := by
  have queue : (session.dequeue task).bare.agenda.ready = session.bare.agenda.ready.erase task :=
    (List.erase_filter ..).symm
  have member : task ∈ session.bare.agenda.ready := List.mem_filter.mpr ⟨ready, own⟩
  have shorter := List.length_erase_add_one member
  have paid : (session.dequeue task).turnsAhead + 1 = session.turnsAhead := by
    show price (session.dequeue task).bare.agenda.ready.length session.clock.noticed session.calls
      session.mailbox session.subscriptions.allWaiters.length session.control
      session.backendRuns + 1 = _
    unfold turnsAhead price
    rw [queue]
    omega
  show (session.dequeue task).turnsAhead + (if session.clock.isBehind then 3 else 0) + 1 = _
  unfold pending
  omega

theorem pending_resumeCall (attentive : session.Attentive busy) (id : Nat) :
    (session.resumeCall id).pending ≤ session.pending := by
  have ahead := turnsAhead_resumeCall fun call found seeks unclosed =>
    attentive.lines.placed unclosed id ⟨call, found, seeks⟩
  have grown := (resume_idles (nofun : SceneTask.call id ≠ .backend) session).agenda
  have behind : (session.resumeCall id).clock.isBehind = session.clock.isBehind := by
    have now : (session.resumeCall id).clock.now = session.clock.now := grown.now
    have noticed : (session.resumeCall id).clock.noticed = session.clock.noticed := grown.noticed
    unfold Clock.isBehind Clock.millisecond
    rw [now, noticed]
  unfold pending
  rw [behind]
  omega

/-- The end is paid with the price of the backend. -/
theorem EndCause.pending {log : List (Happening V)} {heralds : List Event}
    {error : Option SceneError} (cause : EndCause before log heralds error after)
    (steered : before.Steered) (serving : before.isServing) :
    after.pending + 1 ≤ before.pending := by
  have unset := (steered.running serving.runs).1
  have ahead : after.turnsAhead + 4 ≤ before.turnsAhead := by
    cases cause with
    | stopped stopped => exact turnsAhead_finish serving.runs unset none
    | @timedOut kind length =>
        have concluded := before.turnsAhead_conclude (some (kind, length))
        have finished := @turnsAhead_finish V
          ((before.conclude (some (kind, length))).publish (timeoutEvent kind length))
          serving.runs unset (some (.timeout kind length))
        rw [turnsAhead_publish] at finished
        exact Nat.le_trans finished concluded
    | abandoned =>
        exact Nat.le_trans (@turnsAhead_finish V (before.conclude none) serving.runs unset none)
          (before.turnsAhead_conclude none)
  have late := after.pending_le
  have early := before.turnsAhead_le_pending
  omega

theorem pending_serveOne {envelope : Envelope V} {rest : Mailbox (Envelope V) × Option Nat}
    (taken : session.mailbox.take? = some (envelope, rest)) :
    (session.serveOne envelope rest).pending + 1 ≤ session.pending := by
  have ahead := turnsAhead_serveOne taken
  have late := (session.serveOne envelope rest).pending_le
  have early := session.turnsAhead_le_pending
  omega

theorem pending_serve (commands : Nat) (steered : session.Steered) (serving : session.isServing) :
    (session.serve commands).pending ≤ session.pending :=
  (serve_induction (fun later => later.Steered ∧ later.pending ≤ session.pending)
    (fun ⟨steered, held⟩ serving unstopped undue taken =>
      ⟨steered.advance (.processes serving unstopped undue taken),
        Nat.le_trans (Nat.le_of_succ_le (pending_serveOne taken)) held⟩)
    (fun ⟨steered, held⟩ serving cause =>
      ⟨steered.advance (.ends serving cause),
        Nat.le_trans (Nat.le_of_succ_le (cause.pending steered serving)) held⟩)
    commands serving ⟨steered, Nat.le_refl _⟩).2

/-- A backend that finds a command and may serve one has paid for another turn. -/
theorem pending_serve_some {commands : Nat} (some : 0 < commands)
    (queued : session.mailbox.queued ≠ []) (steered : session.Steered)
    (serving : session.isServing) :
    (session.serve commands).pending + 1 ≤ session.pending := by
  rw [serve_eq]
  split
  case isTrue stopped => exact (EndCause.stopped stopped).pending steered serving
  case isFalse unstopped =>
    rw [Bool.not_eq_true] at unstopped
    split
    case h_1 due => exact (EndCause.timedOut unstopped due).pending steered serving
    case h_2 later undue taken =>
      have served := pending_serve later
        (steered.advance (.processes serving unstopped undue taken))
        (serveOne_isServing serving _ _)
      have paid := pending_serveOne taken
      omega
    case h_3 => cases some
    case h_4 idle =>
      unfold Mailbox.take? at idle
      split at idle
      case h_1 empty => exact absurd empty queued
      case h_2 => cases idle

theorem pending_resumeBackend (steered : session.Steered) :
    session.resumeBackend.pending ≤ session.pending := by
  unfold Session.resumeBackend
  split
  case h_1 fresh =>
    have clock : session.openUp.clock = session.clock := Agenda.clock_wakeAll _ _
    have opened : session.openUp.pending = session.pending := by
      unfold pending
      rw [turnsAhead_openUp fresh, clock]
    rw [← opened]
    exact pending_serve _ (steered.advance (.opens fresh)) ⟨_, _, session.openUp_evolves.backend⟩
  case h_2 absolute inactivity backend =>
    exact pending_serve _ steered ⟨absolute, inactivity, backend⟩
  case h_3 => exact Nat.le_refl _

/-! ## Unnoticed time -/

theorem map_getElem?_range {α : Type} (items : List α) :
    (List.range items.length).map (fun index => items[index]?) = items.map some := by
  refine List.ext_getElem? fun index => ?_
  rw [List.getElem?_map, List.getElem?_map]
  by_cases inside : index < items.length
  · simp [inside]
  · simp [inside]

/-- A deadline that is noticed is paid with the second half of the wait for it. -/
theorem turnsAhead_noticed {earlier later : Nat} (call : Call V)
    (waits : ∀ due, call.deadline? = some due → earlier < due) :
    call.stage.turnsAhead later + (call.deadline?.any (decide <| · ≤ later)).toNat
      ≤ call.stage.turnsAhead earlier := by
  cases stage : call.stage with
  | awaitingSignal deadline =>
      cases deadline with
      | none => simp [Stage.turnsAhead, Call.deadline?, stage]
      | some due =>
          have early := waits due (by simp [Call.deadline?, stage])
          by_cases lapsed : due ≤ later
          · simp [Stage.turnsAhead, Call.deadline?, stage, early, lapsed, Nat.not_lt.mpr lapsed]
          · simp [Stage.turnsAhead, Call.deadline?, stage, early, lapsed, Nat.lt_of_not_le lapsed]
  | _ => simp [Stage.turnsAhead, Call.deadline?, stage]

theorem turnsAhead_noticedAll {earlier later : Nat} (calls : List (Call V))
    (waits : ∀ call ∈ calls, ∀ due, call.deadline? = some due → earlier < due) :
    (calls.map fun call => call.stage.turnsAhead later).sum
        + calls.countP (fun call => call.deadline?.any (decide <| · ≤ later))
      ≤ (calls.map fun call => call.stage.turnsAhead earlier).sum := by
  induction calls with
  | nil => exact Nat.le_refl _
  | cons first rest inductionHypothesis =>
      have now := @turnsAhead_noticed V _ later first (waits first (by simp))
      have others := inductionHypothesis fun call member =>
        waits call (List.mem_cons_of_mem _ member)
      rw [List.map_cons, List.sum_cons, List.map_cons, List.sum_cons, List.countP_cons]
      cases noticed : first.deadline?.any (decide <| · ≤ later) <;> simp [noticed] at now ⊢ <;>
        omega

/-- At most the backend, for either of its deadlines, and the calls whose deadlines are due
own alarms that are due. -/
theorem length_dueOwners (session : Session V) :
    (Turns.dueOwners session).length
      ≤ 2 + session.calls.countP
          fun call => call.deadline?.any (decide <| · ≤ session.clock.noticed) := by
  have callAlarms : (((List.range session.calls.length).filterMap fun id =>
      (session.calls[id]?.bind Call.deadline?).map fun due =>
        (⟨due, .call id⟩ : Alarm SceneTask)).filter fun alarm =>
          session.clock.isDue alarm.due).length
      = session.calls.countP fun call =>
        call.deadline?.any (decide <| · ≤ session.clock.noticed) := by
    rw [← List.countP_eq_length_filter, List.countP_filterMap]
    have numbered := congrArg
      (List.countP fun call? : Option (Call V) =>
        (call?.bind Call.deadline?).any (decide <| · ≤ session.clock.noticed))
      (map_getElem?_range session.calls)
    rw [List.countP_map, List.countP_map] at numbered
    refine Eq.trans (List.countP_congr fun id _ => ?_) numbered
    cases deadline : session.calls[id]?.bind Call.deadline? <;> simp [deadline, Clock.isDue]
  unfold Turns.dueOwners
  dsimp only
  rw [List.length_map, List.length_mergeSort]
  show (List.filter _ (_ ++ _)).length ≤ _
  rw [List.filter_append, List.length_append]
  refine Nat.add_le_add ?_ (Nat.le_of_eq callAlarms)
  refine Nat.le_trans (List.length_filter_le ..) ?_
  rw [List.length_map]
  cases session.backend with
  | serving absolute inactivity => cases absolute <;> cases inactivity <;> simp
  | _ => simp

/-- Time that is noticed once no task is ready rouses fewer tasks than were paid for. -/
theorem pending_reach (idle : session.agenda.ready = []) (behind : session.clock.isBehind = true)
    (alarmed : session.Alarmed none) :
    (Turns.reach session.clock.now session).pending + 1 ≤ session.pending := by
  have late : session.clock.noticed < session.clock.millisecond := of_decide_eq_true behind
  have reached : (session.clock.reach session.clock.now).noticed = session.clock.millisecond := by
    simp only [Clock.reach, Nat.max_self]
    exact Nat.max_eq_right (Nat.le_of_lt late)
  let ticked : Session V := Turns.withClock session (session.clock.reach session.clock.now)
  have clock : (Turns.reach session.clock.now session).clock
      = session.clock.reach session.clock.now := Agenda.clock_wakeAll _ _
  have caughtUp : (Turns.reach session.clock.now session).clock.isBehind = false := by
    rw [clock]
    refine decide_eq_false (Nat.not_lt.mpr (Nat.le_of_eq ?_))
    rw [reached, Clock.millisecond, Clock.millisecond, Clock.reach, Nat.max_self]
  have woken : (Turns.reach session.clock.now session).turnsAhead
      ≤ ticked.turnsAhead + (Turns.dueOwners ticked).length := ticked.turnsAhead_wakeAll _
  have owners : (Turns.dueOwners ticked).length
      ≤ 2 + session.calls.countP fun call =>
        call.deadline?.any (decide <| · ≤ session.clock.millisecond) := by
    have few := ticked.length_dueOwners
    rwa [show ticked.clock.noticed = session.clock.millisecond from reached] at few
  -- With no task ready, no deadline that was noticed before still counts.
  have calls := @turnsAhead_noticedAll V _ session.clock.millisecond session.calls
    fun call member due waits => by
      obtain ⟨id, found⟩ := List.getElem?_of_mem member
      by_contra noticed
      have ready := alarmed id call due found waits (Nat.le_of_not_lt noticed) (by simp)
      rw [idle] at ready
      cases ready
  have price : ticked.turnsAhead + session.calls.countP (fun call =>
      call.deadline?.any (decide <| · ≤ session.clock.millisecond)) ≤ session.turnsAhead := by
    show price session.bare.agenda.ready.length (session.clock.reach session.clock.now).noticed
      session.calls session.mailbox session.subscriptions.allWaiters.length session.control
      session.backendRuns + _ ≤ _
    rw [reached]
    unfold turnsAhead price
    omega
  unfold pending
  rw [caughtUp, behind]
  simp only [if_true, Bool.false_eq_true, if_false]
  omega

/-! ## Polls -/

/-- One poll, of any task that is ready.  The turn of a backend that serves may be cut short
after some commands; once no task is ready, time that passed during a turn is noticed. -/
inductive Poll (session : Session V) : Session V → Prop where
  | turn {task : SceneTask} (ready : task ∈ session.agenda.ready) :
      Poll session (session.move (.resume task))
  | cut {commands : Nat} (ready : .backend ∈ session.agenda.ready) (serving : session.isServing)
      (some : 0 < commands) (queued : session.mailbox.queued ≠ []) :
      Poll session (session.move (.serve commands))
  | notices (idle : session.agenda.ready = []) (behind : session.clock.isBehind = true) :
      Poll session (session.move (.reach session.clock.now))

/-- So many polls in a row. -/
inductive Polled : Nat → Session V → Session V → Prop where
  | none {session : Session V} : Polled 0 session session
  | more {polls : Nat} {before middle after : Session V} (poll : Poll before middle)
      (later : Polled polls middle after) : Polled (polls + 1) before after

/-- What holds of a scene without subscribers at every moment, as far as polls rely on it. -/
structure Orderly (session : Session V) : Prop where
  reachable : Reachable session
  unwatched : session.Unwatched

theorem Orderly.move (orderly : session.Orderly) (move : Move V) : (session.move move).Orderly :=
  ⟨.moved move orderly.reachable, orderly.unwatched.move move⟩

theorem Poll.orderly (poll : Poll before after) (orderly : before.Orderly) : after.Orderly := by
  cases poll <;> exact orderly.move _

/-- Every poll takes a turn that was paid for. -/
theorem Poll.pending (poll : Poll before after) (orderly : before.Orderly) :
    after.pending + 1 ≤ before.pending := by
  have steered := orderly.reachable.passed.steered
  have attentive := orderly.reachable.attentive
  cases poll with
  | @turn task ready =>
      have paid := pending_dequeue ready (orderly.unwatched.isOwn ready)
      cases task with
      | backend =>
          have drifted : Advance before (before.dequeue .backend) := .drifts (Evolves.refl _)
          have turned := pending_resumeBackend (steered.advance drifted)
          exact Nat.le_trans (Nat.succ_le_succ turned) (Nat.le_of_eq paid)
      | call id =>
          have turned := pending_resumeCall (attentive.dequeue (.call id)) id
          exact Nat.le_trans (Nat.succ_le_succ turned) (Nat.le_of_eq paid)
      | delivery task => cases orderly.unwatched.isOwn ready
  | @cut commands ready serving some queued =>
      have served := pending_serve_some some queued steered serving
      have still : .backend ∈ (before.serve commands).agenda.ready :=
        serve_induction (SceneTask.backend ∈ ·.agenda.ready)
          (fun {_ envelope rest} held serving _ _ _ => by
            obtain ⟨backend, -, growth⟩ := serveOne_evolves serving envelope rest
            exact growth.ready _ held)
          (fun held _ cause => cause.evolves.ready _ held) commands serving ready
      have same : before.move (.serve commands) = before.serve commands := by
        obtain ⟨absolute, inactivity, backend⟩ := serving
        unfold Session.move
        dsimp only
        rw [backend]
        show ({ before.serve commands with agenda := _ } : Session V) = _
        simp [Agenda.wakeAll, Agenda.wake, still]
      rw [same]
      exact served
  | notices idle behind => exact pending_reach idle behind orderly.reachable.alarmed

theorem Polled.pending {polls : Nat} (polled : Polled polls before after)
    (orderly : before.Orderly) : after.pending + polls ≤ before.pending := by
  induction polled with
  | none => exact Nat.le_refl _
  | more poll later inductionHypothesis =>
      have paid := poll.pending orderly
      have left := inductionHypothesis (poll.orderly orderly)
      omega

/-- A turn in the order of the run queue is a poll. -/
theorem poll_of_turn (turn : Turns.turn? before = some after) : Poll before after := by
  unfold Turns.turn? at turn
  split at turn
  case h_1 task later ready =>
    obtain rfl := Option.some.inj turn
    have ready : before.agenda.ready = task :: later := ready
    have taken : before.move (.resume task) = resume task
        ({ before with agenda := { before.agenda with ready := later } } : Session V) := by
      show resume task (before.dequeue task) = _
      unfold Session.dequeue
      rw [ready, List.erase_cons_head]
    show Poll before (resume task
      ({ before with agenda := { before.agenda with ready := later } } : Session V))
    rw [← taken]
    exact .turn (by simp [ready])
  case h_2 ready =>
    split at turn
    case isTrue behind =>
      obtain rfl := Option.some.inj turn
      exact .notices ready behind
    case isFalse => cases turn

/-- With turns enough, a run is a run of polls that ends at rest. -/
theorem Orderly.run {turns : Nat} (orderly : session.Orderly) (enough : session.pending ≤ turns) :
    (∃ polls, Polled polls session (Turns.run turns session))
      ∧ Turns.turn? (Turns.run turns session) = none := by
  induction turns generalizing session with
  | zero =>
      refine ⟨⟨0, .none⟩, ?_⟩
      cases turn : Turns.turn? session with
      | none => exact turn
      | some next =>
          have paid := (poll_of_turn turn).pending orderly
          omega
  | succ turns inductionHypothesis =>
      cases turn : Turns.turn? session with
      | none =>
          rw [Turns.run_of_rest turn]
          exact ⟨⟨0, .none⟩, turn⟩
      | some next =>
          have poll := poll_of_turn turn
          have paid := poll.pending orderly
          rw [Turns.run_of_turn turn]
          obtain ⟨⟨polls, polled⟩, rests⟩ := inductionHypothesis (poll.orderly orderly) (by omega)
          exact ⟨⟨polls + 1, .more poll polled⟩, rests⟩

/-! ## The bound -/

theorem turnsAhead_calls_le (noticed : Nat) (calls : List (Call V)) :
    (calls.map fun call => call.stage.turnsAhead noticed).sum ≤ 10 * calls.length := by
  have dearest (stage : Stage V) : stage.turnsAhead noticed ≤ 10 := by
    cases stage with
    | awaitingSignal deadline =>
        exact Nat.le_trans (Stage.turnsAhead_awaitingSignal noticed deadline).2 (by decide)
    | _ => simp [Stage.turnsAhead]
  induction calls with
  | nil => exact Nat.le_refl _
  | cons first rest inductionHypothesis =>
      rw [List.map_cons, List.sum_cons, List.length_cons]
      have own := dearest first.stage
      omega

theorem length_le_of_known {ids : List Nat} (distinct : ids.Nodup)
    (known : ∀ id ∈ ids, ∃ call, session.calls[id]? = some call) :
    ids.length ≤ session.calls.length := by
  have within : ids ⊆ List.range session.calls.length := fun id member => by
    obtain ⟨call, found⟩ := known id member
    exact List.mem_range.mpr (List.getElem?_eq_some_iff.mp found).1
  simpa using (List.subperm_of_subset distinct within).length_le

/-- The turns that the scene is allowed suffice. -/
theorem pending_le_sceneAllowance (reachable : Reachable session) :
    session.pending ≤ session.sceneAllowance := by
  have lines := reachable.attentive.lines
  have accounted := reachable.passed.accounted
  have ready : session.bare.agenda.ready.length ≤ session.agenda.ready.length :=
    List.length_filter_le _ _
  have calls := turnsAhead_calls_le session.clock.noticed session.calls
  have waiting : session.mailbox.waiting.length ≤ session.calls.length :=
    length_le_of_known (List.nodup_append.mp lines.distinct).2.1 fun id member => by
      obtain ⟨call, found, -⟩ := lines.sought id (List.mem_append_right _ member)
      exact ⟨call, found⟩
  have waiters : session.subscriptions.allWaiters.length ≤ session.calls.length :=
    length_le_of_known (List.nodup_append.mp accounted.once).2.1 fun id member =>
      (reachable.passed.chronicle.processed
        (accounted.known id (List.mem_append_right _ member))).1
  have control : session.control.turnsAhead session.calls.length
      ≤ 1 + session.calls.length + session.calls.length := by
    unfold Supervision.Control.turnsAhead
    refine Nat.add_le_add (Nat.add_le_add ?_ ?_) ?_ <;> split <;> omega
  have bound := session.pending_le
  unfold turnsAhead price Mailbox.turnsAhead at bound
  unfold sceneAllowance
  split at bound <;> omega

/-- A scene without subscribers comes to rest when it is settled. -/
theorem Orderly.settles (orderly : session.Orderly) : Turns.Settles session :=
  (orderly.run (Nat.le_trans (pending_le_sceneAllowance orderly.reachable)
    (Nat.le_add_right _ _))).2

/-! ## Nobody is stranded -/

/-- A poll does not destroy the task of the backend. -/
theorem Poll.lost (poll : Poll before after) : after.control.lost = before.control.lost := by
  have served (commands : Nat) {session : Session V} (serving : session.isServing) :
      (session.serve commands).control.lost = session.control.lost :=
    serve_induction (·.control.lost = session.control.lost)
      (fun {_ envelope rest} held serving _ _ _ => by
        obtain ⟨backend, -, growth⟩ := serveOne_evolves serving envelope rest
        rw [growth.control, foldl_steer_lost]
        exact held)
      (fun held _ cause => by
        rw [cause.evolves.control, foldl_steer_lost]
        exact held)
      commands serving rfl
  cases poll with
  | @turn task ready =>
      cases task with
      | backend =>
          show (before.dequeue .backend).resumeBackend.control.lost = _
          unfold Session.resumeBackend
          split
          case h_1 => exact served _ ⟨_, _, (before.dequeue .backend).openUp_evolves.backend⟩
          case h_2 absolute inactivity backend => exact served _ ⟨absolute, inactivity, backend⟩
          case h_3 => rfl
      | call id =>
          show ((before.dequeue (.call id)).resumeCall id).control.lost = _
          cases found : before.calls[id]? with
          | none =>
              unfold Session.resumeCall
              rw [show (before.dequeue (.call id)).calls[id]? = none from found]
              rfl
          | some call =>
              obtain ⟨log, changes, mailbox, -, growth, -⟩ :=
                (before.dequeue (.call id)).resumeCall_turnsBy _ _ found
              rw [growth.control, foldl_steer_lost]
              rfl
      | delivery task => rfl
  | @cut commands ready serving some queued =>
      obtain ⟨absolute, inactivity, backend⟩ := serving
      unfold Session.move
      dsimp only
      rw [backend]
      exact served commands ⟨absolute, inactivity, backend⟩
  | notices => rfl

theorem Polled.orderly {polls : Nat} (polled : Polled polls before after)
    (orderly : before.Orderly) : after.Orderly := by
  induction polled with
  | none => exact orderly
  | more poll later inductionHypothesis => exact inductionHypothesis (poll.orderly orderly)

theorem Polled.lost {polls : Nat} (polled : Polled polls before after) :
    after.control.lost = before.control.lost := by
  induction polled with
  | none => rfl
  | more poll later inductionHypothesis => exact inductionHypothesis.trans poll.lost

/-- What a scene promises to its callers.

- `atRest`: when no task is ready, nobody is stranded, unless the tasks were destroyed;
- `bounded`: polls in any order empty the run queue after finitely many;
- `settles`: the polls in the order of the run queue do so, and strand nobody. -/
structure Unstranding (session : Session V) : Prop where
  atRest : session.control.lost = false → session.agenda.ready = [] → session.Quiescent
  bounded : ∀ (polls : Nat) (after : Session V), Polled polls session after →
    polls ≤ session.sceneAllowance
  settles : ∃ polls, Polled polls session (Turns.settle session)
    ∧ (Turns.settle session).agenda.ready = []
    ∧ (session.control.lost = false → (Turns.settle session).Quiescent)

theorem atRest_of_idle (idle : session.agenda.ready = []) : session.AtRest := by
  unfold AtRest
  simp [idle]

/-- No caller is ever stranded: in every state that a scene without subscribers can come to,
its run queue is empty after finitely many polls; and as long as its tasks exist, once no task
is ready the mailbox is empty and a call is unfinished only while the scene has not ended, as
a `wait` or as a `waitSignal` in the table of waiters. -/
theorem no_caller_stranded {settings : Settings} {visiting : VisitingOrder V}
    {initial : Session V} (created : create? settings [] visiting = some initial)
    (schedule : List (Move V)) : (initial.moves schedule).Unstranding := by
  have orderly : (initial.moves schedule).Orderly :=
    ⟨(Reachable.created created).moves schedule, (unwatched_of_create? created).moves schedule⟩
  generalize initial.moves schedule = session at orderly ⊢
  have enough : session.pending ≤ Turns.allowance session :=
    Nat.le_trans (pending_le_sceneAllowance orderly.reachable) (Nat.le_add_right _ _)
  obtain ⟨⟨polls, polled⟩, rests⟩ := orderly.run enough
  have emptied : (Turns.settle session).agenda.ready = [] := by
    unfold Turns.turn? at rests
    split at rests
    case h_1 => cases rests
    case h_2 ready => exact ready
  constructor
  case atRest =>
    exact fun present idle => (atRest_of_idle idle).quiescent orderly.reachable present
  case bounded =>
    intro polls after polled
    have paid := polled.pending orderly
    exact Nat.le_trans (Nat.le_of_add_left_le paid) (pending_le_sceneAllowance orderly.reachable)
  case settles =>
    refine ⟨polls, polled, emptied, fun present => ?_⟩
    exact (atRest_of_idle emptied).quiescent (polled.orderly orderly).reachable
      (polled.lost.trans present)

/-- A store, a wait for a signal that nobody sends, and a wait for the end share one slot. -/
def storeAndWaits : List (Move Nat) :=
  [.act (.call (.store "n" 1 none)), .act (.call (.waitSignal "go" (.ofMilliseconds 5))),
    .act (.call .wait), .resume (.call 0), .resume (.call 1), .resume (.call 2), .resume .backend,
    .resume (.call 0), .resume (.call 1), .resume .backend, .resume (.call 1)]

theorem no_caller_stranded_storeAndWaits :
    create? {} [] = some (plain : Session Nat)
      ∧ (plain.moves storeAndWaits).agenda.ready = []
      ∧ (plain.moves storeAndWaits).calls.map Call.isUnfinished = [false, true, true]
      ∧ (plain.moves storeAndWaits).Quiescent ∧ (plain.moves storeAndWaits).Unstranding := by
  have created : create? {} [] = some (plain : Session Nat) := rfl
  have idle : (plain.moves storeAndWaits).agenda.ready = [] := by decide +kernel
  have unstranding := no_caller_stranded created storeAndWaits
  exact ⟨created, idle, by decide +kernel,
    unstranding.atRest (by decide +kernel) idle, unstranding⟩

end Session

end BoundedScene
