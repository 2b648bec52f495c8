import BoundedScene.Proofs.Capacity.Serving
import BoundedScene.Proofs.Capacity.Waking
import BoundedScene.Proofs.Timekeeping

/-!
Contract: scenes that go on, one small step at a time.

Owns:
- `Going`, what holds of a docile scene until its backend ends, as far as its next small
  steps rely on it;
- `Akin`, scenes that differ at most in how far their calls have come;
- that the turn of a call leads to an akin scene, and that akin scenes serve the same command
  and come to akin scenes.

Main statements: `Going.call`, `Akin.openUp` and `Akin.serveOne`.

Does not own: whole runs, and the end of a scene.
-/

namespace BoundedScene

open BoundedScene.Supervision (Control)

namespace Session

variable {V : Type} {session left right before after : Session V} {id : Nat}
  {limits : TimeoutKind → Option Span}

/-- A docile scene whose backend runs and that has nothing to do with deadlines now.

- `current`: no time has passed that nobody has noticed;
- `undue`, `early`: no deadline is due, neither of the backend nor of a call. -/
structure Going (limits : TimeoutKind → Option Span) (session : Session V) : Prop where
  onCourse : OnCourse limits session
  requests : ∀ request ∈ session.requests, request.isDocile = true
  runs : session.backendRuns = true
  current : session.clock.isBehind = false
  undue : session.dueDeadline? = none
  early : ∀ (id : Nat) (call : Call V) (due : Nat), session.calls[id]? = some call →
    call.deadline? = some due → session.clock.noticed < due
  inOrder : session.InOrder
  lines : session.mailbox.Lines session.Seeks

/-- The backend is about to serve a command in its turn, and the callers behind it have all
entered the line. -/
structure Takes (session : Session V) (envelope : Envelope V)
    (rest : Mailbox (Envelope V) × Option Nat) : Prop where
  serving : session.isServing
  taken : session.mailbox.take? = some (envelope, rest)
  alone : session.newcomers session.agenda.ready = []
  unready : .backend ∉ session.agenda.ready

/-- Scenes that differ at most in their mailboxes and in how far their calls have come: their
calls come to the same, and the same callers are in line for the backend. -/
structure Akin (left right : Session V) : Prop extends Kindred left right where
  prospects : left.prospects = right.prospects
  line : left.line = right.line

namespace Akin

theorem symm (akin : Akin left right) : Akin right left :=
  { akin.toKindred.symm with
    prospects := akin.prospects.symm
    line := akin.line.symm }

theorem trans {middle : Session V} (first : Akin left middle) (second : Akin middle right) :
    Akin left right :=
  { first.toKindred.trans second.toKindred with
    prospects := first.prospects.trans second.prospects
    line := first.line.trans second.line }

end Akin

theorem undue_of_armed (early : ∀ kind due, session.armed? kind = some due →
    session.clock.noticed < due) : session.dueDeadline? = none := by
  cases due : session.dueDeadline? with
  | none => rfl
  | some deadline =>
      obtain ⟨instant, armed, lapsed, -⟩ := dueDeadline?_some due
      exact absurd lapsed (Nat.not_le.mpr (early _ instant armed))

theorem Kindred.dueDeadline? (kindred : Kindred left right) :
    left.dueDeadline? = right.dueDeadline? := by
  unfold Session.dueDeadline?
  rw [kindred.backend, kindred.clock, kindred.absolute, kindred.inactivity]

namespace Going

theorem passed (going : session.Going limits) : Passed session :=
  going.onCourse.passed

theorem docile (going : session.Going limits) : session.Docile :=
  going.passed.docile going.requests

theorem control (going : session.Going limits) : session.control = {} :=
  going.docile.control going.passed.steered going.runs

theorem ongoing (going : session.Going limits) : session.control.ending = false := by
  rw [going.control]

theorem unclosed (going : session.Going limits) : session.mailbox.closed = false :=
  (going.passed.chronicle.running going.runs).1

/-- A deadline that is set now is not due. -/
theorem lt_deadline (going : session.Going limits) {after : Span}
    (positive : 0 < after.nanoseconds) : session.clock.noticed < session.clock.deadline after :=
  Clock.instantOf_lt_instantOf.mp
    (Nat.lt_of_le_of_lt going.onCourse.noticed (session.clock.lt_deadline positive))

/-! ## The turn of a call -/

/-- The turn of a call leads to an akin scene. -/
theorem call {later : List SceneTask} (going : session.Going limits)
    (ready : session.agenda.ready = .call id :: later)
    (reachable : Reachable ((session.handOver later).resumeCall id)) :
    ((session.handOver later).resumeCall id).Going limits
      ∧ Akin session ((session.handOver later).resumeCall id) := by
  have begun : OnCourse limits (session.handOver later) := going.onCourse.withReady later
  have murmurs : Murmurs (session.handOver later) ((session.handOver later).resumeCall id) :=
    @murmurs_resumeCall V (session.handOver later) id going.control going.unclosed
      going.onCourse.noticed
      (fun call found => going.requests _ (mem_requests found))
      fun call due found => going.early id call due found
  obtain ⟨inOrder, line⟩ := going.inOrder.turn ready going.lines begun.passed going.ongoing
    going.unclosed murmurs.rouses
  have clock : ((session.handOver later).resumeCall id).clock = session.clock :=
    murmurs.clock.symm
  constructor
  · constructor
    case onCourse =>
      exact begun.idles (@resume_idles V (.call id) nofun _) reachable.passed
    case requests =>
      exact (requests_resume (.call id) (session.handOver later)).symm ▸ going.requests
    case runs =>
      have runs := going.runs
      unfold backendRuns at runs ⊢
      rw [← murmurs.backend]
      exact runs
    case current => rw [clock, going.current]
    case undue => exact murmurs.toKindred.dueDeadline?.symm.trans going.undue
    case early =>
      intro other call due found waits
      rw [clock]
      cases present : session.calls[id]? with
      | none =>
          have still : (session.handOver later).resumeCall id = session.handOver later := by
            unfold resumeCall
            rw [show (session.handOver later).calls[id]? = none from present]
          rw [still] at found
          exact going.early other call due found waits
      | some own =>
          obtain ⟨log, changes, mailbox, turn, growth, -⟩ :=
            (session.handOver later).resumeCall_turnsBy id own present
          rw [growth.calls] at found
          obtain ⟨old, known, rfl⟩ := Option.map_eq_some_iff.mp found
          by_cases same : id = other
          · subst same
            obtain rfl : own = old := Option.some.inj (present.symm.trans known)
            have story := begun.passed.chronicle.stories id own present
            apply turn.undue story
            unfold Call.deadline? at waits
            split at waits
            case h_1 stage => rw [stage, waits]
            case h_2 => cases waits
          · rw [turn.elsewhere same] at waits
            exact going.early other old due known waits
    case inOrder => exact inOrder
    case lines => exact reachable.attentive.lines
  · exact { murmurs.toKindred with
      prospects := murmurs.prospects
      line := line.symm }

/-! ## The turn of the backend -/

/-- The backend begins its turn. -/
theorem handOver {later : List SceneTask} (going : session.Going limits)
    (ready : session.agenda.ready = .backend :: later) :
    (session.handOver later).Going limits ∧ Akin session (session.handOver later)
      ∧ .backend ∉ later ∧ (session.newcomers later = [] ∨ session.mailbox.queued = []) := by
  obtain ⟨inOrder, line, unready, alone⟩ := going.inOrder.handOver ready
  refine ⟨?_, { Kindred.refl session with prospects := rfl, line := line.symm }, unready, alone⟩
  exact
    { going with
      onCourse := going.onCourse.withReady later
      inOrder
      lines := going.lines }

theorem opened (going : session.Going limits) (unready : .backend ∉ session.agenda.ready) :
    session.openUp.InOrder ∧ session.openUp.line = session.line
      ∧ session.openUp.newcomers session.openUp.agenda.ready
        = session.newcomers session.agenda.ready
      ∧ .backend ∉ session.openUp.agenda.ready := by
  refine going.inOrder.publish unready rfl rfl rfl fun task member => ?_
  obtain ⟨own, -, rfl⟩ := List.mem_map.mp member
  rfl

/-- The backend has its first turn. -/
theorem openUp (going : session.Going limits) (fresh : session.backend = .fresh)
    (unready : .backend ∉ session.agenda.ready) : session.openUp.Going limits := by
  have growth := session.openUp_evolves
  have clock : session.openUp.clock = session.clock := growth.clock
  constructor
  case onCourse => exact going.onCourse.opens fresh
  case requests => exact (requests_of_evolves growth rfl).symm ▸ going.requests
  case runs => exact isServing.runs ⟨_, _, growth.backend⟩
  case current => rw [clock, going.current]
  case undue =>
    refine undue_of_armed fun kind due armed => ?_
    have set : (session.configured? kind).map session.clock.deadline = some due := by
      cases kind <;> exact armed
    obtain ⟨after, configured, rfl⟩ := Option.map_eq_some_iff.mp set
    rw [going.onCourse.configured] at configured
    rw [clock]
    exact going.lt_deadline (going.onCourse.positive kind after configured)
  case early =>
    rw [clock]
    exact going.early
  case inOrder => exact (going.opened unready).1
  case lines => exact going.lines

/-- The backend serves the command of the head of the line. -/
theorem served {envelope : Envelope V} {rest : Mailbox (Envelope V) × Option Nat}
    (going : session.Going limits) (takes : session.Takes envelope rest) :
    (session.serveOne envelope rest).InOrder
      ∧ session.line = envelope.caller :: (session.serveOne envelope rest).line
      ∧ (session.serveOne envelope rest).newcomers
          (session.serveOne envelope rest).agenda.ready = []
      ∧ .backend ∉ (session.serveOne envelope rest).agenda.ready :=
  going.inOrder.serveOne going.lines takes.serving going.docile.props takes.taken takes.alone
    takes.unready

/-- A command that takes no time. -/
theorem serveOne {envelope : Envelope V} {rest : Mailbox (Envelope V) × Option Nat}
    (going : session.Going limits) (takes : session.Takes envelope rest)
    (instant : Happening.elapsed (session.serveLog envelope) = 0) :
    (session.serveOne envelope rest).Going limits := by
  obtain ⟨backend, -, growth⟩ := serveOne_evolves takes.serving envelope rest
  have clock : (session.serveOne envelope rest).clock = session.clock := by
    have moved := growth.clock
    rwa [instant] at moved
  have unstopped : session.control.stopRequested = false := by rw [going.control]
  constructor
  case onCourse =>
    exact going.onCourse.serves takes.serving unstopped going.undue takes.taken
  case requests => exact (requests_of_evolves growth rfl).symm ▸ going.requests
  case runs => exact (serveOne_isServing takes.serving envelope rest).runs
  case current => rw [clock, going.current]
  case undue =>
    obtain ⟨kept, moved⟩ := armed?_serveOne takes.serving envelope rest
    refine undue_of_armed fun kind due armed => ?_
    rw [clock] at moved ⊢
    cases kind with
    | absolute => exact going.passed.undue going.undue (kept.symm.trans armed)
    | inactivity =>
        obtain ⟨after, configured, rfl⟩ := Option.map_eq_some_iff.mp (moved.symm.trans armed)
        rw [growth.inactivity] at configured
        refine going.lt_deadline (going.onCourse.positive .inactivity after ?_)
        rw [← going.onCourse.configured]
        exact configured
  case early =>
    intro id call due found waits
    rw [clock]
    obtain ⟨old, present, stage, -⟩ :=
      origin_of_unmoved growth.calls (session.unmoved_serveChanges envelope id) found
    exact going.early id old due present ((deadline?_of_stage stage).trans waits)
  case inOrder => exact (going.served takes).1
  case lines =>
    rw [growth.mailbox]
    refine (going.lines.take takes.taken).congr fun id => ?_
    rw [seeks_iff, seeks_iff,
      any_serveOne takes.serving envelope rest fun _ _ stage _ => Call.isSeeker_congr stage]

end Going

/-! ## Steps of akin scenes -/

theorem Kindred.isServing (kindred : Kindred left right) (serving : left.isServing) :
    right.isServing := by
  unfold Session.isServing at serving ⊢
  rwa [← kindred.backend]

theorem requests_prospects (session : Session V) :
    session.prospects.map Call.request = session.requests :=
  List.map_map

theorem prospects_openUp (session : Session V) : session.openUp.prospects = session.prospects := by
  have clock : session.openUp.clock = session.clock := session.openUp_evolves.clock
  unfold prospects
  rw [clock]
  rfl

/-- The oldest command is that of the head of the line. -/
theorem line_of_take? {envelope : Envelope V} {rest : Mailbox (Envelope V) × Option Nat}
    (taken : session.mailbox.take? = some (envelope, rest)) :
    session.line.head? = some envelope.caller := by
  obtain ⟨queued, -⟩ := take_queue taken
  unfold line
  rw [queued]
  rfl

namespace Akin

variable {envelope : Envelope V} {leftRest rightRest : Mailbox (Envelope V) × Option Nat}

/-- Akin scenes that go on agree on all that a command depends on. -/
theorem agree (akin : Akin left right) (leftGoing : left.Going limits)
    (rightGoing : right.Going limits) : Agree left right :=
  { akin.toKindred with
    prospects := akin.prospects
    leftPassed := leftGoing.passed
    rightPassed := rightGoing.passed
    runs := leftGoing.runs
    ongoing := leftGoing.ongoing }

theorem openUp (akin : Akin left right) (leftGoing : left.Going limits)
    (rightGoing : right.Going limits) (leftUnready : .backend ∉ left.agenda.ready)
    (rightUnready : .backend ∉ right.agenda.ready) : Akin left.openUp right.openUp :=
  { akin.toKindred.openUp with
    prospects := by rw [prospects_openUp, prospects_openUp, akin.prospects]
    line := by
      obtain ⟨-, leftLine, -⟩ := leftGoing.opened leftUnready
      obtain ⟨-, rightLine, -⟩ := rightGoing.opened rightUnready
      rw [leftLine, rightLine, akin.line] }

/-- The same command is the oldest in akin scenes. -/
theorem envelope_eq (akin : Akin left right) (leftGoing : left.Going limits)
    (rightGoing : right.Going limits) {other : Envelope V}
    (leftTaken : left.mailbox.take? = some (envelope, leftRest))
    (rightTaken : right.mailbox.take? = some (other, rightRest)) : envelope = other := by
  obtain ⟨call, found, sends⟩ :=
    leftGoing.passed.queued leftGoing.runs (queued_of_take? leftTaken)
  obtain ⟨twin, present, asks⟩ :=
    rightGoing.passed.queued rightGoing.runs (queued_of_take? rightTaken)
  have caller : envelope.caller = other.caller := by
    have head := line_of_take? leftTaken
    rw [akin.line, line_of_take? rightTaken] at head
    exact (Option.some.inj head).symm
  have requests : left.requests = right.requests := by
    rw [← requests_prospects, ← requests_prospects, akin.prospects]
  have request : call.request = twin.request := by
    have same := congrArg (fun requests : List (Request V) => requests[envelope.caller]?) requests
    unfold Session.requests at same
    rw [List.getElem?_map, List.getElem?_map, found, caller, present] at same
    exact Option.some.inj same
  have command : envelope.command = other.command := by
    rw [request, asks] at sends
    exact (Option.some.inj sends).symm
  cases envelope
  cases other
  cases caller
  cases command
  rfl

/-- Akin scenes serve a command that takes no time and come to akin scenes. -/
theorem serveOne (akin : Akin left right) (leftGoing : left.Going limits)
    (rightGoing : right.Going limits) (leftTakes : left.Takes envelope leftRest)
    (rightTakes : right.Takes envelope rightRest)
    (instant : Happening.elapsed (left.serveLog envelope) = 0) :
    Akin (left.serveOne envelope leftRest) (right.serveOne envelope rightRest) := by
  have agree := akin.agree leftGoing rightGoing
  obtain ⟨-, leftLine, -⟩ := leftGoing.served leftTakes
  obtain ⟨-, rightLine, -⟩ := rightGoing.served rightTakes
  exact
    { agree.kindred_serveOne leftTakes.serving leftGoing.docile.props leftTakes.taken
        rightTakes.taken with
      prospects := agree.prospects_serveOne leftTakes.serving leftTakes.taken rightTakes.taken
        instant
      line := by
        have popped := leftLine.symm.trans (akin.line.trans rightLine)
        exact (List.cons.inj popped).2 }

end Akin

end Session

end BoundedScene
