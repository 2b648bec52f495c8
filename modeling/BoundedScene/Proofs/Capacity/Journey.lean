import BoundedScene.Proofs.Capacity.Going
import BoundedScene.Proofs.Handles
import BoundedScene.Proofs.Phases

/-!
Contract: how a scene that goes on comes to rest or to its end.

Owns:
- `Leg`, a small step of such a scene: silent, the start of its backend, or a command that
  takes no time;
- that a scene which is akin to one on a journey can be led to its destination;
- `Tracks`, what has to be known of the scenes on the way of a run, and that the run arrives.

The turns of the calls are silent, so that two scenes which differ in the capacity of their
mailboxes make the same journey however their callers alternate with the backend.

Main statements: `Journey.akin_of_idle` and `Tracks.follow`.

Does not own: what happens to a scene that ends.
-/

namespace BoundedScene

namespace Session

variable {V : Type} {session before after first last result : Session V}
  {limits : TimeoutKind → Option Span} {envelope : Envelope V}
  {rest : Mailbox (Envelope V) × Option Nat}

/-! ## Journeys -/

/-- A small step of a scene that goes on, up to what does not show. -/
inductive Leg (limits : TimeoutKind → Option Span) : Session V → Session V → Prop where
  | silent {before after : Session V} (akin : Akin before after) : Leg limits before after
  | opens {session : Session V} (going : session.Going limits) (fresh : session.backend = .fresh)
      (unready : .backend ∉ session.agenda.ready) : Leg limits session session.openUp
  | serves {session : Session V} {envelope : Envelope V}
      {rest : Mailbox (Envelope V) × Option Nat} (going : session.Going limits)
      (takes : session.Takes envelope rest)
      (instant : Happening.elapsed (session.serveLog envelope) = 0) :
      Leg limits session (session.serveOne envelope rest)

/-- Any number of legs. -/
abbrev Journey (limits : TimeoutKind → Option Span) : Session V → Session V → Prop :=
  Relation.ReflTransGen (Leg limits)

theorem not_fresh_of_serving (serving : session.isServing) : session.backend ≠ .fresh := by
  obtain ⟨absolute, inactivity, backend⟩ := serving
  rw [backend]
  nofun

theorem fresh_or_serving (runs : session.backendRuns = true) :
    session.backend = .fresh ∨ session.isServing := by
  unfold backendRuns at runs
  split at runs
  case h_1 fresh => exact .inl fresh
  case h_2 absolute inactivity backend => exact .inr ⟨absolute, inactivity, backend⟩
  case h_3 => cases runs

namespace Journey

/-- A scene whose backend begins is led on from where it begins on the journey. -/
theorem opens (journey : Journey limits first last) (arrived : last.isServing)
    (akin : Akin first session) (going : session.Going limits) (fresh : session.backend = .fresh)
    (unready : .backend ∉ session.agenda.ready) :
    ∃ next, Akin next session.openUp ∧ Journey limits next last := by
  induction journey using Relation.ReflTransGen.head_induction_on with
  | refl => exact absurd fresh (not_fresh_of_serving (akin.toKindred.isServing arrived))
  | head leg later inductionHypothesis =>
      cases leg with
      | silent step => exact inductionHypothesis (step.symm.trans akin)
      | opens begun _ absent => exact ⟨_, akin.openUp begun going absent unready, later⟩
      | serves _ takes _ =>
          exact absurd fresh (not_fresh_of_serving (akin.toKindred.isServing takes.serving))

/-- A scene that serves a command is led on from where it is served on the journey. -/
theorem serves (journey : Journey limits first last) (idle : last.line = [])
    (akin : Akin first session) (going : session.Going limits)
    (takes : session.Takes envelope rest) :
    Happening.elapsed (session.serveLog envelope) = 0
      ∧ ∃ next, Akin next (session.serveOne envelope rest) ∧ Journey limits next last := by
  induction journey using Relation.ReflTransGen.head_induction_on with
  | refl =>
      have head := line_of_take? takes.taken
      rw [← akin.line, idle] at head
      cases head
  | head leg later inductionHypothesis =>
      cases leg with
      | silent step => exact inductionHypothesis (step.symm.trans akin)
      | opens begun fresh absent =>
          exact absurd fresh (not_fresh_of_serving (akin.symm.toKindred.isServing takes.serving))
      | serves begun other instant =>
          obtain rfl := akin.envelope_eq begun going other.taken takes.taken
          refine ⟨?_, _, akin.serveOne begun going other takes instant, later⟩
          rw [← (akin.agree begun going).serveLog]
          exact instant

/-- Where nobody is in line any more, the journey has come to its destination. -/
theorem akin_of_idle (journey : Journey limits first last) (akin : Akin first session)
    (serving : session.isServing) (idle : session.line = []) : Akin last session := by
  induction journey using Relation.ReflTransGen.head_induction_on with
  | refl => exact akin
  | head leg later inductionHypothesis =>
      cases leg with
      | silent step => exact inductionHypothesis (step.symm.trans akin)
      | opens begun fresh absent =>
          exact absurd fresh (not_fresh_of_serving (akin.symm.toKindred.isServing serving))
      | serves begun takes instant =>
          have head := line_of_take? takes.taken
          rw [akin.line, idle] at head
          cases head

end Journey

/-! ## Following a run -/

/-- What is known of the scenes on the way to a result, as far as it is passed on. -/
structure Tracks (limits : TimeoutKind → Option Span) (result : Session V)
    (known : Session V → Prop) : Prop where
  silent : ∀ {before after : Session V}, known before → Akin before after → known after
  opens : ∀ {session : Session V}, known session → session.Going limits →
    session.backend = .fresh → .backend ∉ session.agenda.ready → known session.openUp
  serves : ∀ {session : Session V} {envelope : Envelope V}
    {rest : Mailbox (Envelope V) × Option Nat}, known session → session.Going limits →
    session.Takes envelope rest →
    (session.serveOne envelope rest).happenings <+: result.happenings →
    Happening.elapsed (session.serveLog envelope) = 0 ∧ known (session.serveOne envelope rest)

/-- A scene in which nobody is in line and every call has come to its prospect. -/
structure Arrived (limits : TimeoutKind → Option Span) (session : Session V) : Prop where
  going : session.Going limits
  serving : session.isServing
  idle : session.line = []
  still : session.prospects = session.calls

theorem Arrived.blank (arrived : session.Arrived limits) : session.mailbox.IsBlank := by
  have idle := arrived.idle
  unfold line at idle
  simp only [List.append_eq_nil_iff, List.map_eq_nil_iff] at idle
  exact ⟨idle.1.1.1, idle.1.1.2, idle.1.2⟩

theorem Advances.happenings (run : Advances before after) :
    before.happenings <+: after.happenings := by
  obtain ⟨log, ascent⟩ := run.ascends
  exact ⟨log, ascent.happenings.symm⟩

theorem happenings_run (turns : Nat) (session : Session V) :
    session.happenings <+: (Turns.run turns session).happenings := by
  obtain ⟨schedule, run⟩ := (keeps_leads session).run turns (.refl session)
  rw [run]
  exact Advances.happenings (session.moves_advances schedule)

namespace Going

theorem serve_of_idle (going : session.Going limits) (idle : session.mailbox.take? = none)
    (commands : Nat) :
    session.serve commands =
      if session.anyHandle then session else (session.conclude none).finish none := by
  have unstopped : ¬session.control.stopRequested = true := by rw [going.control]; nofun
  rw [serve_eq, if_neg unstopped, going.undue, idle]

theorem serve_of_takes (going : session.Going limits)
    (taken : session.mailbox.take? = some (envelope, rest)) (commands : Nat) :
    session.serve (commands + 1) = (session.serveOne envelope rest).serve commands := by
  have unstopped : ¬session.control.stopRequested = true := by rw [going.control]; nofun
  rw [serve_eq, if_neg unstopped, going.undue, taken]

end Going

theorem prospects_eq_calls (still : ∀ (id : Nat) (call : Call V), session.calls[id]? = some call →
    call.prospect session.clock session.phase = call) : session.prospects = session.calls := by
  unfold prospects
  calc session.calls.map (Call.prospect session.clock session.phase)
      = session.calls.map id := List.map_congr_left fun call member => by
        obtain ⟨id, found⟩ := List.mem_iff_getElem?.mp member
        exact still id call found
    _ = session.calls := List.map_id _

/-- Who waits in a scene at rest stays where it is. -/
theorem Awaits.prospect {id : Nat} {call : Call V} (awaits : session.Awaits id call)
    (clock : Clock) (phase : Phase) : call.prospect clock phase = call := by
  apply Call.prospect_of_outlook
  unfold Call.outlook
  cases awaits with
  | theEnd asks waits => rw [waits]
  | aSignal asks waits silent listed =>
      rw [waits]
      unfold Call.outlookOfSignal
      rw [silent]

/-- A scene at rest has arrived. -/
theorem Going.arrived (going : session.Going limits) (orderly : session.Orderly)
    (ready : session.agenda.ready = []) : session.Arrived limits := by
  have present : session.control.lost = false := by rw [going.control]
  have quiescent := (atRest_of_idle ready).quiescent orderly.reachable present
  constructor
  case going => exact going
  case serving =>
    refine (fresh_or_serving going.runs).resolve_left fun fresh => ?_
    have awake := orderly.reachable.attentive.backend ⟨going.runs, .inl fresh⟩ nofun
    rw [ready] at awake
    cases awake
  case idle =>
    unfold line
    rw [quiescent.queued, quiescent.granted, quiescent.waiting, ready]
    rfl
  case still =>
    refine prospects_eq_calls fun id call found => ?_
    cases unfinished : call.isUnfinished with
    | false => exact Call.prospect_of_finished unfinished
    | true => exact (quiescent.unfinished id call found unfinished).2.prospect _ _

/-- Where no handle is left, nobody is left that could call. -/
theorem newcomers_of_unheld (unheld : session.anyHandle = false) (tasks : List SceneTask) :
    session.newcomers tasks = [] := by
  refine callersAmong_eq_nil fun id _ => ?_
  cases found : session.calls[id]? with
  | none => rfl
  | some call =>
      rw [Option.any_some]
      exact (Call.not_newcomer_of_finished ((unheld_iff.mp unheld).calls id call found)).1

/-- Where no handle is left, the scene has arrived. -/
theorem Going.arrived_of_unheld (going : session.Going limits) (serving : session.isServing)
    (queued : session.mailbox.queued = []) (unheld : session.anyHandle = false) :
    session.Arrived limits := by
  have ceased := (unheld_iff.mp unheld).calls
  have unsought : session.mailbox.granted ++ session.mailbox.waiting = [] := by
    refine List.eq_nil_iff_forall_not_mem.mpr fun id member => ?_
    obtain ⟨call, found, seeks⟩ := going.lines.sought id member
    have finished := ceased id call found
    unfold Call.isUnfinished at finished
    rw [seeks] at finished
    cases finished
  constructor
  case going => exact going
  case serving => exact serving
  case idle =>
    obtain ⟨granted, waiting⟩ := List.append_eq_nil_iff.mp unsought
    unfold line
    rw [queued, granted, waiting, newcomers_of_unheld unheld]
    rfl
  case still => exact prospects_eq_calls fun id call found =>
    Call.prospect_of_finished (ceased id call found)

/-- The backend ends for want of handles. -/
def abandoned (session : Session V) : Session V :=
  (session.conclude none).finish none

/-- A scene that has arrived comes to rest there, or its backend ends for want of handles. -/
inductive ComesTo (limits : TimeoutKind → Option Span) (last : Session V) : Session V → Prop where
  | rests (arrived : last.Arrived limits) (held : last.anyHandle = true)
      (ready : last.agenda.ready = []) : ComesTo limits last last
  | abandons (arrived : last.Arrived limits) (unheld : last.anyHandle = false)
      (orderly : last.abandoned.Orderly) (turns : Nat) :
      ComesTo limits last (Turns.run turns last.abandoned)

theorem Going.comesTo_of_rest (going : session.Going limits) (orderly : session.Orderly)
    (rests : Turns.turn? session = none) : session.ComesTo limits session := by
  have ready : session.agenda.ready = [] := (Turns.idle_of_rest rests).1
  refine .rests (going.arrived orderly ready) ?_ ready
  by_contra unheld
  rw [Bool.not_eq_true] at unheld
  have awake := orderly.reachable.handlesNoted going.runs unheld
  rw [ready] at awake
  cases awake

namespace Tracks

variable {known : Session V → Prop}

/-- A backend that goes on serves all commands; then it waits, or it ends for want of
handles. -/
theorem serve (tracks : Tracks limits result known) {commands : Nat} (held : known session)
    (going : session.Going limits) (serving : session.isServing)
    (unready : .backend ∉ session.agenda.ready)
    (alone : session.newcomers session.agenda.ready = [] ∨ session.mailbox.queued = [])
    (enough : session.mailbox.queued.length ≤ commands)
    (within : (session.serve commands).happenings <+: result.happenings) :
    ∃ last, known last ∧ last.Going limits ∧ last.isServing ∧ last.mailbox.queued = []
      ∧ (session.serve commands = last
        ∨ last.anyHandle = false ∧ session.serve commands = last.abandoned) := by
  induction commands generalizing session with
  | zero =>
      have queued : session.mailbox.queued = [] :=
        List.length_eq_zero_iff.mp (Nat.le_zero.mp enough)
      have idle : session.mailbox.take? = none := by
        unfold Mailbox.take?
        rw [queued]
      refine ⟨session, held, going, serving, queued, ?_⟩
      rw [going.serve_of_idle idle]
      cases session.anyHandle with
      | true => exact .inl rfl
      | false => exact .inr ⟨rfl, rfl⟩
  | succ commands inductionHypothesis =>
      cases taken : session.mailbox.take? with
      | none =>
          have queued : session.mailbox.queued = [] := by
            unfold Mailbox.take? at taken
            split at taken
            case h_1 queued => exact queued
            case h_2 => cases taken
          refine ⟨session, held, going, serving, queued, ?_⟩
          rw [going.serve_of_idle taken]
          cases session.anyHandle with
          | true => exact .inl rfl
          | false => exact .inr ⟨rfl, rfl⟩
      | some pair =>
          obtain ⟨envelope, rest⟩ := pair
          obtain ⟨queue, left⟩ := take_queue taken
          have busy : session.mailbox.queued ≠ [] := by simp [queue]
          have takes : session.Takes envelope rest :=
            ⟨serving, taken, alone.resolve_right busy, unready⟩
          have onward := serveOne_isServing serving envelope rest
          rw [going.serve_of_takes taken] at within ⊢
          have reached := (Advances.happenings (serve_advances commands _ onward)).trans within
          obtain ⟨instant, held⟩ := tracks.serves held going takes reached
          obtain ⟨-, -, nobody, absent⟩ := going.served takes
          obtain ⟨backend, -, growth⟩ := serveOne_evolves serving envelope rest
          refine inductionHypothesis held (going.serveOne takes instant) onward absent
            (.inl nobody) ?_ within
          rw [growth.mailbox]
          show rest.1.queued.length ≤ commands
          rw [queue, List.length_cons] at enough
          omega

/-- A run to rest arrives, and then the scene rests, or it ends for want of handles. -/
theorem follow (tracks : Tracks limits result known) (turns : Nat) (held : known session)
    (orderly : session.Orderly) (going : session.Going limits)
    (rests : Turns.turn? (Turns.run turns session) = none)
    (leads : Turns.run turns session = result) :
    ∃ last, known last ∧ last.ComesTo limits result := by
  induction turns generalizing session with
  | zero => exact ⟨session, held, leads ▸ going.comesTo_of_rest orderly rests⟩
  | succ turns inductionHypothesis =>
      cases turn : Turns.turn? session with
      | none =>
          rw [Turns.run_of_rest turn] at leads
          exact ⟨session, held, leads ▸ going.comesTo_of_rest orderly turn⟩
      | some next =>
          rw [Turns.run_of_turn turn] at rests leads
          have onward := (poll_of_turn turn).orderly orderly
          unfold Turns.turn? at turn
          split at turn
          case h_2 =>
            have behind : (Turns.clock session).isBehind = false := going.current
            rw [behind] at turn
            cases turn
          case h_1 task later ready =>
            replace ready : session.agenda.ready = task :: later := ready
            cases task with
            | delivery task =>
                have own := orderly.unwatched.isOwn (ready ▸ List.mem_cons_self ..)
                cases own
            | call id =>
                obtain rfl : (session.handOver later).resumeCall id = next := Option.some.inj turn
                obtain ⟨still, akin⟩ := going.call ready onward.reachable
                exact inductionHypothesis (tracks.silent held akin) onward still rests leads
            | backend =>
                obtain rfl : (session.handOver later).resumeBackend = next :=
                  Option.some.inj turn
                obtain ⟨begun, akin, unready, alone⟩ := going.handOver ready
                -- However its turn begins, the backend serves what is in the mailbox.
                have served {start : Session V} (held : known start) (going : start.Going limits)
                    (serving : start.isServing) (unready : .backend ∉ start.agenda.ready)
                    (alone : start.newcomers start.agenda.ready = []
                      ∨ start.mailbox.queued = [])
                    (same : start.serve start.mailbox.queued.length
                      = (session.handOver later).resumeBackend) :
                    ∃ last, known last ∧ last.ComesTo limits result := by
                  have within := happenings_run turns (session.handOver later).resumeBackend
                  rw [leads, ← same] at within
                  obtain ⟨last, held, still, onServing, queued, waits | ⟨unheld, ends⟩⟩ :=
                    tracks.serve held going serving unready alone (Nat.le_refl _) within
                  · rw [← same, waits] at onward rests leads
                    exact inductionHypothesis held onward still rests leads
                  · rw [← same, ends] at onward leads
                    exact ⟨last, held, leads ▸ .abandons
                      (still.arrived_of_unheld onServing queued unheld) unheld onward turns⟩
                have known := tracks.silent held akin
                rcases fresh_or_serving begun.runs with fresh | serving
                · have opened := begun.opened unready
                  refine served (tracks.opens known begun fresh unready)
                    (begun.openUp fresh unready) ⟨_, _, session.openUp_evolves.backend⟩
                    opened.2.2.2 ?_ ?_
                  · rw [opened.2.2.1]
                    exact alone
                  · unfold resumeBackend
                    rw [fresh]
                    rfl
                · refine served known begun serving unready alone ?_
                  obtain ⟨absolute, inactivity, backend⟩ := serving
                  unfold resumeBackend
                  rw [backend]

end Tracks

end Session

end BoundedScene
