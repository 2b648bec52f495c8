import BoundedScene.Proofs.Capacity.Prospects

/-!
Contract: what serving a command does to the prospects of the calls.

Owns:
- `Call.Registered`, a waiter that has not been told anything;
- whom a command can reach: its caller, which awaits the reply, and registered waiters;
- that equal prospects lead to equal prospects.

Main statement: `Agree.prospects_serveOne`.

Does not own: which command is served next.
-/

namespace BoundedScene

open BoundedScene.Supervision (Control)

/-- Each registered waiter is a waiter of some topic. -/
theorem Subscriptions.exists_topic {subscriptions : Subscriptions}
    (distinct : subscriptions.Distinct) {waiter : Nat}
    (listed : waiter ∈ subscriptions.allWaiters) : ∃ name, waiter ∈ subscriptions.waiters name := by
  obtain ⟨topics⟩ := subscriptions
  induction topics with
  | nil => cases listed
  | cons topic rest inductionHypothesis =>
      have names : topic.name ∉ rest.map Topic.name ∧ (rest.map Topic.name).Nodup :=
        List.nodup_cons.mp distinct
      rcases List.mem_append.mp listed with first | later
      · refine ⟨topic.name, ?_⟩
        rw [waiters_of_cons, if_pos rfl]
        exact first
      · obtain ⟨name, member⟩ := inductionHypothesis names.2 later
        refine ⟨name, ?_⟩
        rw [waiters_of_cons]
        split
        case isTrue same =>
          rw [waiters_of_unnamed (same ▸ names.1)] at member
          cases member
        case isFalse => exact member

namespace Call

variable {V : Type} {clock : Clock} {phase : Phase} {call left right : Call V}

/-- A waiter whose registration was accepted and that has heard nothing yet. -/
structure Registered (call : Call V) : Prop where
  asks : ∃ topic limit, call.request = .waitSignal topic limit
  accepted : ∃ reply, call.reply = .filled (.ok reply)
  silent : call.signal = .pending
  listens : call.listens = true

/-- A registered waiter comes to wait for the signal. -/
theorem Registered.outlook_eq (registered : call.Registered) (clock : Clock) (phase : Phase)
    (signal : SignalSlot) :
    ∃ deadline, ({ call with signal } : Call V).outlook clock phase
      = ({ call with signal } : Call V).outlookOfSignal clock deadline := by
  obtain ⟨⟨topic, limit, asks⟩, ⟨reply, accepted⟩, -, listens⟩ := registered
  unfold Call.listens at listens
  unfold outlook
  split at listens
  case h_1 waits =>
    rw [waits]
    exact ⟨_, @outlookOfReply_of_registered V clock { call with signal } _ _ _ accepted asks⟩
  case h_2 deadline waits =>
    rw [waits]
    exact ⟨deadline, rfl⟩
  case h_3 => cases listens

theorem Registered.listens_prospect (registered : call.Registered) :
    (call.prospect clock phase).listens = true := by
  obtain ⟨deadline, outlook⟩ := registered.outlook_eq clock phase call.signal
  unfold Call.listens prospect
  rw [outlook]
  unfold outlookOfSignal
  rw [registered.silent]

/-- A signal that reaches a registered waiter ends its call. -/
theorem Registered.raise (registered : call.Registered) :
    ({ call with signal := .raised } : Call V).prospect clock phase
      = { call.prospect clock phase with
          signal := .raised, stage := .finished .done clock.millisecond } := by
  obtain ⟨deadline, outlook⟩ := registered.outlook_eq clock phase .raised
  unfold prospect
  rw [outlook]
  rfl

/-- Waiters listen if they come to listen. -/
theorem listens_eq (enlisted : call.isUnfinished = false ∨ call.Registered) :
    (call.prospect clock phase).listens = call.listens := by
  rcases enlisted with ceased | registered
  · rw [prospect_of_finished ceased]
  · rw [registered.listens_prospect, registered.listens]

/-- Waiters with the same prospect have the same prospect once a signal has reached them. -/
theorem prospect_raise {id : Nat} (enlistedLeft : left.isUnfinished = false ∨ left.Registered)
    (enlistedRight : right.isUnfinished = false ∨ right.Registered)
    (same : left.prospect clock phase = right.prospect clock phase) :
    (left.apply id (.signal id .raised)).prospect clock phase
      = (right.apply id (.signal id .raised)).prospect clock phase := by
  have listens : left.listens = right.listens := by
    rw [← listens_eq enlistedLeft, ← listens_eq enlistedRight, same]
  simp only [apply, listens]
  split
  case isFalse => exact same
  case isTrue hears =>
    have registered {call : Call V} (enlisted : call.isUnfinished = false ∨ call.Registered)
        (hears : call.listens = true) : call.Registered := by
      refine enlisted.resolve_left fun ceased => ?_
      unfold Call.listens at hears
      unfold isUnfinished at ceased
      split at hears <;> simp_all
    rw [(registered enlistedLeft (listens ▸ hears.2)).raise,
      (registered enlistedRight hears.2).raise, same]

/-- The same signal may reach a waiter again. -/
theorem applyAll_raise (id : Nat) (woken : List Nat) (call : Call V) :
    call.applyAll id (woken.map fun waiter => .signal waiter .raised)
      = if id ∈ woken then call.apply id (.signal id .raised) else call := by
  induction woken generalizing call with
  | nil => rfl
  | cons first rest inductionHypothesis =>
      rw [List.map_cons, applyAll_cons, inductionHypothesis]
      by_cases own : first = id
      · subst own
        have again : (call.apply first (.signal first .raised)).apply first
            (.signal first .raised) = call.apply first (.signal first .raised) := by
          unfold apply
          cases hears : call.listens with
          | false => simp [hears]
          | true => simp [Call.listens] at hears ⊢
        rw [if_pos (List.mem_cons_self ..), again, ite_self]
      · have still : call.apply id (.signal first .raised) = call := by simp [apply, own]
        rw [still]
        simp [List.mem_cons, Ne.symm own]

end Call

namespace Session

variable {V : Type} {session left right : Session V} {call : Call V}

/-! ## Whom a command can reach -/

/-- In a scene that goes on, who waits in the mailbox waits for the reply, or was given up. -/
theorem Passed.unanswered (passed : Passed session) (runs : session.backendRuns = true)
    (ongoing : session.control.ending = false) {envelope : Envelope V}
    (queued : envelope ∈ session.mailbox.queued)
    (found : session.calls[envelope.caller]? = some call) (clock : Clock) (phase : Phase) :
    call.prospect clock phase = call := by
  obtain ⟨caller, command⟩ := envelope
  obtain ⟨entered, unprocessed⟩ := passed.chronicle.pending runs queued
  have story := passed.chronicle.stories caller call found
  have place := (story.unprocessed passed.steered runs ongoing entered unprocessed).2
  generalize session.recordsOf caller = records at story place
  rcases place with ⟨waits, told⟩ | ⟨dropped, -⟩
  · apply Call.prospect_of_unanswered waits
    obtain ⟨command, -, ⟨-, unanswered⟩ | ⟨response, -, served, -⟩⟩ :=
      story.of_awaitingReply waits
    · refine unanswered.resolve_right fun late => ?_
      rw [ongoing] at late
      cases late.2
    · rw [told] at served
      simp [processedStory] at served
  · apply Call.prospect_of_finished
    unfold Call.isUnfinished
    rw [dropped]

/-- In a scene that goes on, nobody has told anything to a registered waiter. -/
theorem Passed.silent (passed : Passed session) (ongoing : session.control.ending = false)
    {waiter : Nat} (listed : waiter ∈ session.subscriptions.allWaiters)
    (found : session.calls[waiter]? = some call) : call.signal = .pending := by
  cases signal : call.signal with
  | pending => rfl
  | raised =>
      have taken := (passed.accounted.signals waiter call found).mp signal
      exact absurd rfl ((List.nodup_append.mp passed.accounted.once).2.2 _ taken _ listed)
  | released =>
      have ending := passed.patient.released waiter call found signal
      rw [ongoing] at ending
      cases ending

/-- What a registered waiter that listens has been answered, and to what. -/
theorem Passed.registration (passed : Passed session) (runs : session.backendRuns = true)
    {waiter : Nat} (listed : waiter ∈ session.subscriptions.allWaiters)
    (listens : session.listens waiter = true) :
    ∃ topic, .processed (.registration topic waiter) ∈ session.recordsOf waiter := by
  obtain ⟨topic, member⟩ := Subscriptions.exists_topic passed.accounted.distinct listed
  have waits : waiter ∈ session.reference.waiting topic :=
    passed.listening runs topic ▸ List.mem_filter.mpr ⟨member, listens⟩
  obtain ⟨early, late, place, -⟩ := (passed.stillWaits waits).registered
  refine ⟨topic, (mem_recordsOf rfl).mpr ?_⟩
  rw [place]
  exact List.mem_append_right _ (List.mem_cons_self ..)

/-- In a scene that goes on, a registered waiter has heard nothing yet, or its call is over. -/
theorem Passed.enlisted (passed : Passed session) (runs : session.backendRuns = true)
    (ongoing : session.control.ending = false) {waiter : Nat}
    (listed : waiter ∈ session.subscriptions.allWaiters)
    (found : session.calls[waiter]? = some call) :
    call.isUnfinished = false ∨ call.Registered := by
  have silent := passed.silent ongoing listed found
  have registration := passed.registration runs listed
  have served : ∃ entry, .processed entry ∈ session.recordsOf waiter := by
    have known := passed.accounted.known waiter (List.mem_append_right _ listed)
    obtain ⟨entry, processed, own⟩ := List.mem_map.mp known
    subst own
    exact ⟨entry, (mem_recordsOf rfl).mpr (mem_ledger.mp processed)⟩
  have unlapsed : .overtaken waiter ∉ session.recordsOf waiter := fun recorded => by
    have ending := passed.patient.overtaken waiter ((mem_recordsOf rfl).mp recorded)
    rw [ongoing] at ending
    cases ending
  have hears : session.listens waiter = call.listens := by
    unfold Session.listens
    rw [found, Option.any_some]
  rw [hears] at registration
  have story := passed.chronicle.stories waiter call found
  generalize session.recordsOf waiter = records at *
  cases story with
  | @processed request signal command response sends registers =>
      obtain ⟨topic, recorded⟩ := registration rfl
      simp only [processedStory, List.mem_cons, List.not_mem_nil, or_false] at recorded
      rcases recorded with impossible | impossible | same
      · cases impossible
      · cases impossible
      · obtain ⟨-, rfl, rfl⟩ := Processed.mk.inj (Happening.processed.inj same)
        have asks : ∃ topic limit, request = .waitSignal topic limit := by
          cases request <;> cases sends
          exact ⟨_, _, rfl⟩
        exact .inr ⟨asks, ⟨_, rfl⟩, silent, rfl⟩
  | listening => exact .inr ⟨⟨_, _, rfl⟩, ⟨_, rfl⟩, silent, rfl⟩
  | deserted => exact absurd (by simp) unlapsed
  | overtaken => exact absurd (by simp) unlapsed
  | fresh => obtain ⟨entry, impossible⟩ := served; simp at impossible
  | seeking => obtain ⟨entry, impossible⟩ := served; simp at impossible
  | queued => obtain ⟨entry, impossible⟩ := served; simp at impossible
  | asking => obtain ⟨entry, impossible⟩ := served; simp at impossible
  | _ => exact .inl rfl

/-! ## Equal prospects -/

/-- Two scenes that go on, that agree in all but their calls, and whose calls come to the
same. -/
structure Agree (left right : Session V) : Prop extends Kindred left right where
  prospects : left.prospects = right.prospects
  leftPassed : Passed left
  rightPassed : Passed right
  runs : left.backendRuns = true
  ongoing : left.control.ending = false

namespace Agree

variable {envelope : Envelope V} {leftRest rightRest : Mailbox (Envelope V) × Option Nat}

theorem rightRuns (agree : Agree left right) : right.backendRuns = true := by
  have runs := agree.runs
  unfold backendRuns at runs ⊢
  rwa [← agree.backend]

theorem rightOngoing (agree : Agree left right) : right.control.ending = false :=
  agree.control ▸ agree.ongoing

/-- The calls of one number come to the same. -/
theorem pair (agree : Agree left right) (id : Nat) :
    left.calls[id]? = none ∧ right.calls[id]? = none
      ∨ ∃ call other, left.calls[id]? = some call ∧ right.calls[id]? = some other
        ∧ call.prospect left.clock left.phase = other.prospect left.clock left.phase := by
  have same := congrArg (fun prospects : List (Call V) => prospects[id]?) agree.prospects
  rw [getElem?_prospects, getElem?_prospects, ← agree.clock, ← agree.phase] at same
  cases found : left.calls[id]? with
  | none =>
      rw [found, Option.map_none, eq_comm, Option.map_eq_none_iff] at same
      exact .inl ⟨rfl, same⟩
  | some call =>
      rw [found, Option.map_some, eq_comm, Option.map_eq_some_iff] at same
      obtain ⟨other, present, equal⟩ := same
      exact .inr ⟨call, other, rfl, present, equal.symm⟩

/-- The same waiters listen. -/
theorem listens (agree : Agree left right) {waiter : Nat}
    (listed : waiter ∈ left.subscriptions.allWaiters) :
    left.listens waiter = right.listens waiter := by
  unfold Session.listens
  rcases agree.pair waiter with ⟨absent, missing⟩ | ⟨call, other, found, present, same⟩
  · rw [absent, missing]
  · have first := agree.leftPassed.enlisted agree.runs agree.ongoing listed found
    have second := agree.rightPassed.enlisted agree.rightRuns agree.rightOngoing
      (agree.subscriptions ▸ listed) present
    rw [found, present, Option.any_some, Option.any_some, ← Call.listens_eq first,
      ← Call.listens_eq second, same]

theorem effect (agree : Agree left right) (caller : Nat) (command : Command V) :
    left.effect caller command = right.effect caller command :=
  agree.toKindred.effect (fun _ listed => agree.listens listed) caller command

/-- The caller of a command in both mailboxes is the same call in both scenes. -/
theorem caller (agree : Agree left right) (leftQueued : envelope ∈ left.mailbox.queued)
    (rightQueued : envelope ∈ right.mailbox.queued) :
    left.calls[envelope.caller]? = right.calls[envelope.caller]? := by
  rcases agree.pair envelope.caller with ⟨absent, missing⟩ | ⟨call, other, found, present, same⟩
  · rw [absent, missing]
  · rw [agree.leftPassed.unanswered agree.runs agree.ongoing leftQueued found,
      agree.rightPassed.unanswered agree.rightRuns agree.rightOngoing rightQueued present] at same
    rw [found, present, same]

/-- Serving a command leads from equal prospects to equal prospects. -/
theorem prospects_changed (agree : Agree left right) (leftQueued : envelope ∈ left.mailbox.queued)
    (rightQueued : envelope ∈ right.mailbox.queued) (id : Nat) :
    (left.calls[id]?.map (Call.applyAll id (left.serveChanges envelope))).map
        (Call.prospect left.clock left.phase)
      = (right.calls[id]?.map (Call.applyAll id (right.serveChanges envelope))).map
        (Call.prospect left.clock left.phase) := by
  have changes : left.serveChanges envelope = right.serveChanges envelope := by
    unfold serveChanges entryFor
    rw [agree.effect]
  by_cases own : envelope.caller = id
  · subst own
    rw [changes, agree.caller leftQueued rightQueued]
  · rcases agree.pair id with ⟨absent, missing⟩ | ⟨call, other, found, present, same⟩
    · rw [absent, missing]
      rfl
    · have reached (call : Call V) :
          Call.applyAll id (right.serveChanges envelope) call
            = if id ∈ (right.effect envelope.caller envelope.command).woken then
                call.apply id (.signal id .raised) else call := by
        unfold serveChanges
        rw [Call.applyAll_append, Call.applyAll_raise, Call.applyAll_cons, Call.applyAll_nil]
        exact reply_elsewhere own _ _
      rw [changes, found, present, Option.map_some, Option.map_some, Option.map_some,
        Option.map_some, reached, reached]
      split
      case isFalse => rw [same]
      case isTrue woken =>
        obtain ⟨topic, member⟩ :=
          listed_of_mem_woken agree.rightPassed.accounted.distinct woken
        have listed : id ∈ left.subscriptions.allWaiters := agree.subscriptions ▸
          Subscriptions.mem_allWaiters_of_mem_waiters (List.mem_filter.mp member).1
        rw [Call.prospect_raise
          (agree.leftPassed.enlisted agree.runs agree.ongoing listed found)
          (agree.rightPassed.enlisted agree.rightRuns agree.rightOngoing
            (agree.subscriptions ▸ listed) present) same]

/-- The logs of a command are the same in both scenes. -/
theorem serveLog (agree : Agree left right) (envelope : Envelope V) :
    left.serveLog envelope = right.serveLog envelope := by
  unfold Session.serveLog entryFor
  rw [agree.effect]

/-- The backends of both scenes serve the same command. -/
theorem kindred_serveOne (agree : Agree left right) (serving : left.isServing)
    (docile : ∀ prop ∈ left.props.props, prop.isDocile = true)
    (leftTaken : left.mailbox.take? = some (envelope, leftRest))
    (rightTaken : right.mailbox.take? = some (envelope, rightRest)) :
    Kindred (left.serveOne envelope leftRest) (right.serveOne envelope rightRest) :=
  agree.toKindred.serveOne serving docile (agree.effect _ _) leftTaken rightTaken

/-- A command that takes no time leads from equal prospects to equal prospects. -/
theorem prospects_serveOne (agree : Agree left right) (serving : left.isServing)
    (leftTaken : left.mailbox.take? = some (envelope, leftRest))
    (rightTaken : right.mailbox.take? = some (envelope, rightRest))
    (instant : Happening.elapsed (left.serveLog envelope) = 0) :
    (left.serveOne envelope leftRest).prospects
      = (right.serveOne envelope rightRest).prospects := by
  have rightServing : right.isServing := by
    unfold isServing at serving ⊢
    rwa [← agree.backend]
  obtain ⟨_, -, leftGrowth⟩ := serveOne_evolves serving envelope leftRest
  obtain ⟨_, -, rightGrowth⟩ := serveOne_evolves rightServing envelope rightRest
  have leftClock : (left.serveOne envelope leftRest).clock = left.clock := by
    have moved := leftGrowth.clock
    rwa [instant] at moved
  have rightClock : (right.serveOne envelope rightRest).clock = right.clock := by
    have moved := rightGrowth.clock
    rwa [← agree.serveLog, instant] at moved
  refine List.ext_getElem? fun id => ?_
  have changed :=
    agree.prospects_changed (queued_of_take? leftTaken) (queued_of_take? rightTaken) id
  rw [getElem?_prospects, getElem?_prospects, leftGrowth.calls, rightGrowth.calls, leftClock,
    rightClock, leftGrowth.phase, rightGrowth.phase]
  show _ = Option.map (Call.prospect right.clock right.phase) _
  rw [← agree.clock, ← agree.phase]
  exact changed

end Agree

end Session

end BoundedScene
