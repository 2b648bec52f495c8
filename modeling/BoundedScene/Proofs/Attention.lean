import BoundedScene.Proofs.Chronicle
import BoundedScene.Proofs.Slots

/-!
Contract: no task of a scene is forgotten.

Owns:
- `CanGoOn`, the calls that would get further if they had a turn, and the same for the
  backend;
- `Attentive`, the invariant that whoever can go on is ready.

Main statement: `Reachable.attentive`.

Does not own: in which order the ready tasks take their turns.
-/

namespace BoundedScene

open BoundedScene.Supervision (Control)

namespace Session

variable {V : Type}

/-- A call that gets further in its next turn.  The deadline of a wait for a signal is not
looked at. -/
inductive CanGoOn (session : Session V) (id : Nat) (call : Call V) : Prop where
  | starts (fresh : call.stage = .fresh)
  | enters (seeks : call.stage = .seekingSlot)
      (moves : session.control.ending = true ∨ id ∈ session.mailbox.granted)
  | replies (waits : call.stage = .awaitingReply)
      (moves : call.reply ≠ .pending ∨ session.control.ending = true)
  | hears {deadline : Option Nat} (waits : call.stage = .awaitingSignal deadline)
      (moves : call.signal ≠ .pending ∨ session.control.ending = true)
  | ends (waits : call.stage = .awaitingResult) (set : session.result?.isSome = true)

/-- The backend gets further in its next turn, whatever the time and the handles. -/
def BackendCanGoOn (session : Session V) : Prop :=
  session.backendRuns = true ∧ (session.backend = .fresh ∨ session.control.stopRequested = true
    ∨ session.mailbox.queued ≠ [])

def Seeks (session : Session V) (id : Nat) : Prop :=
  ∃ call, session.calls[id]? = some call ∧ call.stage = .seekingSlot

/-- Whoever can go on is ready, except perhaps the task whose turn it is; and the callers
that look for a slot are in line for one. -/
structure Attentive (session : Session V) (busy : Option SceneTask) : Prop where
  calls : ∀ id call, session.calls[id]? = some call → session.CanGoOn id call →
    busy ≠ some (.call id) → .call id ∈ session.agenda.ready
  backend : session.BackendCanGoOn → busy ≠ some .backend → .backend ∈ session.agenda.ready
  lines : session.mailbox.Lines session.Seeks

variable {before earlier after : Session V} {busy : Option SceneTask}
  {log : List (Happening V)} {changes : List (CallChange V)} {events : List Event}

/-! ## What growth keeps -/

/-- The scene that a growth starts from, up to its tables. -/
structure SameTasks (before earlier : Session V) : Prop where
  calls : earlier.calls = before.calls
  control : earlier.control = before.control
  ready : earlier.agenda.ready = before.agenda.ready

/-- A call that can go on after a growth that did not move it is ready. -/
theorem Attentive.ready_of_growth (attentive : before.Attentive busy)
    (growth : Evolves log changes events earlier after) (same : SameTasks before earlier)
    (granted : ∀ id ∈ after.mailbox.granted,
      id ∈ before.mailbox.granted ∨ .call id ∈ after.agenda.ready) {id : Nat} {call : Call V}
    (found : after.calls[id]? = some call)
    (unmoved : ∀ change ∈ changes, change.moved? ≠ some id) (can : after.CanGoOn id call)
    (idle : busy ≠ some (.call id)) : .call id ∈ after.agenda.ready := by
  rw [growth.calls, Option.map_eq_some_iff] at found
  obtain ⟨old, present, rfl⟩ := found
  have sameStage := Call.applyAll_stage unmoved old
  have sameResult : earlier.result? = before.result? := by
    unfold result?
    rw [same.control]
  by_contra unready
  have unstirred : ¬Stirred changes earlier after id old := fun stirred =>
    unready (growth.alerts.calls id old present unmoved stirred)
  have stuck : ¬before.CanGoOn id old := fun could => by
    have ready := attentive.calls id old (same.calls ▸ present) could idle
    exact unready (growth.ready _ (same.ready ▸ ready))
  simp only [Stirred, not_or, Classical.not_not] at unstirred
  obtain ⟨sameReply, sameSignal, unended, untold⟩ := unstirred
  -- A scene that only starts to end now would have stirred the call.
  have ended (watches : old.watchesEnding = true) (ending : after.control.ending = true) :
      before.control.ending = true := by
    cases flag : before.control.ending with
    | true => rfl
    | false => exact absurd ⟨same.control ▸ flag, ending, watches⟩ unended
  cases can with
  | starts fresh => exact stuck (.starts (sameStage ▸ fresh))
  | enters seeks moves =>
      rw [sameStage] at seeks
      have watches : old.watchesEnding = true := by simp [Call.watchesEnding, seeks]
      rcases moves with ending | place
      · exact stuck (.enters seeks (.inl (ended watches ending)))
      · rcases granted id place with already | ready
        · exact stuck (.enters seeks (.inr already))
        · exact unready ready
  | replies waits moves =>
      rw [sameStage] at waits
      have watches : old.watchesEnding = true := by simp [Call.watchesEnding, waits]
      rcases moves with replied | ending
      · exact stuck (.replies waits (.inl (sameReply ▸ replied)))
      · exact stuck (.replies waits (.inr (ended watches ending)))
  | hears waits moves =>
      rw [sameStage] at waits
      have watches : old.watchesEnding = true := by simp [Call.watchesEnding, waits]
      rcases moves with signalled | ending
      · exact stuck (.hears waits (.inl (sameSignal ▸ signalled)))
      · exact stuck (.hears waits (.inr (ended watches ending)))
  | ends waits set =>
      rw [sameStage] at waits
      have watches : old.watchesResult = true := by simp [Call.watchesResult, waits]
      cases result : before.result? with
      | none => exact untold ⟨sameResult.trans result, set, watches⟩
      | some stored => exact stuck (.ends waits (by simp [result]))

theorem Attentive.backendReady_of_growth (attentive : before.Attentive busy)
    (growth : Evolves log changes events earlier after) (same : SameTasks before earlier)
    (backend : earlier.backend = before.backend)
    (queued : after.mailbox.queued.length ≤ before.mailbox.queued.length
      ∨ .backend ∈ after.agenda.ready) (can : after.BackendCanGoOn)
    (idle : busy ≠ some .backend) : .backend ∈ after.agenda.ready := by
  have unchanged : after.backend = before.backend := growth.backend.trans backend
  have runs : before.backendRuns = true := by
    simpa only [backendRuns, unchanged] using can.1
  have kept (could : before.BackendCanGoOn) : .backend ∈ after.agenda.ready :=
    growth.ready _ (same.ready ▸ attentive.backend could idle)
  rcases can.2 with fresh | stopped | waiting
  · exact kept ⟨runs, .inl (unchanged ▸ fresh)⟩
  · cases flag : before.control.stopRequested with
    | true => exact kept ⟨runs, .inr (.inl flag)⟩
    | false => exact growth.alerts.backend (same.control ▸ flag) stopped
  · rcases queued with shorter | ready
    · refine kept ⟨runs, .inr (.inr fun empty => waiting ?_)⟩
      rw [empty] at shorter
      exact List.length_eq_zero_iff.mp (Nat.le_zero.mp shorter)
    · exact ready

theorem seeks_of_growth (growth : Evolves log changes events earlier after)
    (same : SameTasks before earlier) {id : Nat}
    (unmoved : ∀ change ∈ changes, change.moved? ≠ some id) : after.Seeks id ↔ before.Seeks id := by
  unfold Seeks
  rw [growth.calls, same.calls]
  constructor
  · rintro ⟨call, found, seeks⟩
    obtain ⟨old, present, rfl⟩ := Option.map_eq_some_iff.mp found
    exact ⟨old, present, Call.applyAll_stage unmoved old ▸ seeks⟩
  · rintro ⟨old, present, seeks⟩
    exact ⟨_, Option.map_eq_some_iff.mpr ⟨old, present, rfl⟩,
      (Call.applyAll_stage unmoved old).trans seeks⟩

/-- Growth that moves no call and leaves the mailbox alone. -/
theorem Attentive.quiet (attentive : before.Attentive busy)
    (growth : Evolves log [] events earlier after) (same : SameTasks before earlier)
    (backend : earlier.backend = before.backend)
    (mailbox : earlier.mailbox = before.mailbox) : after.Attentive busy where
  calls id call found can idle :=
    attentive.ready_of_growth growth same
      (fun id member => .inl (by rwa [growth.mailbox, mailbox] at member)) found (by simp) can idle
  backend can idle :=
    attentive.backendReady_of_growth growth same backend
      (.inl (Nat.le_of_eq (by rw [growth.mailbox, mailbox]))) can idle
  lines := by
    rw [growth.mailbox, mailbox]
    exact attentive.lines.congr fun id => seeks_of_growth growth same (by simp)

/-! ## The turn of a call -/

/-- A stage in which a call with a given signal waits for something that has not come
yet. -/
inductive Waits (control : Control SceneError) (signal : SignalSlot) : Stage V → Prop where
  | finished {answer : Answer V} {millisecond : Nat} :
      Waits control signal (.finished answer millisecond)
  | forSignal {deadline : Option Nat} (silent : signal = .pending)
      (ongoing : control.ending = false) : Waits control signal (.awaitingSignal deadline)
  | forResult (unset : settled? control = none) : Waits control signal .awaitingResult

section Turns

variable {control : Control SceneError} {clock : Clock} {id : Nat} {call : Call V}
  {request : Request V} {stage : Stage V}

theorem ResultTurn.waits_after (turn : ResultTurn control id request log stage)
    (signal : SignalSlot) : Waits control signal stage := by
  cases turn with
  | waits unset => exact .forResult unset
  | told set => exact .finished

theorem SignalTurn.waits_after {topic : String} {deadline : Option Nat}
    (turn : SignalTurn control clock id call topic deadline log stage) :
    Waits control call.signal stage := by
  cases turn with
  | raised raised => exact .finished
  | overtaken lapsed turn => exact turn.waits_after call.signal
  | expired silent ongoing due => exact .finished
  | waits silent ongoing early => exact .forSignal silent ongoing

theorem ReplyTurn.waits_after {response : Response V}
    (turn : ReplyTurn control clock id call response log stage) :
    Waits control call.signal stage := by
  cases turn with
  | answered final => exact .finished
  | registered deadline asks accepted turn => exact turn.waits_after

theorem Waits.unseeking {signal : SignalSlot} (waits : Waits control signal stage) :
    stage ≠ .seekingSlot := by
  rintro rfl
  cases waits

theorem Waits.stuck (waits : Waits control call.signal stage)
    (same : after.result? = settled? control) (at_ : call.stage = stage)
    (ongoing : ∀ deadline, stage = .awaitingSignal deadline →
      after.control.ending = control.ending) : ¬after.CanGoOn id call := by
  intro can
  cases can with
  | starts fresh =>
      rw [at_] at fresh
      subst fresh
      cases waits
  | enters seeks => exact waits.unseeking (at_.symm.trans seeks)
  | replies now =>
      rw [at_] at now
      subst now
      cases waits
  | hears now moves =>
      rw [at_] at now
      subst now
      cases waits with
      | forSignal silent calm => simp [silent, ongoing _ rfl, calm] at moves
  | ends now set =>
      rw [at_] at now
      subst now
      cases waits with
      | forResult unset =>
          rw [same, unset] at set
          cases set

end Turns

variable {id : Nat} {call : Call V} {mailbox : Mailbox (Envelope V)}

theorem CallTurn.seeks_elsewhere (turn : CallTurn before id call log changes mailbox)
    (calls : ∀ other : Nat,
      after.calls[other]? = before.calls[other]?.map (Call.applyAll other changes))
    {other : Nat} (elsewhere : id ≠ other) : after.Seeks other ↔ before.Seeks other := by
  unfold Seeks
  rw [calls]
  constructor
  · rintro ⟨call, found, seeks⟩
    obtain ⟨old, present, rfl⟩ := Option.map_eq_some_iff.mp found
    exact ⟨old, present, turn.elsewhere elsewhere old ▸ seeks⟩
  · rintro ⟨old, present, seeks⟩
    exact ⟨_, Option.map_eq_some_iff.mpr ⟨old, present, rfl⟩,
      (turn.elsewhere elsewhere old).symm ▸ seeks⟩

/-- A call that comes to wait for a signal does not start the end of the scene. -/
theorem CallTurn.placid (turn : CallTurn before id call log changes mailbox)
    {deadline : Option Nat}
    (listens : (Call.applyAll id changes call).stage = .awaitingSignal deadline) :
    log.any Happening.beginsEnding = false := by
  have unsettled {log : List (Happening V)} {stage : Stage V}
      (turn : ResultTurn before.control id call.request log stage) :
      stage ≠ .awaitingSignal deadline := by
    cases turn <;> exact nofun
  have silent {topic : String} {limit : Option Nat} {log : List (Happening V)} {stage : Stage V}
      (turn : SignalTurn before.control before.clock id call topic limit log stage)
      (still : stage = .awaitingSignal deadline) : log = [] := by
    cases turn with
    | overtaken lapsed turn => exact absurd still (unsettled turn)
    | waits => rfl
    | _ => cases still
  cases turn with
  | rests => rfl
  | strays => rfl
  | replied waiting filled turn =>
      cases turn with
      | answered => simp [Call.apply] at listens
      | registered limit asks accepted turn =>
          rw [silent turn (by simpa [Call.apply] using listens)]
          rfl
  | listens waiting asks turn =>
      rw [silent turn (by simpa [Call.apply] using listens)]
      rfl
  | stops fresh asks turn => exact absurd (by simpa [Call.apply] using listens) (unsettled turn)
  | waits fresh asks turn => exact absurd (by simpa [Call.apply] using listens) (unsettled turn)
  | overtaken waiting lapsed turn =>
      exact absurd (by simpa [Call.apply] using listens) (unsettled turn)
  | asks waiting turn => exact absurd (by simpa [Call.apply] using listens) (unsettled turn)
  | aborts => simp [Call.apply] at listens
  | looks => simp [Call.apply] at listens
  | submits opens sends turn => cases turn <;> simp [Call.apply] at listens

/-- A turn in which the call comes to wait for something other than a slot. -/
theorem CallTurn.settles_waiting (turn : CallTurn before id call log changes mailbox)
    (found : before.calls[id]? = some call) (lines : before.mailbox.Lines before.Seeks)
    (calls : ∀ other : Nat,
      after.calls[other]? = before.calls[other]?.map (Call.applyAll other changes))
    (control : after.control = log.foldl steer before.control)
    (unsought : call.stage ≠ .seekingSlot)
    (waits : Waits before.control (Call.applyAll id changes call).signal
      (Call.applyAll id changes call).stage) :
    ¬after.CanGoOn id (Call.applyAll id changes call) ∧ before.mailbox.Lines after.Seeks := by
  have steady : ∀ happening ∈ log, happening.concludes = false := fun happening member =>
    Happening.concludes_of_isCalm (turn.isByCall happening member).calm
  have same : after.result? = settled? before.control := by
    unfold result? settled? Control.result?
    rw [control, foldl_steer_outcome _ steady, foldl_steer_lost]
  have ongoing (deadline : Option Nat)
      (listens : (Call.applyAll id changes call).stage = .awaitingSignal deadline) :
      after.control.ending = before.control.ending := by
    rw [control, foldl_steer_ending, turn.placid listens, Bool.or_false]
  refine ⟨waits.stuck same rfl ongoing, lines.congr fun other => ?_⟩
  by_cases own : id = other
  · subst own
    unfold Seeks
    rw [calls, found]
    constructor
    · rintro ⟨_, ⟨⟩, seeks⟩
      exact absurd seeks waits.unseeking
    · rintro ⟨_, ⟨⟩, seeks⟩
      exact absurd seeks unsought
  · exact turn.seeks_elsewhere calls own

/-- A call that tried to enter the mailbox. -/
theorem SubmitTurn.settles {submitted : List (Happening V)} {stage : Stage V}
    {command : Command V}
    (turn : SubmitTurn before.control before.mailbox id command submitted stage mailbox)
    (pending : call.reply = .pending) (lines : before.mailbox.Lines before.Seeks)
    (slots : after.mailbox = mailbox)
    (ending : after.control.ending
      = (before.control.ending || submitted.any Happening.beginsEnding))
    (own : after.Seeks id ↔ stage = .seekingSlot)
    (others : ∀ other, other ≠ id → (after.Seeks other ↔ before.Seeks other)) :
    ¬after.CanGoOn id { call with stage } ∧ mailbox.Lines after.Seeks := by
  cases turn with
  | refused barred =>
      refine ⟨fun can => by cases can <;> simp_all, (lines.leave id).congr fun other => ?_⟩
      by_cases same : other = id
      · simp [same, own]
      · simp [same, others]
  | enters ongoing unclosed admitted =>
      refine ⟨fun can => ?_, (lines.enter admitted _).congr fun other => ?_⟩
      · cases can <;> simp_all [Happening.beginsEnding]
      · by_cases same : other = id
        · simp [same, own]
        · simp [same, others]
  | linesUp ongoing unclosed full =>
      refine ⟨fun can => ?_, (lines.await full).congr fun other => ?_⟩
      · have ungranted : id ∉ before.mailbox.granted := by
          have refused : id ∉ before.mailbox.granted ∧ before.mailbox.free = 0 := by
            simpa [Mailbox.admits] using full
          exact refused.1
        have granted : after.mailbox.granted = before.mailbox.granted := by
          rw [slots, Mailbox.await]
          split <;> rfl
        cases can <;> simp_all
      · by_cases same : other = id
        · simp [same, own]
        · simp [same, others]

/-- A call that is over, or waits for a reply in a scene that goes on, cannot go on. -/
theorem stuck_of_resting (resting : call.isUnfinished = false
      ∨ call.awaitsReply = true ∧ call.reply = .pending ∧ before.control.ending = false)
    (ending : after.control.ending = before.control.ending) : ¬after.CanGoOn id call := by
  intro can
  rcases resting with finished | ⟨waits, pending, ongoing⟩
  · cases can with
    | starts now => simp [Call.isUnfinished, now] at finished
    | enters now => simp [Call.isUnfinished, now] at finished
    | replies now => simp [Call.isUnfinished, now] at finished
    | hears now => simp [Call.isUnfinished, now] at finished
    | ends now => simp [Call.isUnfinished, now] at finished
  · cases can with
    | starts now => simp [Call.awaitsReply, now] at waits
    | enters now => simp [Call.awaitsReply, now] at waits
    | replies now moves => simp [pending, ending, ongoing] at moves
    | hears now => simp [Call.awaitsReply, now] at waits
    | ends now => simp [Call.awaitsReply, now] at waits

/-- After its turn a call cannot go on before something else happens, and the lines for
the mailbox are in order. -/
theorem CallTurn.settles (turn : CallTurn before id call log changes mailbox)
    (found : before.calls[id]? = some call) {records : List (Happening V)}
    (story : Story before id call records) (lines : before.mailbox.Lines before.Seeks)
    (calls : ∀ other : Nat,
      after.calls[other]? = before.calls[other]?.map (Call.applyAll other changes))
    (control : after.control = log.foldl steer before.control)
    (slots : after.mailbox = mailbox) :
    ¬after.CanGoOn id (Call.applyAll id changes call) ∧ mailbox.Lines after.Seeks := by
  have whole := turn
  cases turn with
  | rests resting =>
      have same (other : Nat) : after.calls[other]? = before.calls[other]? := by
        rw [calls]
        cases before.calls[other]? <;> rfl
      exact ⟨stuck_of_resting resting (by rw [control]; rfl),
        lines.congr fun other => by unfold Seeks; rw [same]⟩
  | strays stray =>
      exfalso
      rcases stray with ⟨seeks, plain⟩ | ⟨deadline, waits, other⟩
      · cases story <;> simp_all
      · cases story <;> simp_all
  | stops fresh asks turn =>
      refine whole.settles_waiting found lines calls control (by simp [fresh]) ?_
      rw [Call.applyAll_staged]
      exact turn.waits_after _
  | waits fresh asks turn =>
      refine whole.settles_waiting found lines calls control (by simp [fresh]) ?_
      rw [Call.applyAll_staged]
      exact turn.waits_after _
  | aborts fresh asks =>
      refine whole.settles_waiting found lines calls control (by simp [fresh]) ?_
      rw [Call.applyAll_staged]
      exact .finished
  | looks fresh asks =>
      refine whole.settles_waiting found lines calls control (by simp [fresh]) ?_
      rw [Call.applyAll_staged]
      exact .finished
  | replied waiting filled turn =>
      refine whole.settles_waiting found lines calls control (by simp [waiting]) ?_
      rw [Call.applyAll_staged]
      exact turn.waits_after
  | overtaken waiting lapsed turn =>
      refine whole.settles_waiting found lines calls control (by simp [waiting]) ?_
      rw [Call.applyAll_cons, Call.applyAll_staged]
      exact turn.waits_after _
  | listens waiting asks turn =>
      refine whole.settles_waiting found lines calls control (by simp [waiting]) ?_
      rw [Call.applyAll_staged]
      exact turn.waits_after
  | asks waiting turn =>
      refine whole.settles_waiting found lines calls control (by simp [waiting]) ?_
      rw [Call.applyAll_staged]
      exact turn.waits_after _
  | @submits opening submitted stage command mailbox opens sends turn =>
      have seeksOwn : after.Seeks id ↔ stage = .seekingSlot := by
        unfold Seeks
        rw [calls, found]
        constructor
        · rintro ⟨_, ⟨⟩, seeks⟩
          rw [Call.applyAll_staged] at seeks
          exact seeks
        · intro seeks
          exact ⟨_, rfl, (congrArg Call.stage (Call.applyAll_staged id stage call)).trans seeks⟩
      have ending : after.control.ending
          = (before.control.ending || (opening ++ submitted).any Happening.beginsEnding) := by
        rw [control, foldl_steer_ending]
      have opened : opening.any Happening.beginsEnding = false :=
        List.any_eq_false.mpr fun happening member => by simp [opens.early.2.2 happening member]
      rw [List.any_append, opened, Bool.false_or] at ending
      have pending : call.reply = .pending := by
        generalize stage : call.stage = now at opens
        cases story <;> cases stage <;> first | rfl | cases opens
      rw [Call.applyAll_staged]
      exact turn.settles pending lines slots ending seeksOwn fun other different =>
        whole.seeks_elsewhere calls different.symm

theorem CallTurn.moves_own (turn : CallTurn before id call log changes mailbox) {other : Nat}
    (elsewhere : id ≠ other) : ∀ change ∈ changes, change.moved? ≠ some other := by
  cases turn <;> simp [CallChange.moved?, elsewhere]

theorem Attentive.turn (attentive : before.Attentive (some (.call id)))
    (chronicle : before.Chronicle) : (before.resumeCall id).Attentive none := by
  cases found : before.calls[id]? with
  | none =>
      have still : before.resumeCall id = before := by
        unfold resumeCall
        rw [found]
      rw [still]
      refine ⟨fun other call present can _ => ?_, fun can _ => ?_, attentive.lines⟩
      · refine attentive.calls other call present can fun same => ?_
        cases same
        rw [found] at present
        cases present
      · exact attentive.backend can (by simp)
  | some call =>
      obtain ⟨log, changes, mailbox, turn, growth, alerts⟩ :=
        before.resumeCall_turnsBy id call found
      generalize before.resumeCall id = after at growth alerts ⊢
      obtain ⟨settled, lines⟩ := turn.settles found (chronicle.stories id call found)
        attentive.lines growth.calls growth.control growth.mailbox
      have same : SameTasks before { before with mailbox } := ⟨rfl, rfl, rfl⟩
      refine ⟨fun other otherCall present can _ => ?_, fun can _ => ?_, ?_⟩
      · by_cases own : id = other
        · subst own
          rw [growth.calls, show ({ before with mailbox } : Session V).calls = before.calls
            from rfl, found] at present
          cases present
          exact absurd can settled
        · exact attentive.ready_of_growth growth same alerts.granted present
            (turn.moves_own own) can fun equal => own (by cases equal; rfl)
      · exact attentive.backendReady_of_growth growth same rfl alerts.queued can (by simp)
      · rw [growth.mailbox]
        exact lines

/-! ## What the users do -/

theorem CanGoOn.of_same (can : after.CanGoOn id call) (control : after.control = before.control)
    (mailbox : after.mailbox = before.mailbox) : before.CanGoOn id call := by
  have result : after.result? = before.result? := by
    unfold result?
    rw [control]
  cases can with
  | starts fresh => exact .starts fresh
  | enters seeks moves => exact .enters seeks (by rwa [control, mailbox] at moves)
  | replies waits moves => exact .replies waits (by rwa [control] at moves)
  | hears waits moves => exact .hears waits (by rwa [control] at moves)
  | ends waits set => exact .ends waits (by rwa [result] at set)

theorem Attentive.make (attentive : before.Attentive busy) (request : Request V) :
    (before.makeCall request).Attentive busy := by
  have calls : (before.makeCall request).calls = before.calls ++ [({ request } : Call V)] :=
    rfl
  refine ⟨fun id call found can idle => ?_, fun can idle => ?_, ?_⟩
  · refine Agenda.mem_wakeAll.mpr ?_
    rw [calls, List.getElem?_append] at found
    split at found
    case isTrue =>
      exact .inr (attentive.calls id call found (can.of_same rfl rfl) idle)
    case isFalse beyond =>
      have inside := (List.getElem?_eq_some_iff.mp found).1
      rw [List.length_singleton] at inside
      have own : id = before.calls.length := by omega
      exact .inl (List.mem_singleton.mpr (by rw [own]))
  · exact Agenda.mem_wakeAll.mpr (.inr (attentive.backend can idle))
  · refine attentive.lines.congr fun id => ?_
    unfold Seeks
    rw [calls]
    constructor
    · rintro ⟨call, found, seeks⟩
      rw [List.getElem?_append] at found
      split at found
      · exact ⟨call, found, seeks⟩
      · rw [List.mem_singleton.mp (List.mem_of_getElem? found)] at seeks
        cases seeks
    · rintro ⟨call, found, seeks⟩
      have inside := (List.getElem?_eq_some_iff.mp found).1
      exact ⟨call, by rwa [List.getElem?_append_left inside], seeks⟩

theorem Attentive.cancel (attentive : before.Attentive busy) (found : before.calls[id]? = some call)
    (unfinished : call.isUnfinished = true) : (before.cancel id).Attentive busy := by
  obtain ⟨growth, alerts⟩ := before.cancel_evolves found unfinished
  generalize before.cancel id = after at growth alerts ⊢
  have same : SameTasks before { before with mailbox := (before.mailbox.leave id).1 } :=
    ⟨rfl, rfl, rfl⟩
  have own : after.calls[id]? = some { call with stage := .dropped } := by
    rw [growth.calls]
    show before.calls[id]?.map _ = _
    rw [found]
    simp [Call.apply]
  refine ⟨fun other otherCall present can idle => ?_, fun can idle => ?_, ?_⟩
  · by_cases hit : id = other
    · subst hit
      rw [own] at present
      cases present
      cases can <;> simp_all
    · exact attentive.ready_of_growth growth same alerts.granted present
        (by simp [CallChange.moved?, hit]) can idle
  · exact attentive.backendReady_of_growth growth same rfl alerts.queued can idle
  · rw [growth.mailbox]
    refine (attentive.lines.leave id).congr fun other => ?_
    by_cases hit : id = other
    · subst hit
      unfold Seeks
      rw [own]
      simp
    · have different : other ≠ id := fun equal => hit equal.symm
      rw [seeks_of_growth growth same (by simp [CallChange.moved?, hit])]
      simp [different]

/-- With the tasks every call that was under way is gone. -/
theorem isUnfinished_dropTasks {id : Nat} {call : Call V}
    (found : before.dropTasks.calls[id]? = some call) : call.isUnfinished = false := by
  obtain ⟨old, -, rfl⟩ := origin_of_dropTasks found
  by_cases unfinished : old.isUnfinished = true
  · rw [if_pos unfinished]
    rfl
  · rw [if_neg unfinished]
    simpa using unfinished

theorem Attentive.lose (attentive : before.Attentive busy) : before.dropTasks.Attentive busy := by
  refine ⟨fun id call found can _ => ?_, fun can _ => ?_, ?_⟩
  · have finished := isUnfinished_dropTasks found
    cases can <;> simp_all [Call.isUnfinished]
  · have runs := can.1
    rw [backendRuns_dropTasks] at runs
    cases runs
  · exact attentive.lines.closed _

theorem Attentive.act (attentive : before.Attentive busy) (deed : Deed V) :
    (before.act deed).Attentive busy := by
  cases deed with
  | call request => exact attentive.make request
  | cancel id =>
      cases found : before.calls[id]? with
      | none =>
          have still : before.cancel id = before := by
            unfold Session.cancel
            rw [found]
          rwa [Session.act, still]
      | some call =>
          cases unfinished : call.isUnfinished with
          | true => exact attentive.cancel found unfinished
          | false =>
              have still : before.cancel id = before := by
                unfold Session.cancel
                rw [found]
                simp [unfinished]
              rwa [Session.act, still]
  | clone =>
      have same : SameTasks before (before.act .clone) := ⟨rfl, rfl, rfl⟩
      exact attentive.quiet (Evolves.refl _) same rfl rfl
  | drop handle =>
      have growth := noteHandles_evolves { before with handles := before.handles.set handle false }
      exact attentive.quiet growth ⟨rfl, rfl, rfl⟩ rfl rfl
  | release lane count =>
      exact attentive.quiet (before.release_evolves lane count) ⟨rfl, rfl, rfl⟩ rfl rfl
  | dropTasks => exact attentive.lose

/-! ## The turn of the backend -/

theorem Attentive.openUp (attentive : before.Attentive (some .backend)) :
    before.openUp.Attentive (some .backend) := by
  have growth := before.openUp_evolves
  refine ⟨fun id call found can idle => ?_, fun _ idle => absurd rfl idle, ?_⟩
  · refine attentive.ready_of_growth growth ⟨rfl, rfl, rfl⟩ (fun other member => .inl ?_) found
      (by simp) can idle
    rwa [growth.mailbox] at member
  · rw [growth.mailbox]
    exact attentive.lines.congr fun id => seeks_of_growth growth ⟨rfl, rfl, rfl⟩ (by simp)

/-- The oldest command leaves its slot to whoever waits longest. -/
theorem slots_of_take? {mailbox : Mailbox (Envelope V)} {envelope : Envelope V}
    {rest : Mailbox (Envelope V) × Option Nat} (taken : mailbox.take? = some (envelope, rest)) :
    rest.1.granted = mailbox.granted ++ rest.2.toList
      ∧ mailbox.waiting = rest.2.toList ++ rest.1.waiting := by
  unfold Mailbox.take? at taken
  split at taken
  · cases taken
  case h_2 first later queue =>
    cases taken
    refine ⟨(granted_grant { mailbox with queued := later }).1, ?_⟩
    unfold Mailbox.grant
    split
    · rfl
    case h_2 next others waiting =>
      split
      · exact waiting
      · rfl

/-- Whoever is granted the slot of a served command is ready. -/
theorem granted_serveOne (envelope : Envelope V) {rest : Mailbox (Envelope V) × Option Nat}
    (taken : before.mailbox.take? = some (envelope, rest)) :
    ∀ id ∈ rest.1.granted, id ∈ before.mailbox.granted
      ∨ .call id ∈ (before.serveOne envelope rest).agenda.ready := by
  intro id member
  rw [(slots_of_take? taken).1, List.mem_append] at member
  refine member.imp_right fun fresh => ?_
  have ready : .call id ∈ (before.relieved rest).agenda.ready :=
    Agenda.mem_wakeAll.mpr (.inl (List.mem_map_of_mem fresh))
  have processed := ((before.relieved rest).process_evolves envelope).ready _ ready
  show .call id ∈ ((before.relieved rest).process envelope).rearm.agenda.ready
  rwa [agenda_rearm]

theorem Attentive.serve (attentive : before.Attentive (some .backend))
    (serving : before.isServing) {envelope : Envelope V}
    {rest : Mailbox (Envelope V) × Option Nat}
    (taken : before.mailbox.take? = some (envelope, rest)) :
    (before.serveOne envelope rest).Attentive (some .backend) := by
  obtain ⟨backend, -, growth⟩ := serveOne_evolves serving envelope rest
  have granted := granted_serveOne envelope taken
  generalize before.serveOne envelope rest = after at growth granted ⊢
  have unmoved := before.unmoved_serveChanges envelope
  have mailbox : after.mailbox = rest.1 := growth.mailbox
  refine ⟨fun id call found can idle => ?_, fun _ idle => absurd rfl idle, ?_⟩
  · exact attentive.ready_of_growth growth ⟨rfl, rfl, rfl⟩
      (fun other member => granted other (mailbox ▸ member)) found (unmoved id) can idle
  · rw [mailbox]
    exact (attentive.lines.take taken).congr fun id =>
      seeks_of_growth growth ⟨rfl, rfl, rfl⟩ (unmoved id)

theorem Attentive.finish (attentive : before.Attentive (some .backend))
    {log : List (Happening V)} {heralds : List Event} {error : Option SceneError}
    (cause : EndCause before log heralds error after) : after.Attentive (some .backend) := by
  have growth := cause.evolves
  have unmoved := before.unmoved_endChanges
  have mailbox : after.mailbox = { before.mailbox.close.1 with queued := [] } := growth.mailbox
  refine ⟨fun id call found can idle => ?_, fun _ idle => absurd rfl idle, ?_⟩
  · refine attentive.ready_of_growth growth ⟨rfl, rfl, rfl⟩ (fun other member => ?_) found
      (unmoved id) can idle
    rw [mailbox] at member
    cases member
  · rw [mailbox]
    exact attentive.lines.closed _

theorem Attentive.serve_while (commands : Nat) (attentive : before.Attentive (some .backend))
    (serving : before.isServing) : (before.serve commands).Attentive (some .backend) :=
  serve_induction (Attentive · (some .backend))
    (fun held serving _ _ taken => held.serve serving taken)
    (fun held _ cause => held.finish cause) commands serving attentive

/-- A backend that serves as many commands as there are ends, or finds nothing to do. -/
theorem serve_idles (commands : Nat) (serving : before.isServing)
    (enough : before.mailbox.queued.length ≤ commands) :
    ¬(before.serve commands).BackendCanGoOn := by
  have halted (after : Session V) (ended : after.backend = .returned) : ¬after.BackendCanGoOn :=
    fun can => by
      have runs := can.1
      simp [backendRuns, ended] at runs
  induction commands using Nat.strongRecOn generalizing before with
  | ind commands inductionHypothesis =>
      rw [serve_eq]
      split
      case isTrue stopped => exact halted _ (EndCause.stopped stopped).backend
      case isFalse unstopped =>
        rw [Bool.not_eq_true] at unstopped
        split
        case h_1 due => exact halted _ (EndCause.timedOut unstopped due).backend
        case h_2 envelope rest later undue taken =>
          have queue := (take_queue taken).1
          obtain ⟨backend, -, growth⟩ := serveOne_evolves serving envelope rest
          refine inductionHypothesis later (Nat.lt_succ_self later)
            (serveOne_isServing serving _ _) ?_
          rw [growth.mailbox]
          rw [queue, List.length_cons] at enough
          exact Nat.le_of_succ_le_succ enough
        case h_3 undue taken =>
          rw [(take_queue taken).1] at enough
          cases enough
        case h_4 undue idle =>
          split
          case isTrue =>
            rintro ⟨-, fresh | stopped | waiting⟩
            · obtain ⟨absolute, inactivity, backend⟩ := serving
              rw [backend] at fresh
              cases fresh
            · rw [unstopped] at stopped
              cases stopped
            · unfold Mailbox.take? at idle
              split at idle
              case h_1 empty => exact waiting empty
              case h_2 => cases idle
          case isFalse unheld =>
            exact halted _ (EndCause.abandoned unstopped undue idle (by simpa using unheld)).backend

theorem Attentive.released (attentive : before.Attentive (some .backend))
    (idle : ¬before.BackendCanGoOn) : before.Attentive none where
  calls id call found can _ := attentive.calls id call found can (by simp)
  backend can _ := absurd can idle
  lines := attentive.lines

theorem Attentive.resumeBackend (attentive : before.Attentive (some .backend)) :
    before.resumeBackend.Attentive none := by
  unfold Session.resumeBackend
  split
  case h_1 fresh =>
    have serving : before.openUp.isServing := ⟨_, _, before.openUp_evolves.backend⟩
    exact (attentive.openUp.serve_while _ serving).released
      (serve_idles _ serving (Nat.le_refl _))
  case h_2 absolute inactivity backend =>
    have serving : before.isServing := ⟨absolute, inactivity, backend⟩
    exact (attentive.serve_while _ serving).released (serve_idles _ serving (Nat.le_refl _))
  case h_3 other _ =>
    refine attentive.released fun can => ?_
    have runs := can.1
    unfold backendRuns at runs
    split at runs <;> simp_all

/-! ## Along a run -/

theorem Attentive.dequeue (attentive : before.Attentive none) (task : SceneTask) :
    (before.dequeue task).Attentive (some task) where
  calls id call found can idle :=
    (List.mem_erase_of_ne fun same => idle (by rw [same])).mpr
      (attentive.calls id call found (can.of_same rfl rfl) (by simp))
  backend can idle :=
    (List.mem_erase_of_ne fun same => idle (by rw [same])).mpr (attentive.backend can (by simp))
  lines := attentive.lines

theorem Attentive.busied (attentive : before.Attentive none) (task : SceneTask) :
    before.Attentive (some task) where
  calls id call found can _ := attentive.calls id call found can (by simp)
  backend can _ := attentive.backend can (by simp)
  lines := attentive.lines

theorem IsInitial.attentive {session : Session V} (initial : session.IsInitial) :
    session.Attentive none := by
  obtain ⟨capacity, positive, mailbox⟩ := initial.mailbox
  refine ⟨fun id call found => ?_, fun _ _ => initial.ready, ?_⟩
  · simp [initial.calls] at found
  · rw [mailbox]
    exact {
      capacity := positive
      distinct := List.nodup_nil
      full := fun waiting => absurd rfl waiting
      sought := fun id member => by cases member
      placed := fun _ id ⟨call, found, _⟩ => by simp [initial.calls] at found }

theorem Attentive.move (attentive : before.Attentive none) (steered : before.Steered)
    (chronicle : before.Chronicle) (move : Move V) : (before.move move).Attentive none := by
  cases move with
  | act deed => exact attentive.act deed
  | resume task =>
      have busy := attentive.dequeue task
      cases task with
      | backend => exact busy.resumeBackend
      | call id =>
          have dequeued : Advance before (before.dequeue (.call id)) := .drifts (Evolves.refl _)
          exact busy.turn (chronicle.advance steered dequeued)
      | delivery task =>
          have growth := (before.dequeue (.delivery task)).resumeDelivery_evolves task
          have rested := busy.quiet growth ⟨rfl, rfl, rfl⟩ rfl rfl
          exact ⟨fun id call found can _ => rested.calls id call found can (by simp),
            fun can _ => rested.backend can (by simp), rested.lines⟩
  | serve commands =>
      unfold Session.move
      dsimp only
      split
      case h_1 absolute inactivity backend =>
        have served := (attentive.busied .backend).serve_while commands
          ⟨absolute, inactivity, backend⟩
        have woken := served.quiet (wakeAll_evolves _ [.backend]) ⟨rfl, rfl, rfl⟩ rfl rfl
        exact ⟨fun id call found can _ => woken.calls id call found can (by simp),
          fun _ _ => Agenda.mem_wakeAll.mpr (.inl (List.mem_singleton.mpr rfl)), woken.lines⟩
      case h_2 => exact attentive
  | reach instant =>
      have growth := wakeAll_evolves (Turns.withClock before ((Turns.clock before).reach instant))
        (Turns.dueOwners (Turns.withClock before ((Turns.clock before).reach instant)))
      exact attentive.quiet growth ⟨rfl, rfl, rfl⟩ rfl rfl

/-- Whoever can go on is ready, at every moment of every run. -/
theorem Reachable.attentive {session : Session V} (reachable : Reachable session) :
    session.Attentive none := by
  induction reachable with
  | created created => exact (isInitial_of_create? created).attentive
  | moved move reachable inductionHypothesis =>
      exact inductionHypothesis.move reachable.passed.steered reachable.passed.chronicle move

end Session

end BoundedScene
