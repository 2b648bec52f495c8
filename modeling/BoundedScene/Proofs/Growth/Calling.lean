import BoundedScene.Proofs.Growth.Basic

/-!
Contract: what the turn of a call changes in a scene.

Owns:
- `ResultTurn`, `SignalTurn` and `CallTurn`, everything that a call can do in
  one turn, with the condition under which it does it;
- the growth of the scene in each of these cases.

Main statement: `resumeCall_turnsBy`.

Does not own: the turn of the backend.
-/

namespace BoundedScene

open BoundedScene.Supervision (Control)

namespace Session

variable {V : Type}

/-! ## Changes of the call itself -/

/-- A change that moves the call itself wakes nobody. -/
theorem modifyCall_evolves (session : Session V) (id : Nat) (update : Call V → Call V)
    (change : CallChange V) (moves : change.moved? = some id)
    (applies : ∀ other call,
      Call.apply other call change = if id = other then update call else call) :
    Evolves [] [change] [] session (session.modifyCall id update) :=
  { Evolves.refl session with
    calls := fun other => by
      rw [modifyCall_calls]
      exact congrArg (Option.map · _) (funext fun call => (applies other call).symm)
    alerts := alerts_of_steady rfl fun other call _ unmoved => by
      have elsewhere : id ≠ other := fun same =>
        unmoved _ (List.mem_singleton.mpr rfl) (moves.trans (congrArg some same))
      rw [Call.applyAll_cons, Call.applyAll_nil, applies, if_neg elsewhere]
      exact ⟨rfl, rfl⟩ }

theorem setStage_evolves (session : Session V) (id : Nat) (stage : Stage V) :
    Evolves [] [.stage id stage] [] session (session.setStage id stage) :=
  session.modifyCall_evolves id _ _ rfl fun _ _ => rfl

theorem noteHandles_evolves (session : Session V) :
    Evolves [] [] [] session session.noteHandles := by
  unfold noteHandles
  split
  · exact Evolves.refl session
  · exact session.wakeAll_evolves _

theorem answer_evolves (session : Session V) (id : Nat) (answer : Answer V) :
    Evolves [.answered id answer] [.stage id (.finished answer session.clock.millisecond)] []
      session (session.answer id answer) := by
  have noted := session.record_evolves (.answered id answer) rfl
  have staged := noted.trans
    (setStage_evolves _ id (.finished answer session.clock.millisecond))
  exact staged.trans (noteHandles_evolves _)

/-- A call that closes its own reply is moved by that, so nobody has to wake it. -/
theorem shut_evolves (session : Session V) (id : Nat) :
    Evolves [] [.shut id] [] session
      (session.modifyCall id fun call => { call with reply := .closed }) :=
  session.modifyCall_evolves id _ _ rfl fun _ _ => rfl

theorem shut_evolves_of_closed (session : Session V) {id : Nat} {call : Call V}
    (found : session.calls[id]? = some call) (closed : call.reply = .closed) :
    Evolves [] [.shut id] [] session session := by
  have same : (session.modifyCall id fun call => { call with reply := .closed }) = session := by
    have kept : ({ call with reply := .closed } : Call V) = call := by rw [← closed]
    have unchanged : session.calls.modify id (fun call => { call with reply := .closed })
        = session.calls := by
      refine List.ext_getElem? fun other => ?_
      rw [List.getElem?_modify]
      by_cases hit : id = other
      · subst hit
        rw [found]
        simpa using kept
      · simp [hit]
    unfold modifyCall
    rw [unchanged]
  have shut := session.shut_evolves id
  rwa [same] at shut

/-! ## The terminal result -/

/-- The result that a waiting call obtains under a control surface. -/
def settled? (control : Control SceneError) : Option (Except SceneError Unit) :=
  control.result? (.ofAbandonment Abandonment.dropped)

/-- What asking for the terminal result amounts to: its records and the stage in
which it leaves the call. -/
inductive ResultTurn (control : Control SceneError) (id : Nat) (request : Request V) :
    List (Happening V) → Stage V → Prop
  | waits (unset : settled? control = none) : ResultTurn control id request [] .awaitingResult
  | told {result : Except SceneError Unit} {millisecond : Nat}
      (set : settled? control = some result) :
      ResultTurn control id request [.answered id (terminalAnswer request result)]
        (.finished (terminalAnswer request result) millisecond)

theorem awaitResult_evolves (session : Session V) (id : Nat) (request : Request V) :
    ∃ log stage, ResultTurn session.control id request log stage
      ∧ Evolves log [.stage id stage] [] session (session.awaitResult id request) := by
  unfold awaitResult
  split
  case h_1 result set => exact ⟨_, _, .told set, session.answer_evolves id _⟩
  case h_2 unset => exact ⟨_, _, .waits unset, session.setStage_evolves id _⟩

theorem overtake_evolves (session : Session V) (id : Nat) (request : Request V) :
    ∃ log stage, ResultTurn session.control id request log stage
      ∧ Evolves (.overtaken id :: log) [.stage id stage] [] session
          (session.overtake id request) := by
  obtain ⟨log, stage, turn, growth⟩ :=
    (session.record (.overtaken id)).awaitResult_evolves id request
  exact ⟨log, stage, turn, (session.record_evolves (.overtaken id) rfl).trans growth⟩

/-! ## Signals -/

/-- What waiting for a signal amounts to. -/
inductive SignalTurn (control : Control SceneError) (clock : Clock) (id : Nat) (call : Call V)
    (topic : String) (deadline : Option Nat) : List (Happening V) → Stage V → Prop
  | raised {millisecond : Nat} (raised : call.signal = .raised) :
      SignalTurn control clock id call topic deadline [.answered id .done]
        (.finished .done millisecond)
  | overtaken {log : List (Happening V)} {stage : Stage V}
      (lapsed : call.signal = .released
        ∨ call.signal = .pending ∧ control.ending = true)
      (turn : ResultTurn control id call.request log stage) :
      SignalTurn control clock id call topic deadline (.overtaken id :: log) stage
  | expired {millisecond : Nat} (silent : call.signal = .pending)
      (ongoing : control.ending = false)
      (due : deadline.any clock.isDue = true) :
      SignalTurn control clock id call topic deadline
        [.answered id (.failed (.waitedTooLong topic))]
        (.finished (.failed (.waitedTooLong topic)) millisecond)
  | waits (silent : call.signal = .pending) (ongoing : control.ending = false)
      (early : deadline.any clock.isDue = false) :
      SignalTurn control clock id call topic deadline [] (.awaitingSignal deadline)

theorem awaitSignal_evolves (session : Session V) (id : Nat) (call : Call V) (topic : String)
    (deadline : Option Nat) :
    ∃ log stage, SignalTurn session.control session.clock id call topic deadline log stage
      ∧ Evolves log [.stage id stage] [] session
          (session.awaitSignal id call topic deadline) := by
  have lapsed (cause : call.signal = .released
      ∨ call.signal = .pending ∧ session.control.ending = true) :
      ∃ log stage, SignalTurn session.control session.clock id call topic deadline log stage
        ∧ Evolves log [.stage id stage] [] session (session.overtake id call.request) := by
    obtain ⟨log, stage, turn, growth⟩ := session.overtake_evolves id call.request
    exact ⟨_, stage, .overtaken cause turn, growth⟩
  unfold awaitSignal
  cases signal : call.signal with
  | raised => exact ⟨_, _, .raised signal, session.answer_evolves id _⟩
  | released => exact lapsed (.inl signal)
  | pending =>
      dsimp only
      cases ending : session.control.ending with
      | true => exact lapsed (.inr ⟨signal, ending⟩)
      | false =>
          rw [if_neg Bool.false_ne_true]
          cases due : deadline.any session.clock.isDue with
          | true => exact ⟨_, _, .expired signal ending due, session.answer_evolves id _⟩
          | false => exact ⟨_, _, .waits signal ending due, session.setStage_evolves id _⟩

/-! ## Replies -/

/-- The answer to a call whose command was answered and who waits for nothing
else. -/
def responseAnswer : Response V → Answer V
  | .error error => .failed error
  | .ok .done => .done
  | .ok (.value value) => .value value

/-- Whether a call goes on to wait for a signal after a given response. -/
def waitsOn (request : Request V) (response : Response V) : Bool :=
  match request, response with
  | .waitSignal _ _, .ok _ => true
  | _, _ => false

/-- What taking a response amounts to. -/
inductive ReplyTurn (control : Control SceneError) (clock : Clock) (id : Nat) (call : Call V)
    (response : Response V) : List (Happening V) → Stage V → Prop
  | answered {millisecond : Nat} (final : waitsOn call.request response = false) :
      ReplyTurn control clock id call response [.answered id (responseAnswer response)]
        (.finished (responseAnswer response) millisecond)
  | registered {topic : String} {limit : Span} {reply : Reply V}
      {log : List (Happening V)} {stage : Stage V} (deadline : Option Nat)
      (asks : call.request = .waitSignal topic limit) (accepted : response = .ok reply)
      (turn : SignalTurn control clock id call topic deadline log stage) :
      ReplyTurn control clock id call response log stage

theorem acceptReply_evolves (session : Session V) (id : Nat) (call : Call V)
    (response : Response V) :
    ∃ log stage, ReplyTurn session.control session.clock id call response log stage
      ∧ Evolves (.replied id response :: log) [.stage id stage] [] session
          (session.acceptReply id call response) := by
  have noted := session.record_evolves (.replied id response) rfl
  have final (direct : waitsOn call.request response = false) :
      ∃ log stage, ReplyTurn session.control session.clock id call response log stage
        ∧ Evolves (.replied id response :: log) [.stage id stage] [] session
            ((session.record (.replied id response)).answer id (responseAnswer response)) :=
    ⟨_, _, .answered direct, noted.trans (answer_evolves _ id _)⟩
  unfold acceptReply
  dsimp only
  cases response with
  | error error =>
      have direct : waitsOn call.request (.error error : Response V) = false := by
        cases call.request <;> rfl
      exact final direct
  | ok reply =>
      dsimp only
      split
      case h_1 topic limit asks =>
        generalize (if limit.isZero = true then none else _ : Option Nat) = deadline
        obtain ⟨log, stage, turn, growth⟩ :=
          (session.record (.replied id (.ok reply))).awaitSignal_evolves id call topic deadline
        exact ⟨log, stage, .registered deadline asks rfl turn, noted.trans growth⟩
      case h_2 other =>
        have direct : waitsOn call.request (.ok reply : Response V) = false := by
          unfold waitsOn
          split
          · rename_i topic limit _ asks _
            exact absurd asks (other topic limit)
          · rfl
        cases reply with
        | done => exact final direct
        | value value => exact final direct

/-! ## The mailbox -/

/-- Since its mailbox was `before`, whoever was granted a slot was woken, and so was
the backend if a command entered. -/
structure MailboxAlerts (before : Mailbox (Envelope V)) (session : Session V) : Prop where
  granted : ∀ id ∈ session.mailbox.granted,
    id ∈ before.granted ∨ .call id ∈ session.agenda.ready
  queued : session.mailbox.queued.length ≤ before.queued.length
    ∨ .backend ∈ session.agenda.ready

theorem MailboxAlerts.of_same {before : Mailbox (Envelope V)} {session : Session V}
    (same : session.mailbox = before) : MailboxAlerts before session where
  granted := fun _ member => .inl (same ▸ member)
  queued := .inl (Nat.le_of_eq (congrArg (fun mailbox => mailbox.queued.length) same))

theorem MailboxAlerts.mono {before : Mailbox (Envelope V)} {session later : Session V}
    (alerts : MailboxAlerts before session) (same : later.mailbox = session.mailbox)
    (ready : ∀ task ∈ session.agenda.ready, task ∈ later.agenda.ready) :
    MailboxAlerts before later where
  granted := fun id member => (alerts.granted id (same ▸ member)).imp_right (ready _)
  queued := by
    rw [same]
    exact alerts.queued.imp_right (ready _)

theorem granted_grant (mailbox : Mailbox (Envelope V)) :
    mailbox.grant.1.granted = mailbox.granted ++ mailbox.grant.2.toList
      ∧ mailbox.grant.1.queued = mailbox.queued := by
  unfold Mailbox.grant
  split
  · simp
  · split <;> simp

theorem leaveMailbox_evolves (session : Session V) (id : Nat) :
    Evolves [] [] [] { session with mailbox := (session.mailbox.leave id).1 }
        (session.leaveMailbox id)
      ∧ MailboxAlerts session.mailbox (session.leaveMailbox id) := by
  refine ⟨wakeAll_evolves _ _, ?_, .inl ?_⟩
  · intro other member
    have split := (granted_grant { session.mailbox with
      granted := session.mailbox.granted.erase id
      waiting := session.mailbox.waiting.erase id }).1
    replace member : other ∈ (session.mailbox.leave id).1.granted := member
    unfold Mailbox.leave at member
    rw [split, List.mem_append] at member
    rcases member with kept | fresh
    · exact .inl (List.mem_of_mem_erase kept)
    · exact .inr (Agenda.mem_wakeAll.mpr (.inl (List.mem_map_of_mem fresh)))
  · exact Nat.le_of_eq (congrArg List.length (granted_grant _).2)

/-- What submitting a command amounts to: its records, the stage in which it leaves
the call, and the mailbox. -/
inductive SubmitTurn (control : Control SceneError) (mailbox : Mailbox (Envelope V)) (id : Nat)
    (command : Command V) :
    List (Happening V) → Stage V → Mailbox (Envelope V) → Prop
  | refused {millisecond : Nat} (barred : control.ending = true ∨ mailbox.closed = true) :
      SubmitTurn control mailbox id command [.answered id (.failed .ended)]
        (.finished (.failed .ended) millisecond) (mailbox.leave id).1
  | enters (ongoing : control.ending = false) (unclosed : mailbox.closed = false)
      (admitted : mailbox.admits id = true) :
      SubmitTurn control mailbox id command [.entered { caller := id, command }] .awaitingReply
        (mailbox.enter id { caller := id, command })
  | linesUp (ongoing : control.ending = false) (unclosed : mailbox.closed = false)
      (full : mailbox.admits id = false) :
      SubmitTurn control mailbox id command [] .seekingSlot (mailbox.await id)

theorem submit_evolves (session : Session V) (id : Nat) (command : Command V) :
    ∃ log stage mailbox,
      SubmitTurn session.control session.mailbox id command log stage mailbox
        ∧ Evolves log [.stage id stage] [] { session with mailbox } (session.submit id command)
        ∧ MailboxAlerts session.mailbox (session.submit id command) := by
  unfold submit
  split
  case isTrue barred =>
    obtain ⟨left, alerts⟩ := session.leaveMailbox_evolves id
    have answered := (session.leaveMailbox id).answer_evolves id (.failed .ended)
    refine ⟨_, _, _, .refused ?_, left.trans answered, ?_⟩
    · simpa using barred
    · exact alerts.mono answered.mailbox answered.ready
  case isFalse welcome =>
    simp only [Bool.or_eq_true, not_or, Bool.not_eq_true] at welcome
    obtain ⟨ongoing, unclosed⟩ := welcome
    split
    case isTrue admitted =>
      have noted := record_evolves
        { session with mailbox := session.mailbox.enter id { caller := id, command } }
        (.entered { caller := id, command }) rfl
      have woken := noted.trans (wakeAll_evolves _ [.backend])
      have staged := woken.trans (setStage_evolves _ id .awaitingReply)
      refine ⟨_, _, _, .enters ongoing unclosed admitted, staged, ?_, .inr ?_⟩
      · exact fun other member => .inl (List.mem_of_mem_erase member)
      · exact Agenda.mem_wakeAll.mpr (.inl (List.mem_singleton.mpr rfl))
    case isFalse full =>
      refine ⟨_, _, _, .linesUp ongoing unclosed (by simpa using full),
        setStage_evolves _ id _, ?_, .inl ?_⟩
      · intro other member
        refine .inl ?_
        simp only [setStage, modifyCall, Mailbox.await] at member
        split at member <;> exact member
      · simp only [setStage, modifyCall, Mailbox.await]
        split <;> exact Nat.le_refl _

/-! ## The turn -/

/-- A call that has not submitted its command starts with its first turn. -/
inductive Opening (id : Nat) : Stage V → List (Happening V) → Prop
  | first : Opening id .fresh [.started id]
  | again : Opening id .seekingSlot []

/-- Everything that the turn of a call can amount to: its records, the changes of
the call, and the mailbox. -/
inductive CallTurn (session : Session V) (id : Nat) (call : Call V) :
    List (Happening V) → List (CallChange V) → Mailbox (Envelope V) → Prop
  | rests (resting : call.isUnfinished = false
        ∨ call.awaitsReply = true ∧ call.reply = .pending ∧ session.control.ending = false) :
      CallTurn session id call [] [] session.mailbox
  /-- No call comes into such a stage. -/
  | strays (stray : call.stage = .seekingSlot ∧ call.request.command? = none
        ∨ ∃ deadline, call.stage = .awaitingSignal deadline
          ∧ ∀ topic limit, call.request ≠ .waitSignal topic limit) :
      CallTurn session id call [] [] session.mailbox
  | stops {log : List (Happening V)} {stage : Stage V} (fresh : call.stage = .fresh)
      (asks : call.request = .stop)
      (turn : ResultTurn session.control id call.request log stage) :
      CallTurn session id call (.started id :: .stopRequested :: log) [.stage id stage]
        session.mailbox
  | waits {log : List (Happening V)} {stage : Stage V} (fresh : call.stage = .fresh)
      (asks : call.request = .wait)
      (turn : ResultTurn session.control id call.request log stage) :
      CallTurn session id call (.started id :: log) [.stage id stage] session.mailbox
  | aborts {cause : Cause} {millisecond : Nat} (fresh : call.stage = .fresh)
      (asks : call.request = .abort cause) :
      CallTurn session id call [.started id, .aborted cause, .answered id .done]
        [.stage id (.finished .done millisecond)] session.mailbox
  | looks {millisecond : Nat} (fresh : call.stage = .fresh) (asks : call.request = .phase) :
      CallTurn session id call [.started id, .answered id (.phase session.phase)]
        [.stage id (.finished (.phase session.phase) millisecond)] session.mailbox
  | submits {opening log : List (Happening V)} {stage : Stage V} {command : Command V}
      {mailbox : Mailbox (Envelope V)} (opens : Opening id call.stage opening)
      (sends : call.request.command? = some command)
      (turn : SubmitTurn session.control session.mailbox id command log stage mailbox) :
      CallTurn session id call (opening ++ log) [.stage id stage] mailbox
  | replied {response : Response V} {log : List (Happening V)} {stage : Stage V}
      (waiting : call.stage = .awaitingReply) (filled : call.reply = .filled response)
      (turn : ReplyTurn session.control session.clock id call response log stage) :
      CallTurn session id call (.replied id response :: log) [.stage id stage] session.mailbox
  | overtaken {log : List (Happening V)} {stage : Stage V}
      (waiting : call.stage = .awaitingReply)
      (lapsed : call.reply = .closed
        ∨ call.reply = .pending ∧ session.control.ending = true)
      (turn : ResultTurn session.control id call.request log stage) :
      CallTurn session id call (.overtaken id :: log) [.shut id, .stage id stage]
        session.mailbox
  | listens {topic : String} {limit : Span} {deadline : Option Nat}
      {log : List (Happening V)} {stage : Stage V}
      (waiting : call.stage = .awaitingSignal deadline)
      (asks : call.request = .waitSignal topic limit)
      (turn : SignalTurn session.control session.clock id call topic deadline log stage) :
      CallTurn session id call log [.stage id stage] session.mailbox
  | asks {log : List (Happening V)} {stage : Stage V} (waiting : call.stage = .awaitingResult)
      (turn : ResultTurn session.control id call.request log stage) :
      CallTurn session id call log [.stage id stage] session.mailbox

/-- A turn of a call is one of the cases of `CallTurn`, and the scene grows by what
that case says. -/
def TurnsBy (session : Session V) (id : Nat) (call : Call V) (after : Session V) : Prop :=
  ∃ log changes mailbox, CallTurn session id call log changes mailbox
    ∧ Evolves log changes [] { session with mailbox } after
    ∧ MailboxAlerts session.mailbox after

/-- A turn that leaves the mailbox alone. -/
theorem turnsBy_of_same {session after : Session V} {id : Nat} {call : Call V}
    {log : List (Happening V)} {changes : List (CallChange V)}
    (turn : CallTurn session id call log changes session.mailbox)
    (growth : Evolves log changes [] session after) : TurnsBy session id call after :=
  ⟨log, changes, session.mailbox, turn, growth, .of_same growth.mailbox⟩

theorem submit_turnsBy (session : Session V) (id : Nat) (call : Call V) {command : Command V}
    (sends : call.request.command? = some command) {opening : List (Happening V)}
    (opens : Opening id call.stage opening) {opened : Session V}
    (begun : Evolves opening [] [] session opened) (same : opened.mailbox = session.mailbox)
    (steady : opened.control = session.control) :
    TurnsBy session id call (opened.submit id command) := by
  obtain ⟨log, stage, mailbox, turn, growth, alerts⟩ := opened.submit_evolves id command
  rw [same, steady] at turn
  rw [same] at alerts
  exact ⟨_, _, mailbox, .submits opens sends turn, (begun.withMailbox mailbox).trans growth,
    alerts⟩

theorem begin_turnsBy (session : Session V) (id : Nat) (call : Call V)
    (fresh : call.stage = .fresh) : TurnsBy session id call (session.begin id call) := by
  have opened := session.record_evolves (.started id) rfl
  have opens : Opening id call.stage [.started id] := fresh ▸ .first
  unfold begin
  cases asks : call.request with
  | stop =>
      have stopping := opened.trans (requestStop_evolves _)
      obtain ⟨log, stage, turn, growth⟩ :=
        (session.record (.started id)).requestStop.awaitResult_evolves id .stop
      refine turnsBy_of_same (.stops fresh asks (asks ▸ ?_)) (stopping.trans growth)
      cases turn with
      | waits unset => exact .waits unset
      | told set => exact .told set
  | wait =>
      obtain ⟨log, stage, turn, growth⟩ :=
        (session.record (.started id)).awaitResult_evolves id .wait
      exact turnsBy_of_same (.waits fresh asks (asks ▸ turn)) (opened.trans growth)
  | abort cause =>
      have aborted := opened.trans (abort_evolves _ cause)
      exact turnsBy_of_same (.aborts fresh asks) (aborted.trans (answer_evolves _ id .done))
  | phase =>
      exact turnsBy_of_same (.looks fresh asks) (opened.trans (answer_evolves _ id _))
  | store key value cleanup =>
      exact session.submit_turnsBy id call (asks ▸ rfl) opens opened rfl rfl
  | fetch key => exact session.submit_turnsBy id call (asks ▸ rfl) opens opened rfl rfl
  | dispose key => exact session.submit_turnsBy id call (asks ▸ rfl) opens opened rfl rfl
  | signal topic => exact session.submit_turnsBy id call (asks ▸ rfl) opens opened rfl rfl
  | waitSignal topic limit =>
      exact session.submit_turnsBy id call (asks ▸ rfl) opens opened rfl rfl

theorem seekSlot_turnsBy (session : Session V) (id : Nat) (call : Call V)
    (seeking : call.stage = .seekingSlot) :
    TurnsBy session id call (session.seekSlot id call) := by
  unfold seekSlot
  cases sends : call.request.command? with
  | none => exact turnsBy_of_same (.strays (.inl ⟨seeking, sends⟩)) (Evolves.refl session)
  | some command =>
      exact session.submit_turnsBy id call sends (seeking ▸ .again) (Evolves.refl session)
        rfl rfl

theorem awaitReply_turnsBy (session : Session V) (id : Nat) (call : Call V)
    (found : session.calls[id]? = some call) (waiting : call.stage = .awaitingReply) :
    TurnsBy session id call (session.awaitReply id call) := by
  unfold awaitReply
  cases reply : call.reply with
  | filled response =>
      obtain ⟨log, stage, turn, growth⟩ := session.acceptReply_evolves id call response
      exact turnsBy_of_same (.replied waiting reply turn) growth
  | closed =>
      obtain ⟨log, stage, turn, growth⟩ := session.overtake_evolves id call.request
      exact turnsBy_of_same (.overtaken waiting (.inl reply) turn)
        ((session.shut_evolves_of_closed found reply).trans growth)
  | pending =>
      dsimp only
      cases ending : session.control.ending with
      | true =>
          obtain ⟨log, stage, turn, growth⟩ :=
            (session.modifyCall id fun call => { call with reply := .closed }).overtake_evolves id
              call.request
          exact turnsBy_of_same (.overtaken waiting (.inr ⟨reply, ending⟩) turn)
            ((session.shut_evolves id).trans growth)
      | false =>
          have listens : call.awaitsReply = true := by
            unfold Call.awaitsReply
            rw [waiting]
          exact turnsBy_of_same (.rests (.inr ⟨listens, reply, ending⟩)) (Evolves.refl session)

theorem resumeCall_turnsBy (session : Session V) (id : Nat) (call : Call V)
    (found : session.calls[id]? = some call) :
    TurnsBy session id call (session.resumeCall id) := by
  unfold resumeCall
  rw [found]
  dsimp only
  cases stage : call.stage with
  | fresh => exact session.begin_turnsBy id call stage
  | seekingSlot => exact session.seekSlot_turnsBy id call stage
  | awaitingReply => exact session.awaitReply_turnsBy id call found stage
  | awaitingSignal deadline =>
      dsimp only
      split
      case h_1 topic limit asks =>
        obtain ⟨log, next, turn, growth⟩ := session.awaitSignal_evolves id call topic deadline
        exact turnsBy_of_same (.listens stage asks turn) growth
      case h_2 other =>
        exact turnsBy_of_same (.strays (.inr ⟨deadline, stage, other⟩)) (Evolves.refl session)
  | awaitingResult =>
      obtain ⟨log, next, turn, growth⟩ := session.awaitResult_evolves id call.request
      exact turnsBy_of_same (.asks stage turn) growth
  | finished answer millisecond =>
      refine turnsBy_of_same (.rests (.inl ?_)) (Evolves.refl session)
      unfold Call.isUnfinished
      rw [stage]
  | dropped =>
      refine turnsBy_of_same (.rests (.inl ?_)) (Evolves.refl session)
      unfold Call.isUnfinished
      rw [stage]

end Session

end BoundedScene
