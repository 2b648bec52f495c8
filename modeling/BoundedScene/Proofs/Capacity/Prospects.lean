import BoundedScene.Proofs.Capacity.Kindred

/-!
Contract: what the calls of a scene come to if nobody but they takes a turn.

Owns:
- `Call.outlook`, the stage that a call comes to once it has entered the mailbox and has
  taken notice of all that has reached it;
- `Murmurs`, a step that changes nothing but how far calls have come on their way there.

Main statement: `murmurs_resumeCall`.

Does not own: the order in which callers enter the mailbox, and the turn of the backend.
-/

namespace BoundedScene

open BoundedScene.Supervision (Control)

namespace Call

variable {V : Type} {clock : Clock} {phase : Phase} {call other : Call V}

/-- Where a registered waiter comes to. -/
def outlookOfSignal (clock : Clock) (call : Call V) (deadline : Option Nat) : Stage V :=
  match call.signal with
  | .raised => .finished .done clock.millisecond
  | .released => .awaitingResult
  | .pending => .awaitingSignal deadline

/-- The deadline of a wait that starts now. -/
def deadlineFor (clock : Clock) (limit : Span) : Option Nat :=
  if limit.isZero then none else some (clock.deadline limit)

/-- Where a caller comes to whose command is in the mailbox or answered. -/
def outlookOfReply (clock : Clock) (call : Call V) : Stage V :=
  match call.reply with
  | .pending => .awaitingReply
  | .closed => .awaitingResult
  | .filled response =>
      match response, call.request with
      | .ok _, .waitSignal _ limit => call.outlookOfSignal clock (deadlineFor clock limit)
      | response, _ => .finished (Session.responseAnswer response) clock.millisecond

/-- Where a call comes to that is left to itself and finds room in the mailbox.  It neither
stops nor aborts the scene. -/
def outlook (clock : Clock) (phase : Phase) (call : Call V) : Stage V :=
  match call.stage with
  | .fresh =>
      match call.request with
      | .wait => .awaitingResult
      | .phase => .finished (.phase phase) clock.millisecond
      | request => if request.command?.isSome then call.outlookOfReply clock else .fresh
  | .seekingSlot => call.outlookOfReply clock
  | .awaitingReply => call.outlookOfReply clock
  | .awaitingSignal deadline => call.outlookOfSignal clock deadline
  | stage => stage

/-- The call once it has come there. -/
def prospect (clock : Clock) (phase : Phase) (call : Call V) : Call V :=
  { call with stage := call.outlook clock phase }

theorem outlook_of_sends {command : Command V} (sends : call.request.command? = some command)
    (early : call.stage = .fresh ∨ call.stage = .seekingSlot) :
    call.outlook clock phase = call.outlookOfReply clock := by
  unfold outlook
  rcases early with fresh | seeks
  · have some : call.request.command?.isSome = true := by rw [sends, Option.isSome_some]
    rw [fresh]
    dsimp only
    split
    case h_1 asks => cases (congrArg Request.command? asks).symm.trans sends
    case h_2 asks => cases (congrArg Request.command? asks).symm.trans sends
    case h_3 => rw [if_pos some]
  · rw [seeks]

theorem outlookOfReply_of_final {response : Response V} (filled : call.reply = .filled response)
    (final : Session.waitsOn call.request response = false) :
    call.outlookOfReply clock
      = .finished (Session.responseAnswer response) clock.millisecond := by
  unfold outlookOfReply
  rw [filled]
  dsimp only
  split
  case h_1 asks =>
    rw [asks] at final
    cases final
  case h_2 => rfl

theorem outlookOfReply_of_registered {topic : String} {limit : Span} {reply : Reply V}
    (filled : call.reply = .filled (.ok reply)) (asks : call.request = .waitSignal topic limit) :
    call.outlookOfReply clock = call.outlookOfSignal clock (deadlineFor clock limit) := by
  unfold outlookOfReply
  rw [filled, asks]

theorem prospect_of_outlook (still : call.outlook clock phase = call.stage) :
    call.prospect clock phase = call := by
  unfold prospect
  rw [still]

/-- A call that is over stays as it is. -/
theorem prospect_of_finished (ceased : call.isUnfinished = false) :
    call.prospect clock phase = call := by
  apply prospect_of_outlook
  unfold isUnfinished at ceased
  unfold outlook
  split at ceased
  case h_1 stage => rw [stage]
  case h_2 stage => rw [stage]
  case h_3 => cases ceased

/-- A call whose command is in the mailbox stays as it is. -/
theorem prospect_of_unanswered (waits : call.stage = .awaitingReply)
    (unanswered : call.reply = .pending) : call.prospect clock phase = call := by
  apply prospect_of_outlook
  unfold outlook outlookOfReply
  rw [waits, unanswered]

end Call

namespace Session

variable {V : Type}

/-- What the calls of a scene come to. -/
def prospects (session : Session V) : List (Call V) :=
  session.calls.map (Call.prospect session.clock session.phase)

theorem getElem?_prospects (session : Session V) (id : Nat) :
    session.prospects[id]? = session.calls[id]?.map (Call.prospect session.clock session.phase) :=
  List.getElem?_map ..

/-! ## Steps that nobody else notices -/

/-- Some of the tasks that pass a test have been woken. -/
def Rouses (test : SceneTask → Prop) (before after : Session V) : Prop :=
  ∃ woken, (∀ task ∈ woken, test task)
    ∧ after.agenda.ready = (before.agenda.wakeAll woken).ready

/-- Nothing has changed but how far calls have come towards their prospects; at most the
backend was woken. -/
structure Murmurs (before after : Session V) : Prop extends Kindred before after where
  prospects : before.prospects = after.prospects
  rouses : Rouses (· = .backend) before after

variable {session before middle after : Session V} {id : Nat} {call : Call V}

theorem Rouses.refl {test : SceneTask → Prop} (session : Session V) : Rouses test session session :=
  ⟨[], List.forall_mem_nil _, rfl⟩

theorem Rouses.trans {test : SceneTask → Prop} (first : Rouses test before middle)
    (second : Rouses test middle after) : Rouses test before after := by
  obtain ⟨early, earlyPass, earlyAgenda⟩ := first
  obtain ⟨late, latePass, lateAgenda⟩ := second
  refine ⟨early ++ late, fun task member => ?_, ?_⟩
  · exact (List.mem_append.mp member).elim (earlyPass task) (latePass task)
  · rw [lateAgenda, Agenda.ready_wakeAll_congr earlyAgenda]
    exact congrArg Agenda.ready (List.foldl_append ..).symm

/-- Who is roused and was not ready stands behind those that were, each once. -/
theorem Rouses.behind {test : SceneTask → Prop} (rouses : Rouses test before after)
    (once : before.agenda.ready.Nodup) :
    ∃ extra, after.agenda.ready = before.agenda.ready ++ extra
      ∧ (before.agenda.ready ++ extra).Nodup ∧ ∀ task ∈ extra, test task := by
  obtain ⟨woken, pass, ready⟩ := rouses
  obtain ⟨extra, behind, all, among⟩ := Agenda.wakeAll_behind once woken
  exact ⟨extra, ready.trans behind, all, fun task member => pass task (among task member)⟩

namespace Murmurs

theorem refl (session : Session V) : Murmurs session session :=
  { Kindred.refl session with
    prospects := rfl
    rouses := .refl session }

theorem trans (first : Murmurs before middle) (second : Murmurs middle after) :
    Murmurs before after :=
  { first.toKindred.trans second.toKindred with
    prospects := first.prospects.trans second.prospects
    rouses := first.rouses.trans second.rouses }

end Murmurs

theorem murmurs_record (session : Session V) {happening : Happening V}
    (others : happening.isBackends = false) : Murmurs session (session.record happening) :=
  { Murmurs.refl session with
    records := by
      show session.backendRecords = List.filter _ (session.journal ++ [_])
      rw [List.filter_append, List.filter_cons_of_neg (by simpa using others), List.filter_nil,
        List.append_nil]
      rfl }

theorem murmurs_wakeBackend (session : Session V) : Murmurs session (session.wakeAll [.backend]) :=
  { (Kindred.refl session).wakeAll [] [.backend] with
    prospects := by
      have clock : (session.wakeAll [.backend]).clock = session.clock :=
        Agenda.clock_wakeAll session.agenda [.backend]
      unfold Session.prospects
      rw [clock]
      rfl
    rouses := ⟨[.backend], fun _ => List.mem_singleton.mp, rfl⟩ }

theorem murmurs_modifyCall (found : session.calls[id]? = some call) {change : Call V → Call V}
    (same : (change call).prospect session.clock session.phase
      = call.prospect session.clock session.phase) :
    Murmurs session (session.modifyCall id change) :=
  { Murmurs.refl session with
    prospects := by
      refine List.ext_getElem? fun other => ?_
      have changed : (session.modifyCall id change).calls[other]?
          = (fun call => if id = other then change call else call) <$> session.calls[other]? :=
        List.getElem?_modify ..
      rw [getElem?_prospects, getElem?_prospects, changed]
      by_cases own : id = other
      · subst own
        rw [found]
        show some _ = some ((if id = id then change call else call).prospect _ _)
        rw [if_pos rfl]
        exact congrArg some same.symm
      · simp only [own, if_false]
        exact congrArg _ (id_map _).symm }

theorem murmurs_setStage (found : session.calls[id]? = some call) {stage : Stage V}
    (same : ({ call with stage } : Call V).outlook session.clock session.phase
      = call.outlook session.clock session.phase) :
    Murmurs session (session.setStage id stage) :=
  murmurs_modifyCall found (congrArg (fun stage => ({ call with stage } : Call V)) same)

theorem murmurs_noteHandles (session : Session V) : Murmurs session session.noteHandles := by
  unfold noteHandles
  split
  · exact .refl session
  · exact session.murmurs_wakeBackend

theorem murmurs_answer (found : session.calls[id]? = some call) {answer : Answer V}
    (same : call.outlook session.clock session.phase
      = .finished answer session.clock.millisecond) :
    Murmurs session (session.answer id answer) := by
  have noted := @murmurs_record V session (.answered id answer) rfl
  have finished := @murmurs_setStage V (session.record (.answered id answer)) id call found
    (.finished answer session.clock.millisecond) same.symm
  exact (noted.trans finished).trans (murmurs_noteHandles _)

/-! ## The turn of a call -/

theorem untold_of_control (control : session.control = {}) : session.result? = none := by
  unfold result?
  rw [control]
  rfl

theorem murmurs_awaitResult (found : session.calls[id]? = some call)
    (control : session.control = {})
    (same : call.outlook session.clock session.phase = .awaitingResult) (request : Request V) :
    Murmurs session (session.awaitResult id request) := by
  unfold awaitResult
  rw [untold_of_control control]
  exact murmurs_setStage found same.symm

theorem murmurs_overtake (found : session.calls[id]? = some call) (control : session.control = {})
    (same : call.outlook session.clock session.phase = .awaitingResult) (request : Request V) :
    Murmurs session (session.overtake id request) :=
  (@murmurs_record V session (.overtaken id) rfl).trans
    (@murmurs_awaitResult V (session.record (.overtaken id)) id call found control same request)

/-- A waiter whose deadline is not due gets no further than its prospect. -/
theorem murmurs_awaitSignal (found : session.calls[id]? = some call)
    (control : session.control = {}) {deadline : Option Nat}
    (early : deadline.any session.clock.isDue = false)
    (same : call.outlook session.clock session.phase
      = call.outlookOfSignal session.clock deadline) (topic : String) :
    Murmurs session (session.awaitSignal id call topic deadline) := by
  unfold Call.outlookOfSignal at same
  unfold awaitSignal
  cases signal : call.signal with
  | raised =>
      rw [signal] at same
      exact murmurs_answer found same
  | released =>
      rw [signal] at same
      exact murmurs_overtake found control same _
  | pending =>
      rw [signal] at same
      dsimp only
      rw [control, early]
      refine murmurs_setStage found (same ▸ ?_)
      unfold Call.outlook Call.outlookOfSignal
      dsimp only
      rw [signal]

theorem early_of_lt {clock : Clock} {due : Nat} (later : clock.noticed < due) :
    (some due).any clock.isDue = false := by
  simpa [Clock.isDue] using later

theorem early_deadlineFor {clock : Clock} (noticed : Clock.instantOf clock.noticed ≤ clock.now)
    (limit : Span) : (Call.deadlineFor clock limit).any clock.isDue = false := by
  unfold Call.deadlineFor
  split
  case isTrue => rfl
  case isFalse positive =>
    have later : clock.now < Clock.instantOf (clock.deadline limit) := by
      apply clock.lt_deadline
      apply Nat.pos_of_ne_zero
      simpa [Span.isZero] using positive
    exact early_of_lt (Clock.instantOf_lt_instantOf.mp (Nat.lt_of_le_of_lt noticed later))

theorem murmurs_acceptReply (found : session.calls[id]? = some call)
    (control : session.control = {})
    (noticed : Clock.instantOf session.clock.noticed ≤ session.clock.now) {response : Response V}
    (filled : call.reply = .filled response)
    (same : call.outlook session.clock session.phase = call.outlookOfReply session.clock) :
    Murmurs session (session.acceptReply id call response) := by
  have noted := @murmurs_record V session (.replied id response) rfl
  have answered (final : waitsOn call.request response = false) :
      Murmurs session
        ((session.record (.replied id response)).answer id (responseAnswer response)) :=
    noted.trans (@murmurs_answer V (session.record (.replied id response)) id call found _
      (same.trans (Call.outlookOfReply_of_final filled final)))
  unfold acceptReply
  cases response with
  | error error =>
      refine answered ?_
      unfold waitsOn
      split <;> first | rfl | contradiction
  | ok reply =>
      dsimp only
      split
      case h_1 topic limit asks =>
        have waits := same.trans (Call.outlookOfReply_of_registered filled asks)
        exact noted.trans (@murmurs_awaitSignal V (session.record (.replied id (.ok reply))) id
          call found control _ (early_deadlineFor noticed limit) waits topic)
      case h_2 other =>
        have final : waitsOn call.request (.ok reply : Response V) = false := by
          unfold waitsOn
          split
          case h_1 asks _ => exact absurd asks (other _ _)
          case h_2 => rfl
        cases reply <;> exact answered final

theorem murmurs_awaitReply (found : session.calls[id]? = some call)
    (control : session.control = {})
    (noticed : Clock.instantOf session.clock.noticed ≤ session.clock.now)
    (same : call.outlook session.clock session.phase = call.outlookOfReply session.clock) :
    Murmurs session (session.awaitReply id call) := by
  unfold awaitReply
  cases reply : call.reply with
  | filled response => exact murmurs_acceptReply found control noticed reply same
  | closed =>
      refine murmurs_overtake found control (same.trans ?_) _
      unfold Call.outlookOfReply
      rw [reply]
  | pending =>
      dsimp only
      rw [control]
      exact .refl session

/-! ## The way into the mailbox -/

/-- The mailbox is nobody's prospect. -/
theorem murmurs_withMailbox (session : Session V) {mailbox : Mailbox (Envelope V)}
    (closed : session.mailbox.closed = mailbox.closed) :
    Murmurs session { session with mailbox } :=
  { Murmurs.refl session with closed }

theorem murmurs_submit (found : session.calls[id]? = some call) (control : session.control = {})
    (unclosed : session.mailbox.closed = false)
    (same : call.outlook session.clock session.phase = call.outlookOfReply session.clock)
    (command : Command V) : Murmurs session (session.submit id command) := by
  have welcome : ¬(session.control.ending || session.mailbox.closed) = true := by
    rw [control, unclosed]
    exact Bool.false_ne_true
  unfold submit
  rw [if_neg welcome]
  split
  · let envelope : Envelope V := { caller := id, command }
    let entered : Session V := { session with mailbox := session.mailbox.enter id envelope }
    let woken : Session V := (entered.record (.entered envelope)).wakeAll [.backend]
    have inside : Murmurs session entered := session.murmurs_withMailbox rfl
    have murmurs : Murmurs session woken :=
      (inside.trans (entered.murmurs_record rfl)).trans (murmurs_wakeBackend _)
    refine murmurs.trans (@murmurs_setStage V woken id call found .awaitingReply ?_)
    rw [← murmurs.clock, ← murmurs.phase, same]
    rfl
  · have lined : Murmurs session { session with mailbox := session.mailbox.await id } :=
      session.murmurs_withMailbox (by unfold Mailbox.await; split <;> rfl)
    exact lined.trans (@murmurs_setStage V { session with mailbox := session.mailbox.await id } id
      call found .seekingSlot same.symm)

theorem murmurs_begin (found : session.calls[id]? = some call) (control : session.control = {})
    (unclosed : session.mailbox.closed = false) (fresh : call.stage = .fresh)
    (docile : call.request.isDocile = true) : Murmurs session (session.begin id call) := by
  have noted := @murmurs_record V session (.started id) rfl
  have submits {command : Command V} (sends : call.request.command? = some command) :
      Murmurs session ((session.record (.started id)).submit id command) :=
    noted.trans (@murmurs_submit V (session.record (.started id)) id call found control unclosed
      (Call.outlook_of_sends sends (.inl fresh)) command)
  unfold begin
  cases asks : call.request with
  | stop => rw [asks] at docile; cases docile
  | abort cause => rw [asks] at docile; cases docile
  | wait =>
      have same : call.outlook session.clock session.phase = .awaitingResult := by
        unfold Call.outlook
        rw [fresh, asks]
      exact noted.trans (@murmurs_awaitResult V (session.record (.started id)) id call found
        control same .wait)
  | phase =>
      have same : call.outlook session.clock session.phase
          = .finished (.phase session.phase) session.clock.millisecond := by
        unfold Call.outlook
        rw [fresh, asks]
      exact noted.trans (@murmurs_answer V (session.record (.started id)) id call found _ same)
  | _ => exact submits (congrArg Request.command? asks)

/-- The turn of a docile call whose deadline is not due changes nothing but how far the call
has come. -/
theorem murmurs_resumeCall (control : session.control = {})
    (unclosed : session.mailbox.closed = false)
    (noticed : Clock.instantOf session.clock.noticed ≤ session.clock.now)
    (docile : ∀ call, session.calls[id]? = some call → call.request.isDocile = true)
    (undue : ∀ call due, session.calls[id]? = some call → call.deadline? = some due →
      session.clock.noticed < due) : Murmurs session (session.resumeCall id) := by
  unfold resumeCall
  cases found : session.calls[id]? with
  | none => exact .refl session
  | some call =>
      dsimp only
      split
      case h_1 fresh => exact murmurs_begin found control unclosed fresh (docile call found)
      case h_2 seeks =>
        unfold seekSlot
        split
        case h_1 command sends =>
          exact murmurs_submit found control unclosed
            (Call.outlook_of_sends sends (.inr seeks)) command
        case h_2 => exact .refl session
      case h_3 waits =>
        refine murmurs_awaitReply found control noticed ?_
        unfold Call.outlook
        rw [waits]
      case h_4 deadline waits =>
        split
        case h_1 topic limit asks =>
          refine murmurs_awaitSignal found control ?_ ?_ topic
          · have early := undue call
            unfold Call.deadline? at early
            rw [waits] at early
            cases deadline with
            | none => rfl
            | some due => exact early_of_lt (early due found rfl)
          · unfold Call.outlook
            rw [waits]
        case h_2 => exact .refl session
      case h_5 waits =>
        refine murmurs_awaitResult found control ?_ _
        unfold Call.outlook
        rw [waits]
      case h_6 => exact .refl session
      case h_7 => exact .refl session

end Session

end BoundedScene
