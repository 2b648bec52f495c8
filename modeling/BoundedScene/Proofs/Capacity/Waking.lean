import BoundedScene.Proofs.Capacity.Line

/-!
Contract: whom the backend wakes while it serves a command.

Owns:
- `Attends`, the tasks that a command can rouse: those of subscribers, and the calls that
  listen for a reply or a signal;
- that serving a command rouses nobody else but the caller that is granted its slot;
- that the command served is that of the head of the line.

Main statement: `InOrder.serveOne`.

Does not own: the turns of the calls.
-/

namespace BoundedScene

open BoundedScene.Supervision (Control)

namespace Session

variable {V : Type} {session before middle after : Session V}

/-! ## Whom a command rouses -/

/-- A task of a subscriber, or a call that listens. -/
def Attends (session : Session V) (task : SceneTask) : Prop :=
  task.isOwn = false ∨ ∃ id, task = .call id ∧ session.listens id = true

/-- Nobody has come or ceased to listen, and nobody else was woken. -/
structure Reaches (before after : Session V) : Prop where
  listens : ∀ id, after.listens id = before.listens id
  rouses : Rouses before.Attends before after

namespace Reaches

theorem refl (session : Session V) : Reaches session session :=
  ⟨fun _ => rfl, .refl session⟩

theorem trans (first : Reaches before middle) (second : Reaches middle after) :
    Reaches before after where
  listens id := (second.listens id).trans (first.listens id)
  rouses := by
    obtain ⟨woken, attend, ready⟩ := second.rouses
    refine first.rouses.trans ⟨woken, fun task member => ?_, ready⟩
    exact (attend task member).imp_right fun ⟨id, call, hears⟩ =>
      ⟨id, call, (first.listens id).symm.trans hears⟩

end Reaches

/-- A step that concerns neither calls nor tasks. -/
theorem reaches_of_same (calls : after.calls = before.calls)
    (ready : after.agenda.ready = before.agenda.ready) : Reaches before after where
  listens id := by
    unfold Session.listens
    rw [calls]
  rouses := ⟨[], List.forall_mem_nil _, ready⟩

theorem reaches_updateDelivery (session : Session V) (change : Delivery → Delivery) :
    Reaches session (session.updateDelivery change) where
  listens _ := rfl
  rouses := by
    refine ⟨_, fun task member => .inl ?_, rfl⟩
    obtain ⟨own, -, rfl⟩ := List.mem_map.mp member
    rfl

/-- What reaches a call that listens does not move it. -/
theorem reaches_deliver {id : Nat} {call : Call V} (found : session.calls[id]? = some call)
    (hears : call.listens = true) {change : Call V → Call V}
    (still : ∀ call, (change call).stage = call.stage) :
    Reaches session ((session.modifyCall id change).wakeCall id) where
  listens other := by
    have changed : ((session.modifyCall id change).wakeCall id).calls[other]?
        = (fun call => if id = other then change call else call) <$> session.calls[other]? :=
      List.getElem?_modify ..
    unfold Session.listens
    rw [changed]
    cases session.calls[other]? with
    | none => rfl
    | some call =>
        show (if id = other then change call else call).listens = call.listens
        split
        · unfold Call.listens
          rw [still]
        · rfl
  rouses := by
    refine ⟨[.call id], fun task member => .inr ⟨id, List.mem_singleton.mp member, ?_⟩, rfl⟩
    unfold Session.listens
    rw [found]
    exact hears

theorem reaches_respond (session : Session V) (id : Nat) (reply : ReplySlot V) :
    Reaches session (session.respond id reply) := by
  unfold respond
  split
  case h_1 => exact .refl session
  case h_2 call found =>
    split
    case isTrue waits =>
      refine reaches_deliver found ?_ fun _ => rfl
      unfold Call.awaitsReply at waits
      unfold Call.listens
      split at waits
      case h_1 stage => rw [stage]
      case h_2 => cases waits
    case isFalse => exact .refl session

theorem reaches_notifyAll (signal : SignalSlot) (ids : List Nat) (session : Session V) :
    Reaches session (ids.foldl (notify signal) session) := by
  induction ids generalizing session with
  | nil => exact .refl session
  | cons first rest inductionHypothesis =>
      refine Reaches.trans ?_ (inductionHypothesis (notify signal session first))
      unfold notify
      split
      case h_1 => exact .refl session
      case h_2 call found =>
        split
        case isTrue hears => exact reaches_deliver found hears fun _ => rfl
        case isFalse => exact .refl session

theorem reaches_runCleanup {prop : StoredProp V} (docile : prop.isDocile = true)
    (session : Session V) : Reaches session (session.runCleanup prop).2 := by
  unfold StoredProp.isDocile at docile
  unfold runCleanup
  cases bound : prop.cleanup with
  | none => exact .refl session
  | some cleanup =>
      rw [bound, Option.all_some] at docile
      unfold Cleanup.isDocile at docile
      show Reaches session ((session.performAct cleanup.act).record _)
      generalize CleanupRun.mk _ _ _ _ = run
      cases act : cleanup.act with
      | abort cause =>
          rw [act] at docile
          cases docile
      | _ => apply reaches_of_same <;> rfl

/-- A change of the tables that is published. -/
theorem reaches_publish (calls : middle.calls = before.calls)
    (ready : middle.agenda.ready = before.agenda.ready) (event : Event) :
    Reaches before (middle.publish event) :=
  (reaches_of_same calls ready).trans (middle.reaches_updateDelivery _)

theorem reaches_execute (docile : ∀ prop ∈ session.props.props, prop.isDocile = true)
    (caller : Nat) (command : Command V) :
    Reaches session (session.execute caller command).2 := by
  cases command with
  | store prop =>
      cases stored : session.props.store prop <;> simp only [execute, stored]
      · exact .refl session
      · apply reaches_publish <;> rfl
  | fetch key =>
      cases fetched : session.props.fetch key <;> simp only [execute, fetched]
      · exact .refl session
      · apply reaches_publish <;> rfl
  | dispose key =>
      show Reaches session (session.dispose key).2
      cases removed : session.props.remove key with
      | error error =>
          simp only [dispose, removed]
          exact .refl session
      | ok pair =>
          obtain ⟨prop, props⟩ := pair
          let emptied : Session V := { session with props }
          have taken : Reaches session emptied := reaches_of_same rfl rfl
          have cleaned : Reaches session (emptied.runCleanup prop).2 :=
            taken.trans (reaches_runCleanup (isDocile_of_remove docile removed) emptied)
          simp only [dispose, removed]
          generalize emptied.runCleanup prop = result at cleaned
          obtain ⟨failure, after⟩ := result
          replace cleaned : Reaches session after := cleaned
          cases failure with
          | some failure => exact cleaned
          | none =>
              show Reaches session (after.publish _)
              exact cleaned.trans (after.reaches_updateDelivery _)
  | signal topic =>
      cases raised : session.subscriptions.signal session.listens topic with
      | mk result subscriptions =>
          have replaced : Reaches session { session with subscriptions } := reaches_of_same rfl rfl
          cases result with
          | error error =>
              simp only [execute, raised]
              exact replaced
          | ok woken =>
              simp only [execute, raised]
              exact (replaced.trans (reaches_notifyAll .raised woken _)).trans
                (reaches_updateDelivery _ _)
  | subscribe topic =>
      have told := session.reaches_updateDelivery fun delivery =>
        delivery.publish ((Event.plain .waiterRegistered).withTopic topic)
      refine told.trans ?_
      apply reaches_of_same <;> rfl

theorem reaches_process (docile : ∀ prop ∈ session.props.props, prop.isDocile = true)
    (envelope : Envelope V) : Reaches session (session.process envelope) := by
  have executed := reaches_execute docile envelope.caller envelope.command
  unfold process
  generalize session.execute envelope.caller envelope.command = result at executed
  obtain ⟨response, after⟩ := result
  replace executed : Reaches session after := executed
  have told : Reaches session (after.publishFailure response) := by
    cases response with
    | error error =>
        show Reaches session (after.publish _)
        exact executed.trans (after.reaches_updateDelivery _)
    | ok reply => exact executed
  have noted (happening : Happening V) :
      Reaches session ((after.publishFailure response).record happening) :=
    told.trans (by apply reaches_of_same <;> rfl)
  exact (noted _).trans (reaches_respond _ _ _)

/-- Serving a command rouses whoever is granted the slot and whoever the command reaches. -/
theorem rouses_serveOne (docile : ∀ prop ∈ session.props.props, prop.isDocile = true)
    (envelope : Envelope V) (rest : Mailbox (Envelope V) × Option Nat) :
    Rouses (fun task => task ∈ rest.2.toList.map SceneTask.call ∨ session.Attends task) session
      (session.serveOne envelope rest) := by
  obtain ⟨woken, attend, ready⟩ :=
    (@reaches_process V (session.relieved rest) docile envelope).rouses
  refine ⟨rest.2.toList.map SceneTask.call ++ woken, fun task member => ?_, ?_⟩
  · exact (List.mem_append.mp member).imp_right (attend task)
  · have same : (session.serveOne envelope rest).agenda.ready
        = ((session.relieved rest).process envelope).agenda.ready :=
      congrArg Agenda.ready (agenda_rearm _)
    rw [same, ready]
    exact congrArg Agenda.ready (List.foldl_append ..).symm

/-! ## The head of the line -/

/-- Serving a command does not move any call. -/
theorem any_serveOne (serving : session.isServing) (envelope : Envelope V)
    (rest : Mailbox (Envelope V) × Option Nat) {test : Call V → Bool}
    (congr : ∀ call other : Call V, other.stage = call.stage → other.request = call.request →
      test other = test call) (id : Nat) :
    (session.serveOne envelope rest).calls[id]?.any test = session.calls[id]?.any test := by
  obtain ⟨backend, -, growth⟩ := serveOne_evolves serving envelope rest
  rw [growth.calls]
  show (session.calls[id]?.map _).any test = _
  cases session.calls[id]? with
  | none => rfl
  | some call =>
      exact congr call _ (Call.applyAll_stage (session.unmoved_serveChanges envelope id) call)
        (Call.applyAll_request _ call)

theorem not_seeker_of_listens {id : Nat} (hears : session.listens id = true) :
    session.calls[id]?.any Call.isSeeker = false
      ∧ session.calls[id]?.any Call.isNewcomer = false := by
  unfold Session.listens at hears
  cases found : session.calls[id]? with
  | none => exact ⟨rfl, rfl⟩
  | some call =>
      rw [found, Option.any_some] at hears
      unfold Call.listens at hears
      rw [Option.any_some, Option.any_some]
      unfold Call.isSeeker Call.isNewcomer
      split at hears <;> simp_all

theorem newcomers_serveOne (serving : session.isServing) (envelope : Envelope V)
    (rest : Mailbox (Envelope V) × Option Nat) (tasks : List SceneTask) :
    (session.serveOne envelope rest).newcomers tasks = session.newcomers tasks :=
  callersAmong_congr fun id _ =>
    any_serveOne serving envelope rest (fun _ _ => Call.isNewcomer_congr) id

theorem seekers_serveOne (serving : session.isServing) (envelope : Envelope V)
    (rest : Mailbox (Envelope V) × Option Nat) (tasks : List SceneTask) :
    (session.serveOne envelope rest).seekers tasks = session.seekers tasks :=
  callersAmong_congr fun id _ =>
    any_serveOne serving envelope rest (fun _ _ stage _ => Call.isSeeker_congr stage) id

section Roused

variable {envelope : Envelope V} {rest : Mailbox (Envelope V) × Option Nat}
  {extra : List SceneTask} (lines : session.mailbox.Lines session.Seeks)
  (taken : session.mailbox.take? = some (envelope, rest))
  (roused : ∀ task ∈ extra, task ∈ rest.2.toList.map SceneTask.call ∨ session.Attends task)
include lines taken roused

/-- None of those whom a served command rouses has yet to begin. -/
theorem newcomers_roused : session.newcomers extra = [] := by
  refine callersAmong_eq_nil fun id member => ?_
  rcases roused _ member with grantee | foreign | ⟨other, same, hears⟩
  · obtain ⟨_, next, ⟨⟩⟩ := List.mem_map.mp grantee
    have inLine : id ∈ session.mailbox.waiting :=
      (slots_of_take? taken).2 ▸ List.mem_append_left _ next
    exact not_newcomer_of_seeks (lines.sought id (List.mem_append_right _ inLine))
  · cases foreign
  · cases same
    exact (not_seeker_of_listens hears).2

/-- Of those whom a served command rouses, just the one that is granted its slot waits for
one. -/
theorem seekers_roused (inOrder : session.InOrder)
    (behind : (session.serveOne envelope rest).agenda.ready = session.agenda.ready ++ extra)
    (distinct : extra.Nodup) : session.seekers extra = rest.2.toList := by
  obtain ⟨granted, waiting⟩ := slots_of_take? taken
  have exactly (id : Nat) : id ∈ session.seekers extra ↔ id ∈ rest.2.toList := by
    constructor
    · intro member
      obtain ⟨new, seeks⟩ := mem_callersAmong.mp member
      rcases roused _ new with grantee | foreign | ⟨other, same, hears⟩
      · obtain ⟨_, next, ⟨⟩⟩ := List.mem_map.mp grantee
        exact next
      · cases foreign
      · cases same
        rw [(not_seeker_of_listens hears).1] at seeks
        cases seeks
    · intro next
      have inLine : id ∈ session.mailbox.waiting := waiting ▸ List.mem_append_left _ next
      have seeks := seeks_iff.mp (lines.sought id (List.mem_append_right _ inLine))
      have ungranted : id ∉ session.mailbox.granted := fun member =>
        (List.nodup_append.mp lines.distinct).2.2 id member id inLine rfl
      have woken := (granted_serveOne envelope taken id
        (granted ▸ List.mem_append_right _ next)).resolve_left ungranted
      rw [behind, List.mem_append] at woken
      refine mem_callersAmong.mpr ⟨woken.resolve_left fun old => ?_, seeks⟩
      exact ungranted (inOrder.seekers ▸ mem_callersAmong.mpr ⟨old, seeks⟩)
  have perm : (session.seekers extra).Perm rest.2.toList := by
    refine (List.perm_ext_iff_of_nodup (nodup_callersAmong distinct) ?_).mpr exactly
    cases rest.2 <;> simp
  generalize rest.2 = next at perm
  cases next with
  | none => exact perm.eq_nil
  | some caller => exact List.perm_singleton.mp perm

end Roused

/-- The command that is served is that of the head of the line, and the others move up. -/
theorem InOrder.serveOne (inOrder : session.InOrder) (lines : session.mailbox.Lines session.Seeks)
    (serving : session.isServing) (docile : ∀ prop ∈ session.props.props, prop.isDocile = true)
    {envelope : Envelope V} {rest : Mailbox (Envelope V) × Option Nat}
    (taken : session.mailbox.take? = some (envelope, rest))
    (alone : session.newcomers session.agenda.ready = [])
    (unready : .backend ∉ session.agenda.ready) :
    (session.serveOne envelope rest).InOrder
      ∧ session.line = envelope.caller :: (session.serveOne envelope rest).line
      ∧ (session.serveOne envelope rest).newcomers
          (session.serveOne envelope rest).agenda.ready = []
      ∧ .backend ∉ (session.serveOne envelope rest).agenda.ready := by
  obtain ⟨queued, -⟩ := take_queue taken
  obtain ⟨granted, waiting⟩ := slots_of_take? taken
  obtain ⟨backend, -, growth⟩ := serveOne_evolves serving envelope rest
  have mailbox : (session.serveOne envelope rest).mailbox = rest.1 := growth.mailbox
  obtain ⟨extra, behind, once, roused⟩ :=
    (rouses_serveOne docile envelope rest).behind inOrder.once
  have newcomers : (session.serveOne envelope rest).newcomers
      (session.serveOne envelope rest).agenda.ready = [] := by
    rw [newcomers_serveOne serving, behind]
    refine (callersAmong_append _ _).trans (List.append_eq_nil_iff.mpr ⟨alone, ?_⟩)
    exact newcomers_roused lines taken roused
  have seekers : (session.serveOne envelope rest).seekers
      (session.serveOne envelope rest).agenda.ready = rest.1.granted := by
    have own := seekers_roused lines taken roused inOrder behind (List.nodup_append.mp once).2.1
    rw [seekers_serveOne serving, behind, granted, ← inOrder.seekers, ← own]
    exact callersAmong_append _ _
  have unready : .backend ∉ (session.serveOne envelope rest).agenda.ready := by
    rw [behind, List.mem_append]
    rintro (old | new)
    · exact unready old
    · rcases roused _ new with grantee | foreign | ⟨other, same, -⟩
      · obtain ⟨_, -, ⟨⟩⟩ := List.mem_map.mp grantee
      · cases foreign
      · cases same
  refine ⟨⟨behind ▸ once, ?_, ?_, ?_⟩, ?_, newcomers, unready⟩
  · rw [mailbox]
    exact seekers
  · exact fun some => absurd newcomers some
  · intro front back split
    exact absurd (split ▸ List.mem_append_right _ (List.mem_cons_self ..)) unready
  · unfold line
    rw [alone, newcomers, mailbox, queued, granted, waiting]
    simp

/-- Subscribers do not stand in the line. -/
theorem InOrder.publish (inOrder : session.InOrder) (unready : .backend ∉ session.agenda.ready)
    {ready : List SceneTask} (mailbox : after.mailbox = session.mailbox)
    (calls : after.calls = session.calls)
    (woken : after.agenda.ready = (session.agenda.wakeAll ready).ready)
    (foreign : ∀ task ∈ ready, task.isOwn = false) :
    after.InOrder ∧ after.line = session.line
      ∧ after.newcomers after.agenda.ready = session.newcomers session.agenda.ready
      ∧ .backend ∉ after.agenda.ready := by
  obtain ⟨extra, behind, once, among⟩ := Agenda.wakeAll_behind inOrder.once ready
  rw [behind] at woken
  have newly : ∀ task ∈ extra, task.isOwn = false := fun task member =>
    foreign task (among task member)
  have same (test : Call V → Bool) : callersAmong after.calls test after.agenda.ready
      = callersAmong session.calls test session.agenda.ready := by
    have nobody : callersAmong session.calls test extra = [] :=
      callersAmong_eq_nil fun id member => by cases newly _ member
    rw [woken, calls, callersAmong_append, nobody, List.append_nil]
  have absent : .backend ∉ after.agenda.ready := by
    rw [woken, List.mem_append]
    rintro (old | new)
    · exact unready old
    · cases newly _ new
  have newcomers : after.newcomers after.agenda.ready = session.newcomers session.agenda.ready :=
    same _
  refine ⟨⟨woken ▸ once, ?_, ?_, ?_⟩, ?_, newcomers, absent⟩
  · rw [mailbox]
    exact (same _).trans inOrder.seekers
  · rw [newcomers, mailbox]
    exact inOrder.newcomers
  · intro front back split
    exact absurd (split ▸ List.mem_append_right _ (List.mem_cons_self ..)) absent
  · unfold line
    rw [newcomers, mailbox]

end Session

end BoundedScene
