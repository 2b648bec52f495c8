import BoundedScene.Scene.Session

/-!
Contract: the turn of a call.

Owns:
- the submission of a command, the wait for its reply, for a signal, and for the
  terminal result;
- how a call is classified that the end of the scene overtakes.

A command that did not enter the mailbox before the scene started to end fails
with `ended`.  One that entered it and was not answered fails with the terminal
error of the scene, or with `ended` if there is none.

Does not own: the turn of the backend.
-/

namespace BoundedScene.Session

variable {V : Type}

/-- The answer to a call that waited for the terminal result. -/
def terminalAnswer (request : Request V) : Except SceneError Unit → Answer V
  | .error error => .failed error
  | .ok () =>
      match request with
      | .stop => .done
      | .wait => .done
      | _ => .failed .ended

/-- Wait for the terminal result. -/
def awaitResult (session : Session V) (id : Nat) (request : Request V) : Session V :=
  match session.result? with
  | some result => session.answer id (terminalAnswer request result)
  | none => session.setStage id .awaitingResult

/-- Turn from a reply or a signal to the terminal result. -/
def overtake (session : Session V) (id : Nat) (request : Request V) : Session V :=
  (session.record (.overtaken id)).awaitResult id request

/-- Give up the place in the line for the mailbox, or the slot granted. -/
def leaveMailbox (session : Session V) (id : Nat) : Session V :=
  let (mailbox, granted) := session.mailbox.leave id
  ({ session with mailbox }).wakeAll (granted.toList.map SceneTask.call)

/-- Put a command into the mailbox, or wait for a slot. -/
def submit (session : Session V) (id : Nat) (command : Command V) : Session V :=
  if session.control.ending || session.mailbox.closed then
    (session.leaveMailbox id).answer id (.failed .ended)
  else if session.mailbox.admits id then
    let envelope : Envelope V := { caller := id, command }
    let entered := { session with mailbox := session.mailbox.enter id envelope }
    ((entered.record (.entered envelope)).wakeAll [.backend]).setStage id .awaitingReply
  else
    ({ session with mailbox := session.mailbox.await id }).setStage id .seekingSlot

/-- Wait for a signal.  A signal goes before the end of the scene, and that
before the deadline. -/
def awaitSignal (session : Session V) (id : Nat) (call : Call V) (topic : String)
    (deadline : Option Nat) : Session V :=
  match call.signal with
  | .raised => session.answer id .done
  | .released => session.overtake id call.request
  | .pending =>
      if session.control.ending then session.overtake id call.request
      else if deadline.any session.clock.isDue then
        session.answer id (.failed (.waitedTooLong topic))
      else session.setStage id (.awaitingSignal deadline)

/-- The reply arrived: answer with it, or start to wait for the signal.  The
limit of such a wait counts from here. -/
def acceptReply (session : Session V) (id : Nat) (call : Call V) (response : Response V) :
    Session V :=
  let session := session.record (.replied id response)
  match response with
  | .error error => session.answer id (.failed error)
  | .ok reply =>
      match call.request with
      | .waitSignal topic limit =>
          let deadline := if limit.isZero then none else some (session.clock.deadline limit)
          session.awaitSignal id call topic deadline
      | _ =>
          match reply with
          | .done => session.answer id .done
          | .value value => session.answer id (.value value)

/-- Wait for the reply to a command.  A reply goes before the end of the scene. -/
def awaitReply (session : Session V) (id : Nat) (call : Call V) : Session V :=
  match call.reply with
  | .filled response => session.acceptReply id call response
  | .closed => session.overtake id call.request
  | .pending =>
      if session.control.ending then
        (session.modifyCall id fun call => { call with reply := .closed }).overtake id
          call.request
      else session

/-- The first turn of a call. -/
def begin (session : Session V) (id : Nat) (call : Call V) : Session V :=
  let session := session.record (.started id)
  match call.request with
  | .stop => session.requestStop.awaitResult id call.request
  | .wait => session.awaitResult id call.request
  | .abort cause => (session.abort cause).answer id .done
  | .phase => session.answer id (.phase session.phase)
  | request =>
      match request.command? with
      | some command => session.submit id command
      | none => session

/-- Go on looking for a slot. -/
def seekSlot (session : Session V) (id : Nat) (call : Call V) : Session V :=
  match call.request.command? with
  | some command => session.submit id command
  | none => session

/-- The turn of a call. -/
def resumeCall (id : Nat) (session : Session V) : Session V :=
  match session.calls[id]? with
  | none => session
  | some call =>
      match call.stage with
      | .fresh => session.begin id call
      | .seekingSlot => session.seekSlot id call
      | .awaitingReply => session.awaitReply id call
      | .awaitingSignal deadline =>
          match call.request with
          | .waitSignal topic _ => session.awaitSignal id call topic deadline
          | _ => session
      | .awaitingResult => session.awaitResult id call.request
      | .finished _ _ => session
      | .dropped => session

end BoundedScene.Session
