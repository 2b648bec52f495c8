import BoundedScene.Event.Exchange
import Mathlib.Data.List.Basic

/-!
Contract: what one receiver of an exchange obtains, request by request.

Owns:
- `Bus.Finds`, what a receiver obtains next, told from the events that it has not read;
- `Exchange.attend`, what a request does to one receiver, and `Exchange.receiver?_serve`;
- `Exchange.heard`, what a receiver obtains in the course of requests;
- `Receipt.Accounts`, receipts that account for events;
- a drain as reads one after another.

Main statement: `Exchange.serve_accounts`: what a request obtains for a receiver accounts for the
events that it has not to read any more.

Does not own: who publishes and which handles are held.
-/

namespace BoundedScene

/-! ## Reading a bus -/

namespace Bus

variable {bus : Bus} {receiver : Receiver}

/-- The events that a receiver has not read or been told about. -/
def unread (bus : Bus) (receiver : Receiver) : List Event :=
  bus.published.drop receiver.position

/-- The events that can still be read. -/
def kept (bus : Bus) : List Event :=
  bus.published.drop (bus.published.length - bus.slots)

theorem length_unread (bus : Bus) (receiver : Receiver) :
    (bus.unread receiver).length = bus.backlog receiver :=
  List.length_drop

/-- What a receiver obtains next and has unread then, told from what it has unread before. -/
inductive Finds (bus : Bus) (closed : Bool) : List Event → Receipt → List Event → Prop where
  | event {event : Event} {rest : List Event} (near : (event :: rest).length ≤ bus.slots) :
      Finds bus closed (event :: rest) (.event event) rest
  /-- More events are unread than are kept. -/
  | gap {missed : List Event} (overtaken : missed ≠ []) (full : bus.kept.length = bus.slots) :
      Finds bus closed (missed ++ bus.kept) (.lagged missed.length) bus.kept
  | nothing : Finds bus closed [] (if closed then .closed else .empty) []

/-- What an overtaken receiver missed comes before what is kept. -/
theorem unread_overtaken (overtaken : bus.slots < bus.backlog receiver) :
    ∃ missed, missed.length = bus.backlog receiver - bus.slots ∧ missed ≠ []
      ∧ bus.unread receiver = missed ++ bus.kept ∧ bus.kept.length = bus.slots := by
  have length := bus.length_unread receiver
  have measure : bus.backlog receiver = bus.published.length - receiver.position := rfl
  have missed : ((bus.unread receiver).take (bus.backlog receiver - bus.slots)).length
      = bus.backlog receiver - bus.slots := by
    rw [List.length_take, length]
    omega
  refine ⟨_, missed, ?_, ?_, ?_⟩
  · apply List.ne_nil_of_length_pos
    omega
  · have place : receiver.position + (bus.backlog receiver - bus.slots)
        = bus.published.length - bus.slots := by omega
    rw [kept, ← place, ← List.drop_drop]
    exact (List.take_append_drop _ _).symm
  · rw [kept, List.length_drop]
    omega

theorem receive_finds (bus : Bus) (closed : Bool) (receiver : Receiver) :
    bus.Finds closed (bus.unread receiver) (bus.receive closed receiver).1
      (bus.unread (bus.receive closed receiver).2) := by
  have length := bus.length_unread receiver
  unfold receive
  by_cases overtaken : bus.slots < bus.backlog receiver
  · obtain ⟨missed, count, skipped, parted, full⟩ := unread_overtaken overtaken
    rw [if_pos overtaken, parted, ← count]
    exact .gap skipped full
  · rw [if_neg overtaken]
    cases next : bus.published[receiver.position]? with
    | none =>
        have beyond : bus.unread receiver = [] :=
          List.drop_eq_nil_of_le (List.getElem?_eq_none_iff.mp next)
        show bus.Finds closed (bus.unread receiver) _ (bus.unread receiver)
        rw [beyond]
        exact .nothing
    | some event =>
        obtain ⟨inside, rfl⟩ := List.getElem?_eq_some_iff.mp next
        have parted : bus.unread receiver
            = bus.published[receiver.position] :: bus.unread ⟨receiver.position + 1⟩ :=
          List.drop_eq_getElem_cons inside
        rw [parted] at length ⊢
        exact .event (by omega)

theorem receive_within (within : receiver.position ≤ bus.published.length) (closed : Bool) :
    (bus.receive closed receiver).2.position ≤ bus.published.length := by
  unfold receive
  split
  · exact Nat.sub_le ..
  · split
    · next event found => exact (List.getElem?_eq_some_iff.mp found).1
    · exact within

end Bus

/-! ## Accounting -/

/-- Receipts account for events: each event was received, or is counted in one gap report, in
the order of publication. -/
inductive Receipt.Accounts : List Event → List Receipt → Prop where
  | none : Accounts [] []
  | event {events : List Event} {receipts : List Receipt} (event : Event)
      (rest : Accounts events receipts) : Accounts (event :: events) (.event event :: receipts)
  | gap {missed events : List Event} {receipts : List Receipt} (overtaken : missed ≠ [])
      (rest : Accounts events receipts) :
      Accounts (missed ++ events) (.lagged missed.length :: receipts)
  | empty {events : List Event} {receipts : List Receipt} (rest : Accounts events receipts) :
      Accounts events (.empty :: receipts)
  | closed {events : List Event} {receipts : List Receipt} (rest : Accounts events receipts) :
      Accounts events (.closed :: receipts)

theorem Receipt.Accounts.append {events others : List Event} {receipts further : List Receipt}
    (first : Accounts events receipts) (second : Accounts others further) :
    Accounts (events ++ others) (receipts ++ further) := by
  induction first with
  | none => exact second
  | event event _ inductionHypothesis => exact .event event inductionHypothesis
  | gap overtaken _ inductionHypothesis =>
      rw [List.append_assoc]
      exact .gap overtaken inductionHypothesis
  | empty _ inductionHypothesis => exact .empty inductionHypothesis
  | closed _ inductionHypothesis => exact .closed inductionHypothesis

namespace Bus

variable {bus : Bus} {receiver : Receiver}

/-- What a receiver obtains accounts for what it has not to read any more. -/
theorem Finds.accounts {closed : Bool} {before after : List Event} {receipt : Receipt}
    (finds : bus.Finds closed before receipt after) :
    ∃ told, before = told ++ after ∧ Receipt.Accounts told [receipt] := by
  cases finds with
  | event near => exact ⟨[_], rfl, .event _ .none⟩
  | gap overtaken full =>
      exact ⟨_, rfl, by simpa only [List.append_nil] using Receipt.Accounts.gap overtaken .none⟩
  | nothing =>
      cases closed with
      | false => exact ⟨[], rfl, .empty .none⟩
      | true => exact ⟨[], rfl, .closed .none⟩

/-- A receiver has less to read than before, or finds that there is nothing to read. -/
inductive Finds.Progress (closed : Bool) (before after : List Event) : Receipt → Prop where
  | event (event : Event) (shorter : after.length < before.length) :
      Progress closed before after (.event event)
  | lagged (missed : Nat) (shorter : after.length < before.length) :
      Progress closed before after (.lagged missed)
  | empty (unclosed : closed = false) (done : after = []) : Progress closed before after .empty
  | closed (ended : closed = true) (done : after = []) : Progress closed before after .closed

theorem Finds.progress {closed : Bool} {before after : List Event} {receipt : Receipt}
    (finds : bus.Finds closed before receipt after) :
    Finds.Progress closed before after receipt := by
  cases finds with
  | event near => exact .event _ (Nat.lt_succ_self _)
  | gap overtaken full =>
      have longer := List.length_pos_iff.mpr overtaken
      exact .lagged _ (by rw [List.length_append]; omega)
  | nothing =>
      cases closed with
      | false => exact .empty rfl rfl
      | true => exact .closed rfl rfl

/-- A receiver for which everything is kept is not told about a gap, nor is it then. -/
theorem Finds.gapless {closed : Bool} {before after : List Event} {receipt : Receipt}
    (finds : bus.Finds closed before receipt after) (near : before.length ≤ bus.slots) :
    (∀ missed, receipt ≠ .lagged missed) ∧ after.length ≤ bus.slots := by
  cases finds with
  | event => exact ⟨fun _ => nofun, Nat.le_of_succ_le near⟩
  | gap overtaken full =>
      have longer := List.length_pos_iff.mpr overtaken
      rw [List.length_append] at near
      omega
  | nothing => exact ⟨by cases closed <;> exact fun _ => nofun, near⟩

/-- What is left after a gap is what is kept. -/
theorem Finds.left {closed : Bool} {before after : List Event} {receipt : Receipt}
    (finds : bus.Finds closed before receipt after) {missed : Nat}
    (told : receipt = .lagged missed) : after = bus.kept ∧ bus.kept.length = bus.slots := by
  cases finds with
  | event => cases told
  | gap overtaken full => exact ⟨rfl, full⟩
  | nothing => cases closed <;> cases told

/-- The first of the events that are unread is obtained, if all of them are kept. -/
theorem Finds.first {closed : Bool} {oldest : Event} {before later after : List Event}
    {receipt : Receipt} (finds : bus.Finds closed before receipt after)
    (unread : before = oldest :: later) (near : before.length ≤ bus.slots) :
    receipt = .event oldest := by
  cases finds with
  | event =>
      cases unread
      rfl
  | gap overtaken full =>
      have longer := List.length_pos_iff.mpr overtaken
      rw [List.length_append] at near
      omega
  | nothing => cases unread

/-- The end is seen once the bus is closed and nothing is unread. -/
theorem Finds.closed_iff {closed : Bool} {before after : List Event} {receipt : Receipt}
    (finds : bus.Finds closed before receipt after) :
    receipt = .closed ↔ closed = true ∧ before = [] := by
  cases finds with
  | event => simp
  | gap overtaken => simp [overtaken]
  | nothing => cases closed <;> simp

theorem drainWithin_gapless (closed : Bool) (reads : Nat)
    (near : (bus.unread receiver).length ≤ bus.slots) (missed : Nat) :
    .lagged missed ∉ (bus.drainWithin closed reads receiver).1 := by
  induction reads generalizing receiver with
  | zero => exact List.not_mem_nil
  | succ reads inductionHypothesis =>
      obtain ⟨gapless, further⟩ := (bus.receive_finds closed receiver).gapless near
      unfold drainWithin
      generalize bus.receive closed receiver = received at gapless further
      obtain ⟨receipt, next⟩ := received
      cases receipt with
      | event event => simpa using inductionHypothesis further
      | lagged count => exact absurd rfl (gapless count)
      | closed => simp
      | empty => exact List.not_mem_nil

theorem drainWithin_accounts (bus : Bus) (closed : Bool) (reads : Nat) (receiver : Receiver) :
    ∃ told, bus.unread receiver = told ++ bus.unread (bus.drainWithin closed reads receiver).2
      ∧ Receipt.Accounts told (bus.drainWithin closed reads receiver).1 := by
  induction reads generalizing receiver with
  | zero => exact ⟨[], rfl, .none⟩
  | succ reads inductionHypothesis =>
      obtain ⟨told, parted, accounts⟩ := (bus.receive_finds closed receiver).accounts
      unfold drainWithin
      generalize bus.receive closed receiver = received at parted accounts
      obtain ⟨receipt, next⟩ := received
      obtain ⟨further, rest, counted⟩ := inductionHypothesis next
      have whole : bus.unread receiver
          = (told ++ further) ++ bus.unread (bus.drainWithin closed reads next).2 := by
        rw [parted, List.append_assoc, ← rest]
      cases receipt with
      | event event => exact ⟨told ++ further, whole, accounts.append counted⟩
      | lagged missed => exact ⟨told ++ further, whole, accounts.append counted⟩
      | closed => exact ⟨told, parted, accounts⟩
      | empty =>
          cases accounts with
          | empty nothing => exact ⟨_, parted, nothing⟩

theorem drain_accounts (bus : Bus) (closed : Bool) (receiver : Receiver) :
    ∃ told, bus.unread receiver = told ++ bus.unread (bus.drain closed receiver).2
      ∧ Receipt.Accounts told (bus.drain closed receiver).1 :=
  bus.drainWithin_accounts ..

theorem drainWithin_within (closed : Bool) (reads : Nat)
    (within : receiver.position ≤ bus.published.length) :
    (bus.drainWithin closed reads receiver).2.position ≤ bus.published.length := by
  induction reads generalizing receiver with
  | zero => exact within
  | succ reads inductionHypothesis =>
      have further := bus.receive_within within closed
      unfold drainWithin
      generalize bus.receive closed receiver = received at further
      obtain ⟨receipt, next⟩ := received
      cases receipt with
      | event event => exact inductionHypothesis further
      | lagged missed => exact inductionHypothesis further
      | closed => exact further
      | empty => exact further

end Bus

/-! ## Receivers by their numbers -/

theorem join_set {α : Type} (members : List (Option α)) (number index : Nat)
    (member : Option α) :
    (members.set number member)[index]?.join
      = if number = index ∧ index < members.length then member else members[index]?.join := by
  rw [List.getElem?_set]
  by_cases same : number = index
  · subst same
    by_cases inside : number < members.length
    · simp [inside]
    · simp [inside]
  · simp [same]

theorem join_concat {α : Type} (members : List (Option α)) (index : Nat) (member : Option α) :
    (members ++ [member])[index]?.join
      = if index = members.length then member else members[index]?.join := by
  by_cases last : index = members.length
  · subst last
    simp
  · rw [if_neg last, List.getElem?_append]
    by_cases inside : index < members.length
    · rw [if_pos inside]
    · rw [if_neg inside, List.getElem?_eq_none (Nat.not_lt.mp inside),
        List.getElem?_eq_none (by rw [List.length_singleton]; omega)]

namespace Exchange

/-! ## Requests in order -/

variable {exchange : Exchange} {number : Nat}

/-- The exchange after requests. -/
def after (exchange : Exchange) (requests : List Request) : Exchange :=
  (exchange.serveAll requests).2

theorem serveAll_cons_fst (exchange : Exchange) (request : Request) (later : List Request) :
    (exchange.serveAll (request :: later)).1
      = (exchange.serve request).1 :: ((exchange.serve request).2.serveAll later).1 :=
  rfl

theorem after_cons (exchange : Exchange) (request : Request) (later : List Request) :
    exchange.after (request :: later) = (exchange.serve request).2.after later :=
  rfl

theorem after_append (exchange : Exchange) (first second : List Request) :
    exchange.after (first ++ second) = (exchange.after first).after second := by
  induction first generalizing exchange with
  | nil => rfl
  | cons request rest inductionHypothesis =>
      rw [List.cons_append, after_cons, after_cons, inductionHypothesis]

/-- The events that a request publishes. -/
def Request.events : Request → List Event
  | .publish event times => List.replicate times event
  | _ => []

/-- A request to another receiver than the one with a number. -/
def Request.isElsewhere (number : Nat) : Request → Bool
  | .receive other => other != number
  | .drain other => other != number
  | .dropReceiver other => other != number
  | _ => false

/-- What a request obtains for its receiver, and the receiver after it, if it is not dropped. -/
def attend (exchange : Exchange) (receiver : Receiver) :
    Request → List Receipt × Option Receiver
  | .receive _ =>
      let (receipt, next) := exchange.bus.receive exchange.closed receiver
      ([receipt], some next)
  | .drain _ =>
      let (receipts, next) := exchange.bus.drain exchange.closed receiver
      (receipts, some next)
  | .dropReceiver _ => ([], none)
  | _ => ([], some receiver)

/-- What a request obtains for the receiver with a number. -/
def obtained (exchange : Exchange) (number : Nat) (request : Request) : List Receipt :=
  if request.isElsewhere number then []
  else
    ((exchange.receiver? number).map fun receiver => (exchange.attend receiver request).1).getD []

/-- What the receiver with a number obtains in the course of requests. -/
def heard (exchange : Exchange) (number : Nat) : List Request → List Receipt
  | [] => []
  | request :: later =>
      exchange.obtained number request ++ (exchange.serve request).2.heard number later

theorem heard_append (exchange : Exchange) (number : Nat) (first second : List Request) :
    exchange.heard number (first ++ second)
      = exchange.heard number first ++ (exchange.after first).heard number second := by
  induction first generalizing exchange with
  | nil => rfl
  | cons request rest inductionHypothesis =>
      rw [List.cons_append, heard, heard, after_cons, inductionHypothesis, List.append_assoc]

/-! ## One request -/

/-- Another receiver, or none, in the place of one. -/
def put (exchange : Exchange) (number : Nat) (member : Option Receiver) : Exchange :=
  { exchange with receivers := exchange.receivers.set number member }

theorem receiver?_of_le (beyond : exchange.receivers.length ≤ number) :
    exchange.receiver? number = none := by
  rw [receiver?, List.getElem?_eq_none beyond]
  rfl

theorem lt_of_receiver? {receiver : Receiver}
    (present : exchange.receiver? number = some receiver) :
    number < exchange.receivers.length := by
  by_contra beyond
  rw [receiver?_of_le (Nat.not_lt.mp beyond)] at present
  cases present

theorem receiver?_put_ne {other : Nat} (apart : other ≠ number) (member : Option Receiver) :
    (exchange.put other member).receiver? number = exchange.receiver? number := by
  show (exchange.receivers.set other member)[number]?.join = _
  rw [join_set, if_neg fun both => apart both.1]
  rfl

theorem receiver?_put_self {receiver : Receiver}
    (present : exchange.receiver? number = some receiver) (member : Option Receiver) :
    (exchange.put number member).receiver? number = member := by
  show (exchange.receivers.set number member)[number]?.join = _
  rw [join_set, if_pos ⟨rfl, lt_of_receiver? present⟩]

theorem receiver?_put_none : (exchange.put number none).receiver? number = none := by
  show (exchange.receivers.set number none)[number]?.join = _
  rw [join_set]
  by_cases inside : number = number ∧ number < exchange.receivers.length
  · exact if_pos inside
  · rw [if_neg inside]
    exact receiver?_of_le (Nat.not_lt.mp fun less => inside ⟨rfl, less⟩)

/-- What is asked of a receiver that was dropped, or never made, is not done. -/
theorem serve_absent (absent : exchange.receiver? number = none) :
    exchange.serve (.receive number) = (.done, exchange)
      ∧ exchange.serve (.drain number) = (.done, exchange) := by
  simp only [serve, absent, and_self]

theorem serve_receive {receiver : Receiver} (present : exchange.receiver? number = some receiver) :
    exchange.serve (.receive number)
      = (.receipt (exchange.bus.receive exchange.closed receiver).1,
        exchange.put number (exchange.bus.receive exchange.closed receiver).2) := by
  simp only [serve, present, put]

theorem serve_drain {receiver : Receiver} (present : exchange.receiver? number = some receiver) :
    exchange.serve (.drain number)
      = (.receipts (Receipt.listing (exchange.bus.drain exchange.closed receiver).1),
        exchange.put number (exchange.bus.drain exchange.closed receiver).2) := by
  simp only [serve, present, put]

/-- A request to a receiver leaves the other receivers and all else alone. -/
inductive Moves (exchange : Exchange) (number : Nat) : Exchange → Prop where
  | stay : Moves exchange number exchange
  | put (member : Option Receiver) : Moves exchange number (exchange.put number member)

theorem moves_receive (exchange : Exchange) (number : Nat) :
    exchange.Moves number (exchange.serve (.receive number)).2 := by
  cases found : exchange.receiver? number with
  | none =>
      rw [(serve_absent found).1]
      exact .stay
  | some receiver =>
      rw [serve_receive found]
      exact .put _

theorem moves_drain (exchange : Exchange) (number : Nat) :
    exchange.Moves number (exchange.serve (.drain number)).2 := by
  cases found : exchange.receiver? number with
  | none =>
      rw [(serve_absent found).2]
      exact .stay
  | some receiver =>
      rw [serve_drain found]
      exact .put _

theorem moves_dropReceiver (exchange : Exchange) (number : Nat) :
    exchange.Moves number (exchange.serve (.dropReceiver number)).2 :=
  .put none

namespace Moves

variable {next : Exchange}

theorem bus (moves : exchange.Moves number next) : next.bus = exchange.bus := by
  cases moves <;> rfl

theorem senders (moves : exchange.Moves number next) : next.senders = exchange.senders := by
  cases moves <;> rfl

theorem length (moves : exchange.Moves number next) :
    next.receivers.length = exchange.receivers.length := by
  cases moves with
  | stay => rfl
  | put => exact List.length_set

theorem receiver?_ne {other : Nat} (moves : exchange.Moves other next) (apart : other ≠ number) :
    next.receiver? number = exchange.receiver? number := by
  cases moves with
  | stay => rfl
  | put member => exact receiver?_put_ne apart member

end Moves

/-- A request to another receiver is not noticed. -/
theorem moves_of_isElsewhere {request : Request} (elsewhere : request.isElsewhere number) :
    ∃ other, other ≠ number ∧ exchange.Moves other (exchange.serve request).2 := by
  cases request with
  | receive other => exact ⟨other, bne_iff_ne.mp elsewhere, exchange.moves_receive other⟩
  | drain other => exact ⟨other, bne_iff_ne.mp elsewhere, exchange.moves_drain other⟩
  | dropReceiver other =>
      exact ⟨other, bne_iff_ne.mp elsewhere, exchange.moves_dropReceiver other⟩
  | publish event times => cases elsewhere
  | subscribe => cases elsewhere
  | clone => cases elsewhere
  | dropSender other => cases elsewhere

theorem foldl_publish (bus : Bus) (events : List Event) :
    events.foldl Bus.publish bus = { bus with published := bus.published ++ events } := by
  induction events generalizing bus with
  | nil => rw [List.append_nil]; rfl
  | cons first rest inductionHypothesis =>
      rw [List.foldl_cons, inductionHypothesis]
      simp only [Bus.publish, List.append_assoc, List.singleton_append]

/-- A request publishes its events and changes nothing else about the bus. -/
theorem bus_serve (exchange : Exchange) (request : Request) :
    (exchange.serve request).2.bus
      = { exchange.bus with published := exchange.bus.published ++ request.events } := by
  have unchanged : exchange.bus
      = { exchange.bus with published := exchange.bus.published ++ [] } := by
    rw [List.append_nil]
  cases request with
  | publish event times => exact foldl_publish ..
  | subscribe => exact unchanged
  | receive other => exact (exchange.moves_receive other).bus.trans unchanged
  | drain other => exact (exchange.moves_drain other).bus.trans unchanged
  | clone => exact unchanged
  | dropSender other => exact unchanged
  | dropReceiver other => exact unchanged

theorem length_receivers_serve (exchange : Exchange) (request : Request) :
    (exchange.serve request).2.receivers.length
      = exchange.receivers.length + [request].count .subscribe := by
  cases request with
  | subscribe => exact List.length_append
  | receive other => exact (exchange.moves_receive other).length
  | drain other => exact (exchange.moves_drain other).length
  | dropReceiver other => exact (exchange.moves_dropReceiver other).length
  | publish event times => rfl
  | clone => rfl
  | dropSender other => rfl

/-- What a request that is not to another receiver does to the one with a number. -/
theorem receiver?_serve {request : Request} (here : request.isElsewhere number = false) :
    (exchange.serve request).2.receiver? number
      = if request = .subscribe ∧ number = exchange.receivers.length then
          some exchange.bus.subscribe
        else
          (exchange.receiver? number).bind fun receiver =>
            (exchange.attend receiver request).2 := by
  have alone : exchange.receiver? number = (exchange.receiver? number).bind some :=
    (Option.bind_fun_some _).symm
  cases request with
  | publish event times => exact alone
  | clone => exact alone
  | dropSender other => exact alone
  | subscribe =>
      show (exchange.receivers ++ [_])[number]?.join = _
      rw [join_concat]
      by_cases newest : number = exchange.receivers.length
      · rw [if_pos newest, if_pos ⟨rfl, newest⟩]
      · rw [if_neg newest, if_neg fun both => newest both.2]
        exact alone
  | receive other =>
      cases bne_eq_false_iff_eq.mp here
      rw [if_neg fun both => nomatch both.1]
      cases found : exchange.receiver? number with
      | none =>
          rw [(serve_absent found).1]
          exact found
      | some receiver =>
          rw [serve_receive found]
          exact receiver?_put_self found _
  | drain other =>
      cases bne_eq_false_iff_eq.mp here
      rw [if_neg fun both => nomatch both.1]
      cases found : exchange.receiver? number with
      | none =>
          rw [(serve_absent found).2]
          exact found
      | some receiver =>
          rw [serve_drain found]
          exact receiver?_put_self found _
  | dropReceiver other =>
      cases bne_eq_false_iff_eq.mp here
      rw [if_neg fun both => nomatch both.1]
      refine Eq.trans receiver?_put_none (Eq.symm ?_)
      exact Option.bind_eq_none_iff.mpr fun _ _ => rfl

theorem receiver?_serve_absent {request : Request} (absent : exchange.receiver? number = none)
    (another : request = .subscribe → number ≠ exchange.receivers.length) :
    (exchange.serve request).2.receiver? number = none := by
  by_cases elsewhere : request.isElsewhere number
  · obtain ⟨other, apart, moves⟩ := exchange.moves_of_isElsewhere elsewhere
    exact (moves.receiver?_ne apart).trans absent
  · rw [receiver?_serve (Bool.eq_false_iff.mpr elsewhere), if_neg fun both => another both.1 both.2,
      absent]
    rfl

theorem obtained_absent (absent : exchange.receiver? number = none) (request : Request) :
    exchange.obtained number request = [] := by
  unfold obtained
  rw [absent]
  exact ite_self _

/-! ## What a receiver has not read -/

/-- The events that the receiver with a number has not read or been told about. -/
def unread? (exchange : Exchange) (number : Nat) : Option (List Event) :=
  (exchange.receiver? number).map exchange.bus.unread

/-- A request that does not drop its receiver accounts for what is not to be read any more. -/
theorem attend_accounts {receiver : Receiver} {request : Request}
    (stays : ∀ other, request ≠ .dropReceiver other)
    (within : receiver.position ≤ exchange.bus.published.length) :
    ∃ next told, (exchange.attend receiver request).2 = some next
      ∧ next.position ≤ exchange.bus.published.length
      ∧ exchange.bus.unread receiver = told ++ exchange.bus.unread next
      ∧ Receipt.Accounts told (exchange.attend receiver request).1 := by
  cases request with
  | receive other =>
      obtain ⟨told, parted, accounts⟩ :=
        (exchange.bus.receive_finds exchange.closed receiver).accounts
      exact ⟨_, told, rfl, exchange.bus.receive_within within _, parted, accounts⟩
  | drain other =>
      obtain ⟨told, parted, accounts⟩ := exchange.bus.drain_accounts exchange.closed receiver
      exact ⟨(exchange.bus.drain exchange.closed receiver).2, told, rfl,
        Bus.drainWithin_within _ _ within, parted, accounts⟩
  | dropReceiver other => exact absurd rfl (stays other)
  | publish event times => exact ⟨receiver, [], rfl, within, rfl, .none⟩
  | subscribe => exact ⟨receiver, [], rfl, within, rfl, .none⟩
  | clone => exact ⟨receiver, [], rfl, within, rfl, .none⟩
  | dropSender other => exact ⟨receiver, [], rfl, within, rfl, .none⟩

/-- What is published comes behind what is unread. -/
theorem unread_serve {receiver : Receiver}
    (within : receiver.position ≤ exchange.bus.published.length) (request : Request) :
    (exchange.serve request).2.bus.unread receiver
      = exchange.bus.unread receiver ++ request.events := by
  rw [bus_serve]
  exact List.drop_append_of_le_length within

/-- What a request obtains for a receiver accounts for the events that it has not to read any
more. -/
theorem serve_accounts {receiver : Receiver} {request : Request}
    (present : exchange.receiver? number = some receiver)
    (within : receiver.position ≤ exchange.bus.published.length)
    (stays : request ≠ .dropReceiver number) :
    ∃ next told, (exchange.serve request).2.receiver? number = some next
      ∧ next.position ≤ (exchange.serve request).2.bus.published.length
      ∧ exchange.bus.unread receiver ++ request.events
        = told ++ (exchange.serve request).2.bus.unread next
      ∧ Receipt.Accounts told (exchange.obtained number request) := by
  have longer : exchange.bus.published.length
      ≤ (exchange.serve request).2.bus.published.length := by
    rw [bus_serve]
    exact (List.length_append ..).symm ▸ Nat.le_add_right ..
  unfold obtained
  by_cases elsewhere : request.isElsewhere number
  · obtain ⟨other, apart, moves⟩ := exchange.moves_of_isElsewhere elsewhere
    have still := (moves.receiver?_ne apart).trans present
    refine ⟨receiver, [], still, Nat.le_trans within longer, ?_, ?_⟩
    · exact (unread_serve within request).symm
    · rw [if_pos elsewhere]
      exact .none
  · have here := Bool.eq_false_iff.mpr elsewhere
    have older : ¬(request = .subscribe ∧ number = exchange.receivers.length) := by
      rintro ⟨_, rfl⟩
      exact absurd (lt_of_receiver? present) (Nat.lt_irrefl _)
    have notDropped : ∀ other, request ≠ .dropReceiver other := by
      rintro other rfl
      cases bne_eq_false_iff_eq.mp here
      exact stays rfl
    obtain ⟨next, told, attended, inside, parted, accounts⟩ :=
      exchange.attend_accounts notDropped within
    refine ⟨next, told, ?_, Nat.le_trans inside longer, ?_, ?_⟩
    · rw [receiver?_serve here, if_neg older, present]
      exact attended
    · rw [parted, unread_serve inside, List.append_assoc]
    · rw [if_neg elsewhere, present]
      exact accounts

/-! ## A drain -/

theorem obtained_receive {receiver : Receiver}
    (present : exchange.receiver? number = some receiver) :
    exchange.obtained number (.receive number)
      = [(exchange.bus.receive exchange.closed receiver).1] := by
  unfold obtained
  rw [present, if_neg (by simp [Request.isElsewhere])]
  rfl

theorem obtained_drain {receiver : Receiver}
    (present : exchange.receiver? number = some receiver) :
    exchange.obtained number (.drain number)
      = (exchange.bus.drain exchange.closed receiver).1 := by
  unfold obtained
  rw [present, if_neg (by simp [Request.isElsewhere])]
  rfl

theorem put_put (exchange : Exchange) (number : Nat) (first second : Option Receiver) :
    (exchange.put number first).put number second = exchange.put number second := by
  unfold put
  rw [List.set_set]

/-- Reading one after another until there is nothing to read comes to a drain. -/
theorem drainWithin_receives {receiver : Receiver} {reads : Nat}
    (present : exchange.receiver? number = some receiver)
    (enough : (exchange.bus.unread receiver).length < reads) :
    ∃ count, exchange.heard number (List.replicate count (.receive number))
        = (exchange.bus.drainWithin exchange.closed reads receiver).1
          ++ (if exchange.closed then [] else [.empty])
      ∧ exchange.after (List.replicate count (.receive number))
        = exchange.put number (exchange.bus.drainWithin exchange.closed reads receiver).2
      ∧ exchange.bus.unread (exchange.bus.drainWithin exchange.closed reads receiver).2 = [] := by
  induction reads generalizing exchange receiver with
  | zero => exact absurd enough (Nat.not_lt_zero _)
  | succ reads inductionHypothesis =>
      have progress := (exchange.bus.receive_finds exchange.closed receiver).progress
      have served := congrArg Prod.snd (serve_receive present)
      have obtained := obtained_receive present
      unfold Bus.drainWithin
      generalize exchange.bus.receive exchange.closed receiver = received at *
      obtain ⟨receipt, next⟩ := received
      have again : (exchange.put number next).receiver? number = some next :=
        receiver?_put_self present _
      -- A read of an event or of a gap comes before those of the rest.
      have first (shorter : (exchange.bus.unread next).length
            < (exchange.bus.unread receiver).length) :
          ∃ count, exchange.heard number (List.replicate count (.receive number))
              = receipt :: (exchange.bus.drainWithin exchange.closed reads next).1
                ++ (if exchange.closed then [] else [.empty])
            ∧ exchange.after (List.replicate count (.receive number))
              = exchange.put number (exchange.bus.drainWithin exchange.closed reads next).2
            ∧ exchange.bus.unread (exchange.bus.drainWithin exchange.closed reads next).2 = [] := by
        obtain ⟨count, heard, reached, done⟩ := inductionHypothesis again (by
          show (exchange.bus.unread next).length < reads
          omega)
        refine ⟨count + 1, ?_, ?_, done⟩
        · rw [List.replicate_succ, Exchange.heard, obtained, served]
          exact congrArg (receipt :: ·) heard
        · rw [List.replicate_succ, after_cons, served]
          exact reached.trans (exchange.put_put ..)
      have last : exchange.heard number (List.replicate 1 (.receive number)) = [receipt] := by
        rw [List.replicate_one, Exchange.heard, Exchange.heard, obtained, List.append_nil]
      cases progress with
      | event event shorter => exact first shorter
      | lagged missed shorter => exact first shorter
      | empty unclosed done =>
          rw [unclosed] at *
          exact ⟨1, last, served, done⟩
      | closed ended done =>
          rw [ended] at *
          exact ⟨1, last, served, done⟩

/-- A drain reads until there is nothing to read. -/
theorem drain_receives {receiver : Receiver}
    (present : exchange.receiver? number = some receiver) :
    ∃ count, exchange.heard number (List.replicate count (.receive number))
        = exchange.obtained number (.drain number) ++ (if exchange.closed then [] else [.empty])
      ∧ exchange.after (List.replicate count (.receive number))
        = (exchange.serve (.drain number)).2
      ∧ (exchange.serve (.drain number)).2.unread? number = some [] := by
  have enough : (exchange.bus.unread receiver).length < exchange.bus.backlog receiver + 2 := by
    rw [Bus.length_unread]
    omega
  obtain ⟨count, heard, reached, done⟩ := exchange.drainWithin_receives present enough
  rw [obtained_drain present, serve_drain present]
  refine ⟨count, heard, reached, ?_⟩
  rw [unread?, receiver?_put_self present]
  exact congrArg some done

end Exchange

end BoundedScene
