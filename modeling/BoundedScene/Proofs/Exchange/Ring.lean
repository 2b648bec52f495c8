import BoundedScene.Proofs.Exchange.Reading
import Mathlib.Data.List.Forall2
import Mathlib.Data.Nat.Basic

/-!
Contract: a bus shows its receivers what they would find in a ring of slots.

Owns:
- `Ring`, slots that are written over in turn, each with the number of the event in it;
- `RingExchange`, an exchange on a ring, where an event is lost if nobody is there to receive it;
- `Ring.Holds`, what stands in the slots after some events were sent;
- `Mirrors`, what an exchange and one on a ring have in common.

Main statement: `RingExchange.replies_eq`: whatever is asked of them, both give the same replies.

A bus keeps all that was published and counts how far a receiver is behind.  A ring knows only
the latest event of each slot, and a receiver finds out by its number whether that is the event
it waits for, an older or a later one.

Does not own: what a receiver is told in the course of time.
-/

namespace BoundedScene

/-- Slots that are written over in turn.  A slot holds the event last written to it, with the
number of that event. -/
structure Ring where
  cells : List (Option (Nat × Event))
  written : Nat := 0

namespace Ring

def slots (ring : Ring) : Nat :=
  ring.cells.length

/-- A ring to which nothing has been written. -/
def blank (slots : Nat) : Ring :=
  { cells := List.replicate slots none }

/-- Write an event to the slot whose turn it is. -/
def send (ring : Ring) (event : Event) : Ring :=
  { cells := ring.cells.set (ring.written % ring.slots) (some (ring.written, event))
    written := ring.written + 1 }

/-- What a receiver finds in the slot of the next event, and the receiver after it.

An event with a later number tells that the receiver was overtaken, and an earlier one, or none,
that nothing has been written there yet. -/
def receive (ring : Ring) (closed : Bool) (receiver : Receiver) : Receipt × Receiver :=
  match (ring.cells[receiver.position % ring.slots]?).join with
  | none => (if closed then .closed else .empty, receiver)
  | some (number, event) =>
      if number = receiver.position then (.event event, ⟨receiver.position + 1⟩)
      else if receiver.position < number then
        (.lagged (ring.written - ring.slots - receiver.position), ⟨ring.written - ring.slots⟩)
      else (if closed then .closed else .empty, receiver)

/-- Everything that a receiver finds, in at most `reads` reads. -/
def drainWithin (ring : Ring) (closed : Bool) : Nat → Receiver → List Receipt × Receiver
  | 0, receiver => ([], receiver)
  | reads + 1, receiver =>
      match ring.receive closed receiver with
      | (.empty, receiver) => ([], receiver)
      | (.closed, receiver) => ([.closed], receiver)
      | (receipt, receiver) =>
          let rest := ring.drainWithin closed reads receiver
          (receipt :: rest.1, rest.2)

/-- Everything that a receiver finds. -/
def drain (ring : Ring) (closed : Bool) (receiver : Receiver) : List Receipt × Receiver :=
  ring.drainWithin closed (ring.written - receiver.position + 2) receiver

/-! ## What stands in the slots -/

/-- The slots of a ring after events were sent: the latest ones stand in their slots, and a slot
whose turn has not come is empty. -/
structure Holds (ring : Ring) (sent : List Event) : Prop where
  sized : 0 < ring.slots
  written : ring.written = sent.length
  kept : ∀ {number : Nat} {event : Event}, sent[number]? = some event →
    sent.length ≤ number + ring.slots →
    ring.cells[number % ring.slots]? = some (some (number, event))
  blank : ∀ {index : Nat}, sent.length ≤ index → index < ring.slots →
    ring.cells[index]? = some none

theorem holds_blank {slots : Nat} (sized : 0 < slots) : (blank slots).Holds [] := by
  constructor
  case sized =>
    show 0 < (List.replicate slots none).length
    rwa [List.length_replicate]
  case written => rfl
  case kept =>
    intro number event found
    cases found
  case blank =>
    intro index _ within
    have inside : index < slots := by
      rwa [Ring.slots, Ring.blank, List.length_replicate] at within
    show (List.replicate slots none)[index]? = some none
    rw [List.getElem?_replicate, if_pos inside]

/-- Numbers less than a round apart have different slots. -/
theorem mod_ne_mod {first second slots : Nat} (before : first < second)
    (near : second < first + slots) : first % slots ≠ second % slots := by
  intro same
  have divides : slots ∣ second - first :=
    Nat.dvd_of_mod_eq_zero (Nat.sub_mod_eq_zero_of_mod_eq same.symm)
  have round := Nat.le_of_dvd (by omega) divides
  omega

theorem slots_send (ring : Ring) (event : Event) : (ring.send event).slots = ring.slots :=
  List.length_set

theorem Holds.send {ring : Ring} {sent : List Event} (holds : ring.Holds sent) (event : Event) :
    (ring.send event).Holds (sent ++ [event]) := by
  have written := holds.written
  have place : ring.written % ring.slots < ring.cells.length := Nat.mod_lt _ holds.sized
  have others {index : Nat} (other : ring.written % ring.slots ≠ index) :
      (ring.send event).cells[index]? = ring.cells[index]? :=
    List.getElem?_set_ne other
  constructor
  case sized =>
    rw [slots_send]
    exact holds.sized
  case written =>
    rw [List.length_append, ← written]
    rfl
  case kept =>
    intro number item found near
    rw [slots_send] at near ⊢
    rw [List.length_append, List.length_singleton] at near
    by_cases earlier : number < sent.length
    · rw [List.getElem?_append_left earlier] at found
      have apart := mod_ne_mod earlier (show sent.length < number + ring.slots by omega)
      rw [others (by rw [written]; exact apart.symm)]
      exact holds.kept found (by omega)
    · have last : number = sent.length := by
        have inside := (List.getElem?_eq_some_iff.mp found).1
        rw [List.length_append, List.length_singleton] at inside
        omega
      subst last
      rw [List.getElem?_concat_length] at found
      cases found
      rw [← written]
      exact List.getElem?_set_self place
  case blank =>
    intro index unwritten within
    rw [slots_send] at within
    rw [List.length_append, List.length_singleton] at unwritten
    have turn : ring.written % ring.slots ≠ index := by
      rw [Nat.mod_eq_of_lt (by omega)]
      omega
    rw [others turn]
    exact holds.blank (by omega) within

/-- Of the numbers written to one slot, the latest is less than a round behind the writer. -/
theorem exists_latest {position written slots : Nat} (sized : 0 < slots)
    (overtaken : position + slots < written) :
    ∃ number, number % slots = position % slots ∧ position < number ∧ number < written
      ∧ written ≤ number + slots := by
  -- As many rounds on as fit.
  have rounds := Nat.div_add_mod (written - 1 - position) slots
  have rest := Nat.mod_lt (written - 1 - position) sized
  exact ⟨position + slots * ((written - 1 - position) / slots), Nat.add_mul_mod_self_left ..,
    by omega, by omega, by omega⟩

/-- A receiver finds in the ring what the bus has for it: the slot of the next number holds the
event of that number, or a later one if the receiver was overtaken, or an earlier one or none if
there is nothing to read. -/
theorem Holds.receive {ring : Ring} {sent : List Event} (holds : ring.Holds sent)
    {receiver : Receiver} (within : receiver.position ≤ sent.length) (closed : Bool) :
    ring.receive closed receiver
      = ({ slots := ring.slots, published := sent } : Bus).receive closed receiver := by
  have sized := holds.sized
  have found {number : Nat} (inside : number < sent.length)
      (near : sent.length ≤ number + ring.slots) :
      ring.cells[number % ring.slots]? = some (some (number, sent[number])) :=
    holds.kept (List.getElem?_eq_getElem inside) near
  unfold Ring.receive Bus.receive Bus.backlog
  dsimp only
  by_cases overtaken : ring.slots < sent.length - receiver.position
  · obtain ⟨number, same, later, inside, near⟩ :=
      exists_latest sized (show receiver.position + ring.slots < sent.length by omega)
    rw [← same, found inside near, Option.join_some, if_pos overtaken]
    dsimp only
    rw [if_neg (by omega), if_pos later, holds.written, Nat.sub_right_comm]
  · rw [if_neg overtaken]
    by_cases unread : receiver.position < sent.length
    · rw [found unread (by omega), List.getElem?_eq_getElem unread, Option.join_some]
      exact if_pos rfl
    · rw [List.getElem?_eq_none (Nat.not_lt.mp unread)]
      by_cases full : ring.slots ≤ sent.length
      · have cell := @found (receiver.position - ring.slots) (by omega) (by omega)
        rw [← Nat.mod_eq_sub_mod (by omega)] at cell
        rw [cell, Option.join_some]
        dsimp only
        rw [if_neg (by omega), if_neg (by omega)]
      · rw [Nat.mod_eq_of_lt (by omega), holds.blank (by omega) (by omega)]
        rfl

end Ring

/-! ## Readers of two histories -/

/-- A receiver of a bus and one of a ring have the same events before them, although more may
have been published on the bus before the receivers came. -/
structure Aligned (published sent : List Event) (reader cursor : Receiver) : Prop where
  unread : published.drop reader.position = sent.drop cursor.position
  reader : reader.position ≤ published.length
  cursor : cursor.position ≤ sent.length

namespace Aligned

variable {published sent : List Event} {reader cursor : Receiver}

theorem backlog (aligned : Aligned published sent reader cursor) :
    published.length - reader.position = sent.length - cursor.position := by
  have lengths := congrArg List.length aligned.unread
  rwa [List.length_drop, List.length_drop] at lengths

/-- Both go on by the same number of events. -/
theorem skip (aligned : Aligned published sent reader cursor) (count : Nat)
    (within : count ≤ sent.length - cursor.position) :
    Aligned published sent ⟨reader.position + count⟩ ⟨cursor.position + count⟩ := by
  have backlog := aligned.backlog
  have reader := aligned.reader
  have cursor := aligned.cursor
  constructor
  case unread =>
    show published.drop (_ + count) = sent.drop (_ + count)
    rw [← List.drop_drop, aligned.unread, List.drop_drop]
  case reader =>
    show _ + count ≤ published.length
    omega
  case cursor =>
    show _ + count ≤ sent.length
    omega

theorem publish (aligned : Aligned published sent reader cursor) (event : Event) :
    Aligned (published ++ [event]) (sent ++ [event]) reader cursor := by
  constructor
  case unread =>
    rw [List.drop_append_of_le_length aligned.reader,
      List.drop_append_of_le_length aligned.cursor, aligned.unread]
  case reader =>
    rw [List.length_append]
    exact Nat.le_add_right_of_le aligned.reader
  case cursor =>
    rw [List.length_append]
    exact Nat.le_add_right_of_le aligned.cursor

/-- Both obtain the same. -/
theorem receive (aligned : Aligned published sent reader cursor) (slots : Nat) (closed : Bool) :
    (Bus.receive { slots, published } closed reader).1
        = (Bus.receive { slots, published := sent } closed cursor).1
      ∧ Aligned published sent (Bus.receive { slots, published } closed reader).2
        (Bus.receive { slots, published := sent } closed cursor).2 := by
  have backlog := aligned.backlog
  have within := aligned.reader
  have inside := aligned.cursor
  unfold Bus.receive Bus.backlog
  dsimp only
  rw [backlog]
  by_cases overtaken : slots < sent.length - cursor.position
  · rw [if_pos overtaken, if_pos overtaken]
    have skipped := aligned.skip (sent.length - cursor.position - slots) (by omega)
    rw [show reader.position + (sent.length - cursor.position - slots)
        = published.length - slots by omega,
      show cursor.position + (sent.length - cursor.position - slots)
        = sent.length - slots by omega] at skipped
    exact ⟨rfl, skipped⟩
  · rw [if_neg overtaken, if_neg overtaken]
    have next : published[reader.position]? = sent[cursor.position]? := by
      have heads := congrArg (fun unread : List Event => unread[0]?) aligned.unread
      rwa [List.getElem?_drop, List.getElem?_drop] at heads
    rw [next]
    cases found : sent[cursor.position]? with
    | none => exact ⟨rfl, aligned⟩
    | some event =>
        have unread := (List.getElem?_eq_some_iff.mp found).1
        exact ⟨rfl, aligned.skip 1 (by omega)⟩

/-- What a receiver of a ring finds is what the one of the bus obtains. -/
theorem receive_ring (aligned : Aligned published sent reader cursor) {ring : Ring}
    (holds : ring.Holds sent) (closed : Bool) :
    (Bus.receive { slots := ring.slots, published } closed reader).1
        = (ring.receive closed cursor).1
      ∧ Aligned published sent (Bus.receive { slots := ring.slots, published } closed reader).2
        (ring.receive closed cursor).2 := by
  rw [holds.receive aligned.cursor]
  exact aligned.receive ring.slots closed

theorem drainWithin (aligned : Aligned published sent reader cursor) {ring : Ring}
    (holds : ring.Holds sent) (closed : Bool) (reads : Nat) :
    (Bus.drainWithin { slots := ring.slots, published } closed reads reader).1
        = (ring.drainWithin closed reads cursor).1
      ∧ Aligned published sent
        (Bus.drainWithin { slots := ring.slots, published } closed reads reader).2
        (ring.drainWithin closed reads cursor).2 := by
  induction reads generalizing reader cursor with
  | zero => exact ⟨rfl, aligned⟩
  | succ reads inductionHypothesis =>
      have once := aligned.receive_ring holds closed
      unfold Bus.drainWithin Ring.drainWithin
      generalize Bus.receive { slots := ring.slots, published } closed reader = obtained at once
      generalize ring.receive closed cursor = found at once
      obtain ⟨receipt, reader⟩ := obtained
      obtain ⟨other, cursor⟩ := found
      obtain ⟨same, aligned⟩ := once
      dsimp only at same aligned
      subst same
      have rest := inductionHypothesis aligned
      cases receipt with
      | empty => exact ⟨rfl, aligned⟩
      | closed => exact ⟨rfl, aligned⟩
      | event event => exact ⟨congrArg (Receipt.event event :: ·) rest.1, rest.2⟩
      | lagged missed => exact ⟨congrArg (Receipt.lagged missed :: ·) rest.1, rest.2⟩

theorem drain (aligned : Aligned published sent reader cursor) {ring : Ring}
    (holds : ring.Holds sent) (closed : Bool) :
    (Bus.drain { slots := ring.slots, published } closed reader).1
        = (ring.drain closed cursor).1
      ∧ Aligned published sent (Bus.drain { slots := ring.slots, published } closed reader).2
        (ring.drain closed cursor).2 := by
  unfold Bus.drain Ring.drain Bus.backlog
  dsimp only
  rw [aligned.backlog, holds.written]
  exact aligned.drainWithin holds closed _

end Aligned

/-! ## Two exchanges -/

/-- An exchange whose events are written to a ring. -/
structure RingExchange where
  ring : Ring
  senders : List Bool := [true]
  receivers : List (Option Receiver) := []

namespace RingExchange

/-- An exchange on a ring of at least `capacity` slots, and at least one, rounded up to a power
of two. -/
def ofCapacity (capacity : Nat) : RingExchange :=
  { ring := .blank (Bus.roundUp (max capacity 1)) }

def closed (exchange : RingExchange) : Bool :=
  exchange.senders.all (! ·)

def receiver? (exchange : RingExchange) (number : Nat) : Option Receiver :=
  exchange.receivers[number]?.join

/-- Somebody is there to receive what is sent. -/
def isAttended (exchange : RingExchange) : Bool :=
  exchange.receivers.any Option.isSome

/-- Send an event; it is lost if nobody is there to receive it. -/
def send (exchange : RingExchange) (event : Event) : RingExchange :=
  if exchange.isAttended then { exchange with ring := exchange.ring.send event } else exchange

/-- Serve one request. -/
def serve (exchange : RingExchange) : Exchange.Request → Exchange.Reply × RingExchange
  | .publish event times => (.done, (List.replicate times event).foldl send exchange)
  | .subscribe =>
      (.number exchange.receivers.length,
        { exchange with receivers := exchange.receivers ++ [some ⟨exchange.ring.written⟩] })
  | .receive number =>
      match exchange.receiver? number with
      | none => (.done, exchange)
      | some receiver =>
          let (receipt, receiver) := exchange.ring.receive exchange.closed receiver
          (.receipt receipt,
            { exchange with receivers := exchange.receivers.set number (some receiver) })
  | .drain number =>
      match exchange.receiver? number with
      | none => (.done, exchange)
      | some receiver =>
          let (receipts, receiver) := exchange.ring.drain exchange.closed receiver
          (.receipts (Receipt.listing receipts),
            { exchange with receivers := exchange.receivers.set number (some receiver) })
  | .clone =>
      (.number exchange.senders.length, { exchange with senders := exchange.senders ++ [true] })
  | .dropSender number =>
      (.done, { exchange with senders := exchange.senders.set number false })
  | .dropReceiver number =>
      (.done, { exchange with receivers := exchange.receivers.set number none })

/-- The replies to requests in order. -/
def replies : RingExchange → List Exchange.Request → List Exchange.Reply
  | _, [] => []
  | exchange, request :: later =>
      (exchange.serve request).1 :: replies (exchange.serve request).2 later

end RingExchange

/-! ## Side by side -/

/-- The ring of an exchange holds what was sent, and every receiver has the same events before
it as on the bus. -/
structure Mirrors (sent : List Event) (exchange : Exchange) (ringed : RingExchange) : Prop where
  holds : ringed.ring.Holds sent
  slots : exchange.bus.slots = ringed.ring.slots
  senders : exchange.senders = ringed.senders
  count : exchange.receivers.length = ringed.receivers.length
  receivers : ∀ number, Option.Rel (Aligned exchange.bus.published sent)
    (exchange.receiver? number) (ringed.receiver? number)

namespace Mirrors

variable {sent : List Event} {exchange : Exchange} {ringed : RingExchange}

theorem closed (mirrors : Mirrors sent exchange ringed) :
    exchange.closed = ringed.closed := by
  unfold Exchange.closed RingExchange.closed
  rw [mirrors.senders]

/-- A receiver is replaced, or goes, on both sides. -/
theorem replace (mirrors : Mirrors sent exchange ringed) (number : Nat)
    {reader cursor : Option Receiver}
    (aligned : Option.Rel (Aligned exchange.bus.published sent) reader cursor) :
    Mirrors sent { exchange with receivers := exchange.receivers.set number reader }
      { ringed with receivers := ringed.receivers.set number cursor } := by
  constructor
  case holds => exact mirrors.holds
  case slots => exact mirrors.slots
  case senders => exact mirrors.senders
  case count =>
    show (exchange.receivers.set _ _).length = (ringed.receivers.set _ _).length
    rw [List.length_set, List.length_set]
    exact mirrors.count
  case receivers =>
    intro other
    show Option.Rel _ (exchange.receivers.set number reader)[other]?.join
      (ringed.receivers.set number cursor)[other]?.join
    rw [join_set, join_set, mirrors.count]
    by_cases own : number = other ∧ other < ringed.receivers.length
    · rw [if_pos own, if_pos own]
      exact aligned
    · rw [if_neg own, if_neg own]
      exact mirrors.receivers other

theorem subscribe (mirrors : Mirrors sent exchange ringed) :
    Mirrors sent
      { exchange with receivers := exchange.receivers ++ [some exchange.bus.subscribe] }
      { ringed with receivers := ringed.receivers ++ [some ⟨ringed.ring.written⟩] } := by
  constructor
  case holds => exact mirrors.holds
  case slots => exact mirrors.slots
  case senders => exact mirrors.senders
  case count =>
    show (exchange.receivers ++ [_]).length = (ringed.receivers ++ [_]).length
    rw [List.length_append, List.length_append, mirrors.count]
    rfl
  case receivers =>
    intro other
    show Option.Rel _ (exchange.receivers ++ [_])[other]?.join
      (ringed.receivers ++ [_])[other]?.join
    rw [join_concat, join_concat, mirrors.count]
    by_cases newest : other = ringed.receivers.length
    · rw [if_pos newest, if_pos newest, mirrors.holds.written]
      apply Option.Rel.some
      constructor
      case unread =>
        show exchange.bus.published.drop exchange.bus.published.length = sent.drop sent.length
        rw [List.drop_length, List.drop_length]
      case reader => exact Nat.le_refl _
      case cursor => exact Nat.le_refl _
    · rw [if_neg newest, if_neg newest]
      exact mirrors.receivers other

theorem receiver?_of_unattended (unattended : ¬ringed.isAttended = true) (number : Nat) :
    ringed.receiver? number = none := by
  unfold RingExchange.receiver?
  cases found : ringed.receivers[number]? with
  | none => rfl
  | some member =>
      cases member with
      | none => rfl
      | some cursor =>
          have present : ringed.isAttended = true :=
            List.any_eq_true.mpr ⟨some cursor, List.mem_of_getElem? found, rfl⟩
          exact absurd present unattended

/-- Without anybody to receive it, it does not matter that an event is lost. -/
theorem publish (mirrors : Mirrors sent exchange ringed) (event : Event) :
    ∃ sent', Mirrors sent' { exchange with bus := exchange.bus.publish event }
      (ringed.send event) := by
  unfold RingExchange.send
  by_cases attended : ringed.isAttended
  · rw [if_pos attended]
    refine ⟨sent ++ [event], mirrors.holds.send event, ?_, mirrors.senders, mirrors.count, ?_⟩
    · exact mirrors.slots.trans (ringed.ring.slots_send event).symm
    · intro number
      have reader := mirrors.receivers number
      show Option.Rel _ (exchange.receiver? number) (ringed.receiver? number)
      generalize exchange.receiver? number = member at reader ⊢
      generalize ringed.receiver? number = other at reader ⊢
      cases reader with
      | none => exact .none
      | some aligned => exact .some (aligned.publish event)
  · rw [if_neg attended]
    refine ⟨sent, mirrors.holds, mirrors.slots, mirrors.senders, mirrors.count, ?_⟩
    intro number
    have nobody := receiver?_of_unattended attended number
    have reader := mirrors.receivers number
    show Option.Rel _ (exchange.receiver? number) (ringed.receiver? number)
    rw [nobody] at reader ⊢
    generalize exchange.receiver? number = member at reader ⊢
    cases reader with
    | none => exact .none

theorem publishAll (mirrors : Mirrors sent exchange ringed) (events : List Event) :
    ∃ sent', Mirrors sent' { exchange with bus := events.foldl Bus.publish exchange.bus }
      (events.foldl RingExchange.send ringed) := by
  induction events generalizing sent exchange ringed with
  | nil => exact ⟨sent, mirrors⟩
  | cons first rest inductionHypothesis =>
      obtain ⟨sent', published⟩ := mirrors.publish first
      exact inductionHypothesis published

theorem serve (mirrors : Mirrors sent exchange ringed) (request : Exchange.Request) :
    (exchange.serve request).1 = (ringed.serve request).1
      ∧ ∃ sent', Mirrors sent' (exchange.serve request).2 (ringed.serve request).2 := by
  have slots : exchange.bus = { slots := ringed.ring.slots, published := exchange.bus.published } :=
    mirrors.slots ▸ rfl
  cases request with
  | publish event times => exact ⟨rfl, mirrors.publishAll (List.replicate times event)⟩
  | subscribe => exact ⟨congrArg Exchange.Reply.number mirrors.count, sent, mirrors.subscribe⟩
  | receive number =>
      have reader := mirrors.receivers number
      unfold Exchange.serve RingExchange.serve
      dsimp only
      generalize exchange.receiver? number = member at reader
      generalize ringed.receiver? number = other at reader
      cases reader with
      | none => exact ⟨rfl, sent, mirrors⟩
      | some aligned =>
          obtain ⟨same, further⟩ := aligned.receive_ring mirrors.holds ringed.closed
          rw [← slots] at same further
          dsimp only
          rw [mirrors.closed]
          exact ⟨congrArg Exchange.Reply.receipt same, sent, mirrors.replace number (.some further)⟩
  | drain number =>
      have reader := mirrors.receivers number
      unfold Exchange.serve RingExchange.serve
      dsimp only
      generalize exchange.receiver? number = member at reader
      generalize ringed.receiver? number = other at reader
      cases reader with
      | none => exact ⟨rfl, sent, mirrors⟩
      | some aligned =>
          obtain ⟨same, further⟩ := aligned.drain mirrors.holds ringed.closed
          rw [← slots] at same further
          dsimp only
          rw [mirrors.closed]
          exact ⟨congrArg (Exchange.Reply.receipts ∘ Receipt.listing) same, sent,
            mirrors.replace number (.some further)⟩
  | clone =>
      refine ⟨congrArg (Exchange.Reply.number ∘ List.length) mirrors.senders, sent,
        mirrors.holds, mirrors.slots, ?_, mirrors.count, mirrors.receivers⟩
      exact congrArg (· ++ [true]) mirrors.senders
  | dropSender number =>
      refine ⟨rfl, sent, mirrors.holds, mirrors.slots, ?_, mirrors.count, mirrors.receivers⟩
      exact congrArg (List.set · number false) mirrors.senders
  | dropReceiver number => exact ⟨rfl, sent, mirrors.replace number .none⟩

end Mirrors

/-! ## The same replies -/

/-- A bus keeps as many events as the least power of two that is enough for what was asked for,
and for one. -/
theorem Bus.slots_ofCapacity (capacity : Nat) :
    ∃ exponent, (Bus.ofCapacity capacity).slots = Nat.pow 2 exponent
      ∧ max capacity 1 ≤ Nat.pow 2 exponent
      ∧ ∀ other, max capacity 1 ≤ Nat.pow 2 other → Nat.pow 2 exponent ≤ Nat.pow 2 other := by
  have power (least : Nat) : ∃ exponent, Bus.roundUp least = Nat.pow 2 exponent := by
    unfold Bus.roundUp
    split
    · exact ⟨0, rfl⟩
    · exact ⟨_, rfl⟩
  obtain ⟨exponent, same⟩ := power (max capacity 1)
  refine ⟨exponent, same, ?_, fun other enough => ?_⟩
  · exact same ▸ Bus.le_roundUp _
  · exact same ▸ Bus.roundUp_le enough

theorem mirrors_ofCapacity (capacity : Nat) :
    Mirrors [] { bus := Bus.ofCapacity capacity } (RingExchange.ofCapacity capacity) := by
  have sized : 0 < Bus.roundUp (max capacity 1) := by
    have enough := Bus.le_roundUp (max capacity 1)
    omega
  exact ⟨Ring.holds_blank sized, (List.length_replicate ..).symm, rfl, rfl, fun _ => .none⟩

/-- An exchange on a ring gives the same replies as one on a bus. -/
theorem RingExchange.replies_eq {sent : List Event} {exchange : Exchange} {ringed : RingExchange}
    (mirrors : Mirrors sent exchange ringed) (requests : List Exchange.Request) :
    ringed.replies requests = (exchange.serveAll requests).1 := by
  induction requests generalizing sent exchange ringed with
  | nil => rfl
  | cons request later inductionHypothesis =>
      obtain ⟨same, sent', further⟩ := mirrors.serve request
      rw [replies, Exchange.serveAll_cons_fst, same, inductionHypothesis further]

end BoundedScene
