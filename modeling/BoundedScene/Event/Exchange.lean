import BoundedScene.Event.Listing

/-!
Contract: one bus with its sending handles and its receivers.

Owns:
- `Exchange`, in which handles and receivers are known by the order of their
  creation;
- the requests to it and their replies.

The bus is closed once every sending handle has been dropped.

Does not own: the reading rules of a receiver.
-/

namespace BoundedScene

/-- A bus, which of its sending handles are held, and its receivers. -/
structure Exchange where
  bus : Bus
  senders : List Bool := [true]
  receivers : List (Option Receiver) := []
deriving DecidableEq, Repr

namespace Exchange

inductive Request where
  | publish (event : Event) (times : Nat)
  | subscribe
  | receive (receiver : Nat)
  | drain (receiver : Nat)
  | clone
  | dropSender (sender : Nat)
  | dropReceiver (receiver : Nat)
deriving DecidableEq, Repr

inductive Reply where
  | done
  /-- The number of a new handle or receiver. -/
  | number (number : Nat)
  | receipt (receipt : Receipt)
  | receipts (receipts : List Receipt)
deriving DecidableEq, Repr

def create? (capacity : Nat) : Option Exchange :=
  (Bus.create? capacity).map fun bus => { bus }

def closed (exchange : Exchange) : Bool :=
  exchange.senders.all (! ·)

/-- A receiver that has not been dropped. -/
def receiver? (exchange : Exchange) (number : Nat) : Option Receiver :=
  exchange.receivers[number]?.join

/-- Serve one request.  One that names a dropped receiver does nothing. -/
def serve (exchange : Exchange) : Request → Reply × Exchange
  | .publish event times =>
      let bus := (List.replicate times event).foldl Bus.publish exchange.bus
      (.done, { exchange with bus })
  | .subscribe =>
      (.number exchange.receivers.length,
        { exchange with receivers := exchange.receivers ++ [some exchange.bus.subscribe] })
  | .receive number =>
      match exchange.receiver? number with
      | none => (.done, exchange)
      | some receiver =>
          let (receipt, receiver) := exchange.bus.receive exchange.closed receiver
          (.receipt receipt,
            { exchange with receivers := exchange.receivers.set number (some receiver) })
  | .drain number =>
      match exchange.receiver? number with
      | none => (.done, exchange)
      | some receiver =>
          let (receipts, receiver) := exchange.bus.drain exchange.closed receiver
          (.receipts (Receipt.listing receipts),
            { exchange with receivers := exchange.receivers.set number (some receiver) })
  | .clone =>
      (.number exchange.senders.length, { exchange with senders := exchange.senders ++ [true] })
  | .dropSender number =>
      (.done, { exchange with senders := exchange.senders.set number false })
  | .dropReceiver number =>
      (.done, { exchange with receivers := exchange.receivers.set number none })

/-- Serve requests in order and collect the replies. -/
def serveAll : Exchange → List Request → List Reply × Exchange
  | exchange, [] => ([], exchange)
  | exchange, request :: later =>
      let (reply, exchange) := exchange.serve request
      let rest := serveAll exchange later
      (reply :: rest.1, rest.2)

end Exchange

end BoundedScene
