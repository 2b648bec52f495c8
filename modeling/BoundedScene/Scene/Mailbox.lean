/-!
Contract: the bounded mailbox between the callers and the backend.

Owns:
- `Mailbox`, the envelopes queued, the slots granted and the callers waiting;
- entering, leaving, taking and closing.

A slot is free, granted to a caller that is about to enter, or holds an
envelope.  A slot that becomes free goes to the caller that waits longest, so
callers wait only while no slot is free.

Does not own: what an envelope holds, and how a caller learns of its slot.
-/

namespace BoundedScene

/-- A first-in, first-out mailbox.  Callers are known by number. -/
structure Mailbox (E : Type) where
  capacity : Nat
  queued : List E := []
  granted : List Nat := []
  waiting : List Nat := []
  closed : Bool := false
deriving Repr

namespace Mailbox

variable {E : Type}

/-- No mailbox has more slots asked for than this. -/
def largestCapacity : Nat := Nat.pow 2 61 - 1

/-- Slots that neither hold an envelope nor are granted. -/
def free (mailbox : Mailbox E) : Nat :=
  mailbox.capacity - (mailbox.queued.length + mailbox.granted.length)

/-- Whether a caller can enter at once: it was granted a slot or one is free. -/
def admits (mailbox : Mailbox E) (caller : Nat) : Bool :=
  decide (caller ∈ mailbox.granted) || decide (0 < mailbox.free)

/-- Put an envelope into the slot of its caller. -/
def enter (mailbox : Mailbox E) (caller : Nat) (envelope : E) : Mailbox E :=
  { mailbox with
    queued := mailbox.queued ++ [envelope]
    granted := mailbox.granted.erase caller }

/-- Wait for a slot, at the end of the line. -/
def await (mailbox : Mailbox E) (caller : Nat) : Mailbox E :=
  if caller ∈ mailbox.waiting then mailbox
  else { mailbox with waiting := mailbox.waiting ++ [caller] }

/-- Grant a free slot to the caller that waits longest.  Also gives that caller. -/
def grant (mailbox : Mailbox E) : Mailbox E × Option Nat :=
  match mailbox.waiting with
  | [] => (mailbox, none)
  | next :: later =>
      if 0 < mailbox.free then
        ({ mailbox with waiting := later, granted := mailbox.granted ++ [next] }, some next)
      else (mailbox, none)

/-- Take the oldest envelope and grant its slot. -/
def take? (mailbox : Mailbox E) : Option (E × Mailbox E × Option Nat) :=
  match mailbox.queued with
  | [] => none
  | envelope :: later => some (envelope, { mailbox with queued := later }.grant)

/-- A caller no longer wants to enter; a slot granted to it is granted anew. -/
def leave (mailbox : Mailbox E) (caller : Nat) : Mailbox E × Option Nat :=
  { mailbox with
    granted := mailbox.granted.erase caller
    waiting := mailbox.waiting.erase caller }.grant

/-- Let nobody enter any more.  Also gives the callers that waited. -/
def close (mailbox : Mailbox E) : Mailbox E × List Nat :=
  ({ mailbox with granted := [], waiting := [], closed := true }, mailbox.waiting)

end Mailbox

end BoundedScene
