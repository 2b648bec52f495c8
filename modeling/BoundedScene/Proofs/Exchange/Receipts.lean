import BoundedScene.Proofs.Exchange.Ring
import Mathlib.Data.List.Infix

/-!
Contract: what one receiver of a bus sees over a whole history.

Owns:
- `Exchange.publishedTo`, what is published while a receiver is there;
- `Exchange.AllDropped`, the histories after which no handle of the bus is held, and
  `Exchange.Marked`, the marks that tell so;
- `Exchange.Alike`, what two exchanges have in common that one receiver cannot tell apart;
- `Exchange.SeenBy`, what holds of one receiver at one time.

Main statement: `Exchange.receivers_account_for_everything`.

Does not own: the readers inside a scene, which keep their own positions.
-/

namespace BoundedScene

namespace Exchange

variable {exchange : Exchange} {number : Nat}

/-! ## The accounts of a receiver -/

/-- The events that are published until a receiver is dropped. -/
def publishedTo (number : Nat) (requests : List Request) : List Event :=
  (requests.takeWhile (· != .dropReceiver number)).flatMap Request.events

theorem publishedTo_dropped (number : Nat) (later : List Request) :
    publishedTo number (.dropReceiver number :: later) = [] := by
  rw [publishedTo, List.takeWhile_cons_of_neg (by simp)]
  rfl

theorem publishedTo_cons {request : Request} (stays : request ≠ .dropReceiver number)
    (later : List Request) :
    publishedTo number (request :: later) = request.events ++ publishedTo number later := by
  have goesOn : (request != .dropReceiver number) = true := bne_iff_ne.mpr stays
  unfold publishedTo
  rw [List.takeWhile_cons, if_pos goesOn, List.flatMap_cons]

/-- A receiver that is not there, and will not be, obtains nothing. -/
theorem heard_absent (absent : exchange.receiver? number = none)
    (requests : List Request) (never : number < exchange.receivers.length
      ∨ exchange.receivers.length + requests.count .subscribe ≤ number) :
    exchange.heard number requests = [] ∧ (exchange.after requests).receiver? number = none := by
  induction requests generalizing exchange with
  | nil => exact ⟨rfl, absent⟩
  | cons request later inductionHypothesis =>
      have count := exchange.length_receivers_serve request
      have parted : (request :: later).count .subscribe
          = [request].count .subscribe + later.count .subscribe := by
        rw [← List.singleton_append, List.count_append]
      have still : (exchange.serve request).2.receiver? number = none := by
        apply receiver?_serve_absent absent
        rintro rfl
        rw [List.count_singleton_self] at parted
        omega
      rw [heard, after_cons, obtained_absent absent]
      exact inductionHypothesis still (by omega)

/-- A receiver that is dropped obtains nothing any more. -/
theorem heard_dropped (inside : number < exchange.receivers.length) (later : List Request) :
    exchange.heard number (.dropReceiver number :: later) = []
      ∧ (exchange.after (.dropReceiver number :: later)).receiver? number = none := by
  have gone : (exchange.serve (.dropReceiver number)).2.receiver? number = none :=
    receiver?_put_none
  obtain ⟨silent, absent⟩ := heard_absent gone later (.inl (by
    rw [length_receivers_serve]
    omega))
  refine ⟨?_, absent⟩
  rw [heard, silent, List.append_nil, obtained]
  split
  · rfl
  · cases exchange.receiver? number <;> rfl

/-- What a receiver obtains accounts for what is published to it and what it had not read. -/
theorem heard_accounts {receiver : Receiver}
    (present : exchange.receiver? number = some receiver)
    (within : receiver.position ≤ exchange.bus.published.length) (requests : List Request) :
    ∃ told unread,
      exchange.bus.unread receiver ++ publishedTo number requests = told ++ unread
        ∧ Receipt.Accounts told (exchange.heard number requests)
        ∧ (exchange.after requests).unread? number
          = if .dropReceiver number ∈ requests then none else some unread := by
  induction requests generalizing exchange receiver with
  | nil =>
      refine ⟨[], exchange.bus.unread receiver, List.append_nil _, .none, ?_⟩
      rw [if_neg List.not_mem_nil]
      exact congrArg (Option.map _) present
  | cons request later inductionHypothesis =>
      by_cases dropped : request = .dropReceiver number
      · subst dropped
        obtain ⟨silent, absent⟩ := heard_dropped (lt_of_receiver? present) later
        refine ⟨[], exchange.bus.unread receiver, ?_, ?_, ?_⟩
        · rw [publishedTo_dropped]
          exact List.append_nil _
        · rw [silent]
          exact .none
        · rw [unread?, absent, if_pos List.mem_cons_self]
          rfl
      · obtain ⟨next, first, reader, inside, parted, counted⟩ :=
          serve_accounts present within dropped
        obtain ⟨told, unread, rest, accounts, left⟩ := inductionHypothesis reader inside
        refine ⟨first ++ told, unread, ?_, counted.append accounts, ?_⟩
        · rw [publishedTo_cons dropped, ← List.append_assoc, parted, List.append_assoc, rest,
            List.append_assoc]
        · rw [after_cons, left]
          have same : Request.dropReceiver number ∈ request :: later
              ↔ Request.dropReceiver number ∈ later := by
            rw [List.mem_cons]
            exact or_iff_right (Ne.symm dropped)
          simp only [same]

/-! ## Receivers that keep up -/

theorem slots_serve (exchange : Exchange) (request : Request) :
    (exchange.serve request).2.bus.slots = exchange.bus.slots := by
  rw [bus_serve]

theorem slots_after (exchange : Exchange) (requests : List Request) :
    (exchange.after requests).bus.slots = exchange.bus.slots := by
  induction requests generalizing exchange with
  | nil => rfl
  | cons request later inductionHypothesis =>
      rw [after_cons, inductionHypothesis, slots_serve]

/-- A receiver for which everything is kept is not told about a gap. -/
theorem obtained_gapless
    (near : ∀ unread, exchange.unread? number = some unread → unread.length ≤ exchange.bus.slots)
    (request : Request) (missed : Nat) : .lagged missed ∉ exchange.obtained number request := by
  unfold obtained
  by_cases elsewhere : request.isElsewhere number
  · rw [if_pos elsewhere]
    exact List.not_mem_nil
  · rw [if_neg elsewhere]
    cases present : exchange.receiver? number with
    | none => exact List.not_mem_nil
    | some receiver =>
        have kept : (exchange.bus.unread receiver).length ≤ exchange.bus.slots :=
          near _ (congrArg (Option.map _) present)
        cases request with
        | receive other =>
            intro member
            have finds := exchange.bus.receive_finds exchange.closed receiver
            exact (finds.gapless kept).1 missed (List.mem_singleton.mp member).symm
        | drain other =>
            show .lagged missed ∉ (exchange.bus.drain exchange.closed receiver).1
            exact Bus.drainWithin_gapless _ _ kept missed
        | dropReceiver other => exact List.not_mem_nil
        | publish event times => exact List.not_mem_nil
        | subscribe => exact List.not_mem_nil
        | clone => exact List.not_mem_nil
        | dropSender other => exact List.not_mem_nil

theorem heard_gapless {requests : List Request}
    (near : ∀ done, done <+: requests → ∀ unread,
      (exchange.after done).unread? number = some unread → unread.length ≤ exchange.bus.slots)
    (missed : Nat) : .lagged missed ∉ exchange.heard number requests := by
  induction requests generalizing exchange with
  | nil => exact List.not_mem_nil
  | cons request later inductionHypothesis =>
      have now := obtained_gapless (near [] List.nil_prefix) request missed
      have further := @inductionHypothesis (exchange.serve request).2 (by
        intro done before unread found
        rw [slots_serve]
        exact near (request :: done) (List.cons_prefix_cons.mpr ⟨rfl, before⟩) unread found)
      rw [heard, List.mem_append]
      exact not_or.mpr ⟨now, further⟩

/-! ## The handles -/

/-- What a request does to the handles. -/
def Request.handles : Request → List Bool → List Bool
  | .clone, senders => senders ++ [true]
  | .dropSender handle, senders => senders.set handle false
  | _, senders => senders

theorem senders_serve (exchange : Exchange) (request : Request) :
    (exchange.serve request).2.senders = request.handles exchange.senders := by
  cases request with
  | receive other => exact (exchange.moves_receive other).senders
  | drain other => exact (exchange.moves_drain other).senders
  | dropReceiver other => rfl
  | publish event times => rfl
  | subscribe => rfl
  | clone => rfl
  | dropSender other => rfl

/-- A handle was dropped after it was made. -/
def DropsHandle (requests : List Request) (handle : Nat) : Prop :=
  ∃ place, requests[place]? = some (.dropSender handle)
    ∧ handle ≤ (requests.take place).count .clone

/-- Every handle was dropped: the first one, and one for each clone. -/
def AllDropped (requests : List Request) : Prop :=
  ∀ handle, handle ≤ requests.count .clone → DropsHandle requests handle

theorem dropsHandle_concat (requests : List Request) (request : Request) (handle : Nat) :
    DropsHandle (requests ++ [request]) handle
      ↔ DropsHandle requests handle
        ∨ (request = .dropSender handle ∧ handle ≤ requests.count .clone) := by
  constructor
  · rintro ⟨place, found, made⟩
    have inside := (List.getElem?_eq_some_iff.mp found).1
    rw [List.length_append, List.length_singleton] at inside
    by_cases earlier : place < requests.length
    · rw [List.getElem?_append_left earlier] at found
      rw [List.take_append_of_le_length earlier.le] at made
      exact .inl ⟨place, found, made⟩
    · have last : place = requests.length := by omega
      subst last
      rw [List.getElem?_concat_length] at found
      rw [List.take_left] at made
      exact .inr ⟨Option.some.inj found, made⟩
  · rintro (⟨place, found, made⟩ | ⟨rfl, made⟩)
    · have inside := (List.getElem?_eq_some_iff.mp found).1
      refine ⟨place, ?_, ?_⟩
      · rwa [List.getElem?_append_left inside]
      · rwa [List.take_append_of_le_length (Nat.le_of_lt inside)]
    · refine ⟨requests.length, List.getElem?_concat_length, ?_⟩
      rwa [List.take_left]

/-- There is a mark for the first handle and one for each clone, and it tells whether the handle
is held. -/
structure Marked (requests : List Request) (senders : List Bool) : Prop where
  length : senders.length = requests.count .clone + 1
  dropped : ∀ handle, senders[handle]? = some false ↔ DropsHandle requests handle

namespace Marked

variable {requests : List Request} {senders : List Bool}

theorem first : Marked [] [true] := by
  refine ⟨rfl, fun handle => ?_⟩
  constructor
  · intro dropped
    cases handle <;> cases dropped
  · rintro ⟨place, found, -⟩
    cases found

theorem concat_other (marked : Marked requests senders) {request : Request}
    (clones : [request].count .clone = 0) (stays : ∀ handle, request ≠ .dropSender handle) :
    Marked (requests ++ [request]) senders := by
  constructor
  case length => rw [List.count_append, clones, marked.length]
  case dropped =>
    intro handle
    rw [marked.dropped, dropsHandle_concat]
    exact (or_iff_left fun drop => stays handle drop.1).symm

theorem concat_clone (marked : Marked requests senders) :
    Marked (requests ++ [.clone]) (senders ++ [true]) := by
  constructor
  case length =>
    rw [List.length_append, List.count_append, marked.length, List.count_singleton_self]
    rfl
  case dropped =>
    intro handle
    rw [dropsHandle_concat, or_iff_left fun drop => (nomatch drop.1), ← marked.dropped]
    by_cases inside : handle < senders.length
    · rw [List.getElem?_append_left inside]
    · rw [List.getElem?_append_right (Nat.not_lt.mp inside),
        List.getElem?_eq_none (Nat.not_lt.mp inside)]
      cases handle - senders.length <;> simp

/-- The drop of a handle that is not made yet does nothing. -/
theorem concat_dropSender (marked : Marked requests senders) (handle : Nat) :
    Marked (requests ++ [.dropSender handle]) (senders.set handle false) := by
  have length := marked.length
  constructor
  case length =>
    rw [List.length_set, List.count_append, length]
    rfl
  case dropped =>
    intro other
    rw [dropsHandle_concat, ← marked.dropped, List.getElem?_set]
    by_cases same : handle = other
    · subst same
      by_cases made : handle < senders.length
      · rw [if_pos rfl, if_pos made]
        exact iff_of_true rfl (.inr ⟨rfl, by omega⟩)
      · rw [if_pos rfl, if_neg made, List.getElem?_eq_none (Nat.not_lt.mp made)]
        exact (or_iff_left fun drop => made (by omega)).symm
    · rw [if_neg same]
      exact (or_iff_left fun drop => same (Request.dropSender.inj drop.1)).symm

theorem concat (marked : Marked requests senders) (request : Request) :
    Marked (requests ++ [request]) (request.handles senders) := by
  cases request with
  | clone => exact marked.concat_clone
  | dropSender handle => exact marked.concat_dropSender handle
  | publish event times => exact marked.concat_other rfl nofun
  | subscribe => exact marked.concat_other rfl nofun
  | receive other => exact marked.concat_other rfl nofun
  | drain other => exact marked.concat_other rfl nofun
  | dropReceiver other => exact marked.concat_other rfl nofun

end Marked

theorem marked_after (single : exchange.senders = [true]) (requests : List Request) :
    Marked requests (exchange.after requests).senders := by
  induction requests using List.reverseRecOn with
  | nil =>
      show Marked [] exchange.senders
      rw [single]
      exact .first
  | append_singleton requests request inductionHypothesis =>
      have served : (exchange.after (requests ++ [request])).senders
          = request.handles (exchange.after requests).senders := by
        rw [after_append]
        exact senders_serve ..
      rw [served]
      exact inductionHypothesis.concat request

theorem closed_after (single : exchange.senders = [true]) (requests : List Request) :
    (exchange.after requests).closed = true ↔ AllDropped requests := by
  have marked := marked_after single requests
  have length := marked.length
  unfold closed AllDropped
  rw [List.all_eq_true]
  constructor
  · intro unheld handle made
    rw [← marked.dropped]
    have inside : handle < (exchange.after requests).senders.length := by omega
    have mark : (exchange.after requests).senders[handle] = false := by
      simpa using unheld _ (List.getElem_mem inside)
    rw [List.getElem?_eq_getElem inside, mark]
  · intro dropped held member
    obtain ⟨handle, found⟩ := List.mem_iff_getElem?.mp member
    have inside := (List.getElem?_eq_some_iff.mp found).1
    have mark := (marked.dropped handle).mpr (dropped handle (by omega))
    cases found.symm.trans mark
    rfl

/-! ## What others read -/

/-- One receiver cannot tell two exchanges apart. -/
structure Alike (number : Nat) (left right : Exchange) : Prop where
  bus : left.bus = right.bus
  senders : left.senders = right.senders
  length : left.receivers.length = right.receivers.length
  receiver : left.receiver? number = right.receiver? number

namespace Alike

variable {left right : Exchange}

theorem attend (alike : Alike number left right) (receiver : Receiver) (request : Request) :
    left.attend receiver request = right.attend receiver request := by
  have closed : left.closed = right.closed := congrArg (List.all · (! ·)) alike.senders
  unfold Exchange.attend
  rw [alike.bus, closed]

/-- What is asked of another receiver is not noticed. -/
theorem elsewhere (alike : Alike number left right) {request : Request}
    (elsewhere : request.isElsewhere number) : Alike number (left.serve request).2 right := by
  obtain ⟨other, apart, moves⟩ := left.moves_of_isElsewhere elsewhere
  exact ⟨moves.bus.trans alike.bus, moves.senders.trans alike.senders,
    moves.length.trans alike.length, (moves.receiver?_ne apart).trans alike.receiver⟩

theorem serve (alike : Alike number left right) {request : Request}
    (here : request.isElsewhere number = false) :
    Alike number (left.serve request).2 (right.serve request).2 := by
  constructor
  case bus => rw [bus_serve, bus_serve, alike.bus]
  case senders => rw [senders_serve, senders_serve, alike.senders]
  case length => rw [length_receivers_serve, length_receivers_serve, alike.length]
  case receiver =>
    rw [receiver?_serve here, receiver?_serve here, alike.receiver, alike.bus, alike.length]
    simp only [alike.attend]

theorem obtained (alike : Alike number left right) (request : Request) :
    left.obtained number request = right.obtained number request := by
  unfold Exchange.obtained
  rw [alike.receiver]
  simp only [alike.attend]

/-- A receiver obtains the same without the requests to others. -/
theorem heard (alike : Alike number left right) (requests : List Request) :
    left.heard number requests
      = right.heard number (requests.filter (!Request.isElsewhere number ·)) := by
  induction requests generalizing left right with
  | nil => rfl
  | cons request later inductionHypothesis =>
      rw [Exchange.heard]
      by_cases elsewhere : request.isElsewhere number
      · have unnoticed : left.obtained number request = [] := if_pos elsewhere
        rw [unnoticed, List.filter_cons_of_neg (by simp [elsewhere])]
        exact inductionHypothesis (alike.elsewhere elsewhere)
      · have here := Bool.eq_false_iff.mpr elsewhere
        rw [List.filter_cons_of_pos (by simp [here]), Exchange.heard, alike.obtained,
          inductionHypothesis (alike.serve here)]

end Alike

/-! ## The next read -/

/-- A receiver that hears of a gap goes on at the oldest event that is kept. -/
theorem resumes {receiver : Receiver} {missed : Nat}
    (present : exchange.receiver? number = some receiver) (sized : 0 < exchange.bus.slots)
    (told : exchange.obtained number (.receive number) = [.lagged missed]) :
    ∃ oldest later, exchange.bus.kept = oldest :: later
      ∧ (exchange.serve (.receive number)).2.unread? number = some (oldest :: later)
      ∧ (exchange.serve (.receive number)).2.obtained number (.receive number)
        = [.event oldest] := by
  have finds := exchange.bus.receive_finds exchange.closed receiver
  rw [obtained_receive present] at told
  rw [serve_receive present]
  generalize exchange.bus.receive exchange.closed receiver = received at finds told
  obtain ⟨receipt, next⟩ := received
  obtain ⟨left, full⟩ := finds.left (List.head_eq_of_cons_eq told)
  have again : (exchange.put number next).receiver? number = some next :=
    receiver?_put_self present _
  have anything : 0 < exchange.bus.kept.length := by rwa [full]
  obtain ⟨oldest, later, kept⟩ := List.exists_cons_of_length_pos anything
  rw [kept] at left
  refine ⟨oldest, later, kept, ?_, ?_⟩
  · rw [unread?, again]
    exact congrArg some left
  · rw [obtained_receive again]
    have near : (exchange.bus.unread next).length ≤ exchange.bus.slots := by
      rw [left, ← kept, full]
    exact congrArg (fun receipt => [receipt])
      ((exchange.bus.receive_finds exchange.closed next).first left near)

/-- A receiver sees the end once the bus is closed and nothing is unread. -/
theorem obtained_closed {receiver : Receiver}
    (present : exchange.receiver? number = some receiver) :
    exchange.obtained number (.receive number) = [.closed]
      ↔ exchange.closed = true ∧ exchange.unread? number = some [] := by
  have finds := exchange.bus.receive_finds exchange.closed receiver
  rw [obtained_receive present, List.cons_eq_cons, and_iff_left rfl, finds.closed_iff, unread?,
    present]
  exact and_congr_right' (Option.some_inj.symm)

/-! ## Main statement -/

/-- What holds of a receiver of a bus, told by its number, after a history that goes on with
`late` when the receiver is made. -/
structure SeenBy (capacity : Nat) (start : Exchange) (number : Nat)
    (history late : List Request) : Prop where
  /-- Each event published while the receiver is there was received, or is counted in one gap
  report, or is unread, in this order, and nothing else was received. -/
  accounts : ∃ told unread,
    publishedTo number late = told ++ unread
      ∧ Receipt.Accounts told (start.heard number history)
      ∧ (start.after history).unread? number
        = if .dropReceiver number ∈ late then none else some unread
  /-- The replies tell what was obtained. -/
  replies : (start.after history).unread? number ≠ none →
    (∃ receipt, (start.after history).obtained number (.receive number) = [receipt]
        ∧ ((start.after history).serve (.receive number)).1 = .receipt receipt)
      ∧ ((start.after history).serve (.drain number)).1
        = .receipts (Receipt.listing ((start.after history).obtained number (.drain number)))
  /-- A drain comes to single reads until nothing is unread. -/
  drains : (start.after history).unread? number ≠ none →
    ∃ count,
      (start.after history).heard number (List.replicate count (.receive number))
        = (start.after history).obtained number (.drain number)
          ++ (if (start.after history).closed then [] else [.empty])
        ∧ (start.after history).after (List.replicate count (.receive number))
          = ((start.after history).serve (.drain number)).2
        ∧ ((start.after history).serve (.drain number)).2.unread? number = some []
  /-- Who was never behind by more than the capacity was not told about a gap. -/
  near : (∀ done, done <+: history → ∀ unread,
      (start.after done).unread? number = some unread → unread.length ≤ max capacity 1) →
    ∀ missed, .lagged missed ∉ start.heard number history
  /-- After a gap comes the oldest event that is kept. -/
  resumes : ∀ missed,
    (start.after history).obtained number (.receive number) = [.lagged missed] →
      ∃ oldest later, (start.after history).bus.kept = oldest :: later
        ∧ ((start.after history).serve (.receive number)).2.unread? number
          = some (oldest :: later)
        ∧ ((start.after history).serve (.receive number)).2.obtained number (.receive number)
          = [.event oldest]
  /-- The end is seen once every handle was dropped and nothing is unread. -/
  closed : (start.after history).obtained number (.receive number) = [.closed]
    ↔ AllDropped history ∧ (start.after history).unread? number = some []
  /-- What is asked of other receivers makes no difference. -/
  independent : ∀ another : List Request,
    another.filter (!Request.isElsewhere number ·)
        = history.filter (!Request.isElsewhere number ·) →
      start.heard number another = start.heard number history

theorem length_receivers_after (exchange : Exchange) (requests : List Request) :
    (exchange.after requests).receivers.length
      = exchange.receivers.length + requests.count .subscribe := by
  induction requests generalizing exchange with
  | nil => rfl
  | cons request later inductionHypothesis =>
      have parted : (request :: later).count .subscribe
          = [request].count .subscribe + later.count .subscribe := by
        rw [← List.singleton_append, List.count_append]
      rw [after_cons, inductionHypothesis, length_receivers_serve, parted, Nat.add_assoc]

/-- The receiver that is made next has nothing unread, and has obtained nothing before. -/
theorem joins (fresh : exchange.receivers = []) (early : List Request) :
    (exchange.heard (early.count .subscribe) (early ++ [.subscribe])) = []
      ∧ (exchange.after (early ++ [.subscribe])).receiver? (early.count .subscribe)
        = some (exchange.after early).bus.subscribe
      ∧ (exchange.after (early ++ [.subscribe])).bus = (exchange.after early).bus := by
  have made : (exchange.after early).receivers.length = early.count .subscribe := by
    rw [length_receivers_after, fresh]
    exact Nat.zero_add _
  have none : exchange.receiver? (early.count .subscribe) = none :=
    receiver?_of_le (by rw [fresh]; exact Nat.zero_le _)
  obtain ⟨silent, absent⟩ := heard_absent none early (.inr (by
    rw [fresh]
    exact (Nat.zero_add _).le))
  rw [after_append, heard_append, silent]
  refine ⟨?_, ?_, rfl⟩
  · rw [heard, obtained_absent absent]
    rfl
  · exact (receiver?_serve rfl).trans (if_pos ⟨rfl, made.symm⟩)

theorem exists_receiver {unread : List Event} (found : exchange.unread? number = some unread) :
    ∃ receiver, exchange.receiver? number = some receiver := by
  obtain ⟨receiver, present, _⟩ := Option.map_eq_some_iff.mp found
  exact ⟨receiver, present⟩

/-- Whoever subscribes in the course of a history that starts without receivers. -/
theorem seenBy {capacity : Nat} {start : Exchange} (fresh : start.receivers = [])
    (single : start.senders = [true]) (room : max capacity 1 ≤ start.bus.slots)
    (early late : List Request) :
    SeenBy capacity start (early.count .subscribe) (early ++ .subscribe :: late) late := by
  have whole : early ++ .subscribe :: late = (early ++ [.subscribe]) ++ late := by
    rw [List.append_assoc]
    rfl
  constructor
  case accounts =>
    obtain ⟨silent, present, unmoved⟩ := joins fresh early
    obtain ⟨told, unread, parted, accounts, left⟩ :=
      heard_accounts present (by rw [unmoved]; exact Nat.le_refl _) late
    have nothing : (start.after (early ++ [.subscribe])).bus.unread
        (start.after early).bus.subscribe = [] := by
      rw [unmoved]
      exact List.drop_length
    rw [nothing, List.nil_append] at parted
    rw [whole, heard_append, silent, List.nil_append,
      start.after_append (early ++ [Request.subscribe])]
    exact ⟨told, unread, parted, accounts, left⟩
  case replies =>
    intro there
    obtain ⟨unread, found⟩ := Option.ne_none_iff_exists'.mp there
    obtain ⟨receiver, reader⟩ := exists_receiver found
    rw [serve_receive reader, serve_drain reader, obtained_drain reader]
    exact ⟨⟨_, obtained_receive reader, rfl⟩, rfl⟩
  case drains =>
    intro there
    obtain ⟨unread, found⟩ := Option.ne_none_iff_exists'.mp there
    obtain ⟨receiver, reader⟩ := exists_receiver found
    exact drain_receives reader
  case near =>
    intro near
    apply heard_gapless
    intro done before unread found
    have few := near done before unread found
    exact few.trans room
  case resumes =>
    intro missed told
    cases reader : (start.after (early ++ .subscribe :: late)).receiver?
        (early.count .subscribe) with
    | none =>
        rw [obtained_absent reader] at told
        cases told
    | some receiver =>
        have kept := start.slots_after (early ++ .subscribe :: late)
        exact Exchange.resumes reader (by omega) told
  case closed =>
    rw [← closed_after single]
    cases reader : (start.after (early ++ .subscribe :: late)).receiver?
        (early.count .subscribe) with
    | none => simp [obtained_absent reader, unread?, reader]
    | some receiver => exact obtained_closed reader
  case independent =>
    intro another same
    have alike : Alike (early.count .subscribe) start start := ⟨rfl, rfl, rfl, rfl⟩
    rw [alike.heard, same, ← alike.heard]

theorem create?_eq_some {capacity : Nat} {start : Exchange}
    (created : create? capacity = some start) : start = { bus := Bus.ofCapacity capacity } := by
  obtain ⟨bus, made, rfl⟩ := Option.map_eq_some_iff.mp created
  unfold Bus.create? at made
  split at made <;> cases made
  rfl

/-- For every history of a bus: a receiver made in its course is told about every event that is
published then, once and in order, and all see what they would see in a ring of slots, of which
there are as many as the least power of two that is enough. -/
theorem receivers_account_for_everything {capacity : Nat} {start : Exchange}
    (created : create? capacity = some start) (early late : List Request) :
    SeenBy capacity start (early.count .subscribe) (early ++ .subscribe :: late) late
      ∧ (RingExchange.ofCapacity capacity).replies (early ++ .subscribe :: late)
        = (start.serveAll (early ++ .subscribe :: late)).1
      ∧ ∃ exponent, start.bus.slots = Nat.pow 2 exponent
        ∧ max capacity 1 ≤ Nat.pow 2 exponent
        ∧ ∀ other, max capacity 1 ≤ Nat.pow 2 other → Nat.pow 2 exponent ≤ Nat.pow 2 other := by
  obtain rfl := create?_eq_some created
  obtain ⟨exponent, size, enough, least⟩ := Bus.slots_ofCapacity capacity
  have room : max capacity 1 ≤ (Bus.ofCapacity capacity).slots := by rwa [size]
  exact ⟨seenBy rfl rfl room early late, RingExchange.replies_eq (mirrors_ofCapacity capacity) _,
    exponent, size, enough, least⟩

/-- Requests in the course of which the first receiver is overtaken, and closes the bus. -/
def overtaking : List Request :=
  [.publish (.plain .sceneEnding) 2, .publish (.plain .sceneEnded) 4, .receive 0, .receive 0,
    .dropSender 0, .drain 0]

/-- On a bus that keeps four events a receiver is told that it missed two of six, and then it
obtains the others. -/
theorem overtaken_receiver_accounts :
    ∃ start, create? 3 = some start
      ∧ SeenBy 3 start 0 ([.publish (.plain .sceneStarted) 1] ++ .subscribe :: overtaking)
        overtaking
      ∧ start.heard 0 ([.publish (.plain .sceneStarted) 1] ++ .subscribe :: overtaking)
        = [.lagged 2, .event (.plain .sceneEnded), .event (.plain .sceneEnded),
          .event (.plain .sceneEnded), .event (.plain .sceneEnded), .closed] :=
  ⟨{ bus := Bus.ofCapacity 3 }, by decide,
    (receivers_account_for_everything (by decide) [.publish (.plain .sceneStarted) 1] _).1,
    by decide⟩

end Exchange

end BoundedScene
