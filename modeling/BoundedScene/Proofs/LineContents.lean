import BoundedScene.Event.LogLine
import BoundedScene.Proofs.Legibility

/-!
Contract: what can be read back from the line that a log shows for an event.

Owns:
- the heading of a line, which tells the kind of its event;
- `Event.AgreesOnShown`, agreement on everything that a line shows.

Main statement: `Event.lines_are_unambiguous`.

No heading begins another, and every field of a line is legible: quoted text and values that may be
absent end by themselves, and a number stands at the end of a line or before a blank.  The report
of a panic is the exception: its name and its message stand there as they are.

Does not own: whether a line stays on one line.
-/

namespace BoundedScene

open Text (Anything NoDigit Legible anything legible_optional legible_quoted legible_repr
  noDigit_cons noDigit_nil)

namespace EventKind

/-- The first word of the line of an event. -/
def heading : EventKind → String
  | .sceneStarted => "[scene-started]"
  | .timeoutHit => "[timeout]"
  | .abortRequested => "[abort]"
  | .sceneEnding => "[scene-ending]"
  | .sceneEnded => "[scene-ended]"
  | .propStored => "[stored]"
  | .propFetched => "[fetched]"
  | .propDisposed => "[disposed]"
  | .cleanupFailed => "[cleanup-failed]"
  | .commandRejected => "[rejected]"
  | .waiterRegistered => "[waiting]"
  | .signalDelivered => "[signal]"
  | .subscriberOverflow => "[subscriber-overflow]"
  | .subscriberPanicked => "[subscriber-panicked]"

theorem mem_all (kind : EventKind) : kind ∈ all := by
  cases kind <;> decide

theorem legible_heading : Legible heading Anything := by
  have free : ∀ first ∈ all, ∀ second ∈ all,
      first.heading.toList <+: second.heading.toList → first = second := by
    decide +kernel
  exact Text.legible_of_prefixFree mem_all free

end EventKind

namespace Event

/-! ## The kind of an event -/

theorem heading_logLine (event : Event) : event.kind.heading.toList <+: event.logLine.toList := by
  unfold logLine
  cases event.kind with
  | sceneEnding => exact List.prefix_refl _
  | _ =>
      simp only [String.toList_append, List.append_assoc]
      exact List.IsPrefix.trans (by decide) (List.prefix_append _ _)

theorem kind_of_logLine {first second : Event} (lines : first.logLine = second.logLine) :
    first.kind = second.kind := by
  obtain ⟨details, line⟩ := first.heading_logLine
  obtain ⟨others, otherLine⟩ := second.heading_logLine
  rw [lines, ← otherLine] at line
  exact (EventKind.legible_heading (anything _) (anything _) line).1

/-! ## What a line shows -/

/-- The events agree on every field that the line of the first one's kind shows.

Where the line falls back on a default, an absent key, topic or reason counts as that text and an
absent number as 0; where it shows whether the field is present, this counts as well. -/
def AgreesOnShown (first second : Event) : Prop :=
  match first.kind with
  | .sceneStarted =>
      first.inactivityMilliseconds = second.inactivityMilliseconds
        ∧ first.timeoutMilliseconds = second.timeoutMilliseconds
  | .timeoutHit =>
      first.reason.getD unknownText = second.reason.getD unknownText
        ∧ first.timeoutMilliseconds.getD 0 = second.timeoutMilliseconds.getD 0
  | .abortRequested => first.reason = second.reason
  | .sceneEnding => True
  | .sceneEnded =>
      first.count.getD 0 = second.count.getD 0 ∧ first.reason = second.reason
  | .propStored | .propFetched | .propDisposed =>
      first.key.getD unknownText = second.key.getD unknownText
  | .cleanupFailed =>
      first.key.getD unknownText = second.key.getD unknownText
        ∧ first.reason.getD unknownText = second.reason.getD unknownText
  | .commandRejected =>
      first.key = second.key ∧ first.topic = second.topic ∧ first.reason = second.reason
  | .waiterRegistered => first.topic.getD unknownText = second.topic.getD unknownText
  | .signalDelivered =>
      first.topic.getD unknownText = second.topic.getD unknownText
        ∧ first.count.getD 0 = second.count.getD 0
  | .subscriberOverflow =>
      first.subscriber = second.subscriber ∧ first.reason = second.reason
        ∧ first.count.getD 0 = second.count.getD 0
  | .subscriberPanicked =>
      first.subscriber.getD "unknown" = second.subscriber.getD "unknown"
        ∧ first.reason.getD "unknown" = second.reason.getD "unknown"

theorem agreesOnShown_of_logLine {first second : Event} (kinds : first.kind = second.kind)
    (told : first.kind ≠ .subscriberPanicked) (lines : first.logLine = second.logLine) :
    first.AgreesOnShown second := by
  have numbers : Legible (Text.optional Nat.repr) Anything :=
    legible_optional legible_repr (noDigit_cons (by decide))
  have texts : Legible (Text.optional Text.quoted) Anything :=
    legible_optional legible_quoted fun _ => anything _
  -- Quoted text and values that may be absent end by themselves.
  have freely (rest : List Char) : Anything rest := anything rest
  unfold logLine at lines
  unfold AgreesOnShown
  rw [← kinds] at lines
  generalize first.kind = kind at lines told
  cases kind with
  | sceneStarted =>
      have fields : (first.inactivityMilliseconds, first.timeoutMilliseconds)
          = (second.inactivityMilliseconds, second.timeoutMilliseconds) :=
        ((numbers.behind _).join _ freely numbers).injective (anything _) lines
      exact Prod.mk.inj fields
  | timeoutHit =>
      have fields : (first.reason.getD unknownText, first.timeoutMilliseconds.getD 0)
          = (second.reason.getD unknownText, second.timeoutMilliseconds.getD 0) :=
        ((legible_quoted.behind _).join _ freely legible_repr).injective noDigit_nil lines
      exact Prod.mk.inj fields
  | abortRequested => exact (texts.behind _).injective (anything _) lines
  | sceneEnding => trivial
  | sceneEnded =>
      have blank (rest : List Char) : NoDigit (" err=".toList ++ rest) :=
        noDigit_cons (by decide : ' '.isDigit = false) _
      have fields : (first.count.getD 0, first.reason) = (second.count.getD 0, second.reason) :=
        ((legible_repr.behind _).join _ blank texts).injective (anything _) lines
      exact Prod.mk.inj fields
  | propStored => exact (legible_quoted.behind _).injective (anything _) lines
  | propFetched => exact (legible_quoted.behind _).injective (anything _) lines
  | propDisposed => exact (legible_quoted.behind _).injective (anything _) lines
  | cleanupFailed =>
      have fields : (first.key.getD unknownText, first.reason.getD unknownText)
          = (second.key.getD unknownText, second.reason.getD unknownText) :=
        ((legible_quoted.behind _).join _ freely legible_quoted).injective (anything _) lines
      exact Prod.mk.inj fields
  | commandRejected =>
      have fields : ((first.key, first.topic), first.reason)
          = ((second.key, second.topic), second.reason) :=
        (((texts.behind _).join _ freely texts).join _ freely texts).injective (anything _) lines
      obtain ⟨named, reasons⟩ := Prod.mk.inj fields
      obtain ⟨keys, topics⟩ := Prod.mk.inj named
      exact ⟨keys, topics, reasons⟩
  | waiterRegistered => exact (legible_quoted.behind _).injective (anything _) lines
  | signalDelivered =>
      have fields : (first.topic.getD unknownText, first.count.getD 0)
          = (second.topic.getD unknownText, second.count.getD 0) :=
        ((legible_quoted.behind _).join _ freely legible_repr).injective noDigit_nil lines
      exact Prod.mk.inj fields
  | subscriberOverflow =>
      have fields : ((first.subscriber, first.reason), first.count.getD 0)
          = ((second.subscriber, second.reason), second.count.getD 0) :=
        (((texts.behind _).join _ freely texts).join _ freely legible_repr).injective
          noDigit_nil lines
      obtain ⟨texts, counts⟩ := Prod.mk.inj fields
      obtain ⟨subscribers, reasons⟩ := Prod.mk.inj texts
      exact ⟨subscribers, reasons, counts⟩
  | subscriberPanicked => exact absurd rfl told

/-- Whatever events agree on, their lines show alike. -/
theorem logLine_of_agreesOnShown {first second : Event} (kinds : first.kind = second.kind)
    (agree : first.AgreesOnShown second) : first.logLine = second.logLine := by
  unfold AgreesOnShown at agree
  unfold logLine
  rw [← kinds]
  generalize first.kind = kind at agree
  cases kind <;> simp_all only

/-- Log lines are unambiguous: the line of any event but the report of a panic is the line of
another event just if that event is of the same kind and agrees with it on every field that the
line shows, whatever texts and numbers they carry. -/
theorem lines_are_unambiguous (first second : Event) (told : first.kind ≠ .subscriberPanicked) :
    first.logLine = second.logLine
      ↔ first.kind = second.kind ∧ first.AgreesOnShown second := by
  constructor
  · intro lines
    have kinds := kind_of_logLine lines
    exact ⟨kinds, agreesOnShown_of_logLine kinds told lines⟩
  · rintro ⟨kinds, agree⟩
    exact logLine_of_agreesOnShown kinds agree

/-- A key that looks like a key and the begin of a reason. -/
def imitation : Event :=
  ((plain .cleanupFailed).withKey "n\" err=\"torn").withReason "?"

/-- What `imitation` would pass for if quotation marks were not escaped. -/
def imitated : Event :=
  ((plain .cleanupFailed).withKey "n").withReason "torn\" err=\"?"

theorem lines_are_unambiguous_imitation :
    imitated.kind ≠ .subscriberPanicked
      ∧ imitated.logLine ≠ imitation.logLine
      ∧ (plain .propStored).kind ≠ .subscriberPanicked
      ∧ (plain .propStored).logLine = ((plain .propStored).withKey "?").logLine := by
  have told : imitated.kind ≠ .subscriberPanicked := by decide
  have alsoTold : (plain .propStored).kind ≠ .subscriberPanicked := by decide
  refine ⟨told, fun lines => ?_, alsoTold, ?_⟩
  · have agree := ((lines_are_unambiguous imitated imitation told).mp lines).2
    exact absurd agree.1 (by decide)
  · exact (lines_are_unambiguous (plain .propStored) _ alsoTold).mpr ⟨rfl, rfl⟩

-- The report of a panic shows its texts as they are, and they can run into each other.
example : (panicked "a info=b" "c").logLine = (panicked "a" "b info=c").logLine := by
  decide +kernel

end Event

end BoundedScene
