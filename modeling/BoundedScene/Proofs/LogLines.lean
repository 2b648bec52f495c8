import BoundedScene.Event.LogLine
import BoundedScene.Proofs.Legibility

/-!
Contract: which events a log shows on one line each.

Owns:
- `Text.OneLine`, text without a line feed or a carriage return;
- the pieces of a log line that stay on one line whatever they show;
- `Event.printed`, what a log prints for a list of events.

Main statement: `Event.one_line_each`.

Quoted text, numbers and the fixed wording never break a line.  The report of a subscriber's
panic shows a name and a message as they are, and it is the only line that can be broken.

Does not own: what else can be read back from a line.
-/

namespace BoundedScene

namespace Text

/-- A character after which a new line starts. -/
def isLineBreak (character : Char) : Bool :=
  character == '\n' || character == '\r'

/-- The text stays on one line. -/
def OneLine (text : String) : Prop :=
  ∀ character ∈ text.toList, isLineBreak character = false

instance (text : String) : Decidable (OneLine text) :=
  decidable_of_iff ((text.toList.all fun character => !isLineBreak character) = true)
    (by simp [OneLine])

/-! ## Pieces of a line -/

@[simp] theorem oneLine_append {left right : String} :
    OneLine (left ++ right) ↔ OneLine left ∧ OneLine right := by
  unfold OneLine
  rw [String.toList_append]
  exact List.forall_mem_append

theorem isLineBreak_digitChar (digit : Nat) : isLineBreak digit.digitChar = false := by
  have feed : digit.digitChar ≠ '\n' := Nat.digitChar_ne '\n' rfl
  have carriage : digit.digitChar ≠ '\r' := Nat.digitChar_ne '\r' rfl
  simp [isLineBreak, feed, carriage]

/-- Digits are digits in any base. -/
theorem isLineBreak_of_mem_toDigits {base : Nat} (positional : 1 < base) {number : Nat}
    {character : Char} (member : character ∈ Nat.toDigits base number) :
    isLineBreak character = false := by
  obtain ⟨digit, rfl⟩ := exists_digitChar_of_mem_toDigits positional member
  exact isLineBreak_digitChar digit

@[simp] theorem oneLine_repr (number : Nat) : OneLine (Nat.repr number) := by
  intro character member
  rw [Nat.repr, String.toList_ofList] at member
  exact isLineBreak_of_mem_toDigits (by decide) member

/-- The two characters that break a line have escapes of their own. -/
theorem isLineBreak_of_mem_escapeCharacter {character escaped : Char}
    (member : escaped ∈ escapeCharacter character) : isLineBreak escaped = false := by
  have fixed {escape : List Char}
      (unbroken : (escape.all fun letter => !isLineBreak letter) = true)
      (member : escaped ∈ escape) : isLineBreak escaped = false := by
    simpa using List.all_eq_true.mp unbroken escaped member
  unfold escapeCharacter at member
  split at member
  · exact fixed (by decide) member
  split at member
  · exact fixed (by decide) member
  split at member
  · exact fixed (by decide) member
  split at member
  · exact fixed (by decide) member
  split at member
  · exact fixed (by decide) member
  split at member
  · exact fixed (by decide) member
  split at member
  · rcases List.mem_append.mp member with opened | closing
    · rcases List.mem_append.mp opened with opening | digits
      · exact fixed (by decide) opening
      · exact isLineBreak_of_mem_toDigits (by decide) digits
    · rw [List.mem_singleton.mp closing]
      rfl
  · case isFalse carriage feed _ _ _ =>
    rw [List.mem_singleton.mp member]
    simp [isLineBreak, carriage, feed]

@[simp] theorem oneLine_quoted (text : String) : OneLine (quoted text) := by
  intro character member
  rw [quoted, String.toList_ofList] at member
  rcases List.mem_append.mp member with opened | closing
  · rcases List.mem_cons.mp opened with rfl | inside
    · rfl
    · obtain ⟨_, -, escaped⟩ := List.mem_flatMap.mp inside
      exact isLineBreak_of_mem_escapeCharacter escaped
  · rw [List.mem_singleton.mp closing]
    rfl

theorem oneLine_optional {α : Type} {form : α → String} (each : ∀ value, OneLine (form value))
    (value : Option α) : OneLine (optional form value) := by
  cases value with
  | none => exact (by decide : OneLine "None")
  | some value =>
      simp only [optional, oneLine_append]
      exact ⟨⟨by decide, each value⟩, by decide⟩

end Text

namespace Event

open Text (OneLine)

/-! ## Lines -/

/-- The event reports a panic with a name or a message that breaks its line. -/
def BreaksLine (event : Event) : Prop :=
  event.kind = .subscriberPanicked
    ∧ ¬(OneLine (event.subscriber.getD "unknown") ∧ OneLine (event.reason.getD "unknown"))

theorem oneLine_logLine_iff (event : Event) : OneLine event.logLine ↔ ¬event.BreaksLine := by
  have numbers := fun number => Text.oneLine_optional Text.oneLine_repr number
  have texts := fun text => Text.oneLine_optional Text.oneLine_quoted text
  unfold BreaksLine logLine
  cases event.kind with
  | subscriberPanicked =>
      have name : OneLine "[subscriber-panicked] subscriber=" := by decide
      have info : OneLine " info=" := by decide
      simp [name, info]
  | _ =>
      simp only [reduceCtorEq, false_and, not_false_eq_true, iff_true, Text.oneLine_append,
        Text.oneLine_quoted, Text.oneLine_repr, numbers, texts, and_true]
      decide

/-- What a log prints: the line of each event, ended by a line feed. -/
def printed (events : List Event) : List Char :=
  events.flatMap fun event => event.logLine.toList ++ ['\n']

theorem splitOn_printed {events : List Event}
    (whole : ∀ event ∈ events, OneLine event.logLine) :
    (printed events).splitOn '\n' = events.map (fun event => event.logLine.toList) ++ [[]] := by
  induction events with
  | nil => rfl
  | cons event later inductionHypothesis =>
      obtain ⟨first, others⟩ := List.forall_mem_cons.mp whole
      have unbroken : '\n' ∉ event.logLine.toList := fun member => by
        have line := first _ member
        exact absurd line (by decide)
      have split : printed (event :: later) = event.logLine.toList ++ '\n' :: printed later := by
        simp [printed]
      rw [split, List.splitOn_append_cons_self_of_not_mem unbroken, inductionHypothesis others]
      rfl

/-- A log shows an event of any kind, with any text and any numbers, on one line, unless the
event reports a panic of a subscriber and the name or the message breaks the line.

Where no event does, the text that the log prints is exactly the lines of the events, one for
each: no event can pass for another line. -/
theorem one_line_each (event : Event) (events : List Event) :
    (OneLine event.logLine ↔ ¬event.BreaksLine)
      ∧ ((∀ event ∈ events, ¬event.BreaksLine) →
        (printed events).splitOn '\n'
          = events.map (fun event => event.logLine.toList) ++ [[]]) := by
  refine ⟨event.oneLine_logLine_iff, fun unbroken => splitOn_printed fun event member => ?_⟩
  exact event.oneLine_logLine_iff.mpr (unbroken event member)

/-- A key that looks like the end of a line and the begin of another. -/
def forgingKey : Event :=
  (plain .propStored).withKey "a\"\r\n[scene-ending]"

theorem one_line_forgingKey :
    (∀ event ∈ [forgingKey, plain .sceneEnding], ¬event.BreaksLine)
      ∧ (printed [forgingKey, plain .sceneEnding]).splitOn '\n'
        = ["[stored] key=\"a\\\"\\r\\n[scene-ending]\"".toList, "[scene-ending]".toList, []] := by
  have unbroken : ∀ event ∈ [forgingKey, plain .sceneEnding], ¬event.BreaksLine := by
    refine List.forall_mem_cons.mpr ⟨?_, List.forall_mem_singleton.mpr ?_⟩
    · exact fun breaks => absurd breaks.1 (by decide)
    · exact fun breaks => absurd breaks.1 (by decide)
  refine ⟨unbroken, ((one_line_each forgingKey _).2 unbroken).trans ?_⟩
  decide +kernel

/-- A panic whose message looks like the end of the scene. -/
def forgingPanic : Event :=
  panicked "recorder" "torn\n[scene-ending]"

/-- The message of a panic breaks the line of its report and passes for a line of its own. -/
theorem forged_line :
    ¬OneLine forgingPanic.logLine
      ∧ printed [forgingPanic] = printed [panicked "recorder" "torn", plain .sceneEnding] := by
  exact ⟨by decide +kernel, by decide +kernel⟩

end Event

end BoundedScene
