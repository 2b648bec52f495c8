import BoundedScene.SceneError
import BoundedScene.Proofs.SpanText

/-!
Contract: what can be read back from the message of an error.

Owns:
- the opening words of a message and what stands behind them;
- `SceneError.Resembles`, errors of one variant with the same fields and sources of equal texts;
- the source of an error and the chain of sources down to the innermost one.

Main statement: `SceneError.messages_are_unambiguous`.

No opening begins another, and only the text of a source, or of the way in which the backend was
lost, stands unquoted, each at the end of a message.  So the message of an error ends with that of
its source, and with that of every error further in.

Does not own: how a source came to be.
-/

namespace BoundedScene

open Text (Anything Legible anything legible_quoted legible_self)

namespace SceneError

/-! ## Openings -/

/-- The ways in which a message begins. -/
inductive Opening where
  | ended
  | timeout (kind : TimeoutKind)
  | prop
  | cleanup
  | noSubscriber
  | waiting
  | aborted
  | lost
deriving DecidableEq, Repr

namespace Opening

def text : Opening → String
  | .ended => "scene already ended"
  | .timeout kind => "scene " ++ kind.label ++ " timeout reached after "
  | .prop => "prop "
  | .cleanup => "cleanup of prop "
  | .noSubscriber => "no subscriber to signal "
  | .waiting => "waiting for signal "
  | .aborted => "scene aborted: "
  | .lost => "scene backend lost: "

def all : List Opening :=
  [.ended, .timeout .inactivity, .timeout .absolute, .prop, .cleanup, .noSubscriber, .waiting,
   .aborted, .lost]

theorem mem_all (opening : Opening) : opening ∈ all := by
  cases opening with
  | timeout kind => cases kind <;> decide
  | _ => decide

theorem legible_text : Legible text Anything := by
  have free : ∀ first ∈ all, ∀ second ∈ all,
      first.text.toList <+: second.text.toList → first = second := by
    decide +kernel
  exact Text.legible_of_prefixFree mem_all free

end Opening

/-- How the message of an error begins. -/
def opening : SceneError → Opening
  | .ended => .ended
  | .timeout kind _ => .timeout kind
  | .propAlreadyExists _ => .prop
  | .propNotFound _ => .prop
  | .cleanupFailed _ _ => .cleanup
  | .noSubscriber _ => .noSubscriber
  | .waitedTooLong _ => .waiting
  | .aborted _ => .aborted
  | .backendLost _ => .lost

/-- What stands behind the opening of the message of an error. -/
def details : SceneError → String
  | .ended => ""
  | .timeout _ after => after.text
  | .propAlreadyExists key => Text.quoted key ++ " already exists"
  | .propNotFound key => Text.quoted key ++ " does not exist"
  | .cleanupFailed key source => Text.quoted key ++ " failed: " ++ source.message
  | .noSubscriber topic => Text.quoted topic
  | .waitedTooLong topic => Text.quoted topic ++ " timed out"
  | .aborted source => source.message
  | .backendLost reason => reason

theorem message_eq (error : SceneError) : error.message = error.opening.text ++ error.details := by
  cases error with
  | ended => exact String.append_empty.symm
  | timeout => rfl
  | propAlreadyExists => exact String.append_assoc
  | propNotFound => exact String.append_assoc
  | cleanupFailed key source =>
      change "cleanup of prop " ++ Text.quoted key ++ " failed: " ++ source.message
        = "cleanup of prop " ++ (Text.quoted key ++ " failed: " ++ source.message)
      simp only [String.append_assoc]
  | noSubscriber => rfl
  | waitedTooLong => exact String.append_assoc
  | aborted => rfl
  | backendLost => rfl

/-- The same message begins and goes on in the same way. -/
theorem parts_of_message {error other : SceneError} (same : error.message = other.message) :
    error.opening = other.opening ∧ error.details = other.details := by
  rw [message_eq, message_eq] at same
  have letters := congrArg String.toList same
  rw [String.toList_append, String.toList_append] at letters
  obtain ⟨openings, details⟩ := Opening.legible_text (anything _) (anything _) letters
  exact ⟨openings, String.toList_injective details⟩

/-! ## What a message shows -/

/-- Errors of the same variant with the same key, topic, reason, kind and length, whose sources
have equal texts. -/
inductive Resembles : SceneError → SceneError → Prop
  | ended : Resembles .ended .ended
  | timeout (kind : TimeoutKind) (after : Span) :
      Resembles (.timeout kind after) (.timeout kind after)
  | propAlreadyExists (key : String) : Resembles (.propAlreadyExists key) (.propAlreadyExists key)
  | propNotFound (key : String) : Resembles (.propNotFound key) (.propNotFound key)
  | cleanupFailed (key : String) {source other : Cause} (same : source.message = other.message) :
      Resembles (.cleanupFailed key source) (.cleanupFailed key other)
  | noSubscriber (topic : String) : Resembles (.noSubscriber topic) (.noSubscriber topic)
  | waitedTooLong (topic : String) : Resembles (.waitedTooLong topic) (.waitedTooLong topic)
  | aborted {source other : Cause} (same : source.message = other.message) :
      Resembles (.aborted source) (.aborted other)
  | backendLost (reason : String) : Resembles (.backendLost reason) (.backendLost reason)

theorem present_ne_missing (key other : String) :
    Text.quoted key ++ " already exists" ≠ Text.quoted other ++ " does not exist" := by
  intro same
  have letters := congrArg String.toList same
  rw [String.toList_append, String.toList_append] at letters
  exact absurd (legible_quoted (anything _) (anything _) letters).2 (by decide)

theorem resembles_of_message {error other : SceneError} (same : error.message = other.message) :
    error.Resembles other := by
  have freely (rest : List Char) : Anything rest := anything rest
  obtain ⟨openings, details⟩ := parts_of_message same
  cases error with
  | ended =>
      cases other with
      | ended => exact .ended
      | _ => cases openings
  | timeout kind after =>
      cases other with
      | timeout =>
          obtain rfl := Span.text_injective details
          cases openings
          exact .timeout kind after
      | _ => cases openings
  | propAlreadyExists key =>
      cases other with
      | propAlreadyExists =>
          obtain rfl := (legible_quoted.before _ freely).injective (anything _) details
          exact .propAlreadyExists key
      | propNotFound another => exact absurd details (present_ne_missing key another)
      | _ => cases openings
  | propNotFound key =>
      cases other with
      | propAlreadyExists another => exact absurd details.symm (present_ne_missing another key)
      | propNotFound =>
          obtain rfl := (legible_quoted.before _ freely).injective (anything _) details
          exact .propNotFound key
      | _ => cases openings
  | cleanupFailed key source =>
      cases other with
      | cleanupFailed another inner =>
          have fields : (key, source.message) = (another, inner.message) :=
            (legible_quoted.join _ freely legible_self).injective rfl details
          obtain ⟨rfl, texts⟩ := Prod.mk.inj fields
          exact .cleanupFailed key texts
      | _ => cases openings
  | noSubscriber topic =>
      cases other with
      | noSubscriber =>
          obtain rfl := legible_quoted.injective (anything _) details
          exact .noSubscriber topic
      | _ => cases openings
  | waitedTooLong topic =>
      cases other with
      | waitedTooLong =>
          obtain rfl := (legible_quoted.before _ freely).injective (anything _) details
          exact .waitedTooLong topic
      | _ => cases openings
  | aborted source =>
      cases other with
      | aborted => exact .aborted details
      | _ => cases openings
  | backendLost reason =>
      cases other with
      | backendLost =>
          obtain rfl : reason = _ := details
          exact .backendLost reason
      | _ => cases openings

theorem Resembles.message {error other : SceneError} (resembles : error.Resembles other) :
    error.message = other.message := by
  cases resembles with
  | cleanupFailed key same => exact congrArg (_ ++ ·) same
  | aborted same => exact congrArg (_ ++ ·) same
  | _ => rfl

theorem Resembles.label {error other : SceneError} (resembles : error.Resembles other) :
    error.label = other.label := by
  cases resembles <;> rfl

theorem Resembles.flags {error other : SceneError} (resembles : error.Resembles other) :
    error.flags = other.flags := by
  cases resembles <;> rfl

/-! ## Sources -/

/-- The error that another one wraps. -/
def source? : SceneError → Option Cause
  | .cleanupFailed _ source => some source
  | .aborted source => some source
  | _ => none

end SceneError

namespace Cause

/-- An opaque error wraps nothing that could be seen. -/
def source? : Cause → Option Cause
  | .foreign _ => none
  | .scene error => error.source?

end Cause

mutual

theorem SceneError.inward {motive : Cause → Prop}
    (innermost : ∀ cause, cause.source? = none → motive cause)
    (wraps : ∀ cause source, cause.source? = some source → motive source → motive cause) :
    ∀ error : SceneError, motive (.scene error)
  | .cleanupFailed _ source => wraps _ source rfl (Cause.inward innermost wraps source)
  | .aborted source => wraps _ source rfl (Cause.inward innermost wraps source)
  | .ended => innermost _ rfl
  | .timeout _ _ => innermost _ rfl
  | .propAlreadyExists _ => innermost _ rfl
  | .propNotFound _ => innermost _ rfl
  | .noSubscriber _ => innermost _ rfl
  | .waitedTooLong _ => innermost _ rfl
  | .backendLost _ => innermost _ rfl

/-- What holds of errors without a source, and of an error when it holds of its source, holds of
every error. -/
theorem Cause.inward {motive : Cause → Prop}
    (innermost : ∀ cause, cause.source? = none → motive cause)
    (wraps : ∀ cause source, cause.source? = some source → motive source → motive cause) :
    ∀ cause : Cause, motive cause
  | .foreign _ => innermost _ rfl
  | .scene error => SceneError.inward innermost wraps error

end

namespace Cause

variable {cause source : Cause}

theorem chain_of_innermost (innermost : cause.source? = none) : cause.chain = [] := by
  cases cause with
  | foreign => rfl
  | scene error =>
      cases error with
      | cleanupFailed => cases innermost
      | aborted => cases innermost
      | _ => rfl

/-- Only failed cleanups and aborts wrap an error. -/
theorem eq_of_wraps (wraps : cause.source? = some source) :
    (∃ key, cause = .scene (.cleanupFailed key source)) ∨ cause = .scene (.aborted source) := by
  cases cause with
  | foreign => cases wraps
  | scene error =>
      cases error with
      | cleanupFailed key => cases wraps; exact .inl ⟨key, rfl⟩
      | aborted => cases wraps; exact .inr rfl
      | _ => cases wraps

theorem chain_of_wraps (wraps : cause.source? = some source) :
    cause.chain = source.message :: source.chain := by
  obtain ⟨key, rfl⟩ | rfl := eq_of_wraps wraps
  · rfl
  · rfl

/-- A text that ends with another one. -/
def EndsWith (text ending : String) : Prop :=
  ∃ lead, text = lead ++ ending

/-- The message of an error ends with that of its source. -/
theorem message_of_wraps (wraps : cause.source? = some source) :
    EndsWith cause.message source.message := by
  obtain ⟨key, rfl⟩ | rfl := eq_of_wraps wraps
  · exact ⟨_, rfl⟩
  · exact ⟨_, rfl⟩

/-- Errors are the given one, its source, the source of that and so on to the innermost one.

- `starts`: the error itself comes first;
- `linked`: each one is the source of the one before it;
- `innermost`: the last one is opaque or has no source;
- `texts`: their messages are that of the error and those of its chain;
- `endings`: each message is the end of every message before it. -/
structure SourceChain (cause : Cause) (errors : List Cause) : Prop where
  starts : errors.head? = some cause
  linked : errors.IsChain fun outer inner => outer.source? = some inner
  innermost : ∀ last ∈ errors.getLast?, last.source? = none
  texts : errors.map Cause.message = cause.message :: cause.chain
  endings : (cause.message :: cause.chain).Pairwise EndsWith

theorem endsWith_trans {text middle ending : String} (outer : EndsWith text middle)
    (inner : EndsWith middle ending) : EndsWith text ending := by
  obtain ⟨lead, rfl⟩ := outer
  obtain ⟨next, rfl⟩ := inner
  exact ⟨lead ++ next, String.append_assoc.symm⟩

theorem exists_sourceChain (cause : Cause) : ∃ errors, cause.SourceChain errors := by
  induction cause using Cause.inward with
  | innermost cause innermost =>
      have alone := chain_of_innermost innermost
      refine ⟨[cause], rfl, List.IsChain.singleton _, ?_, ?_, ?_⟩
      · rintro last ⟨⟩
        exact innermost
      · rw [alone]
        rfl
      · rw [alone]
        exact List.pairwise_singleton _ _
  | wraps cause source wraps inductionHypothesis =>
      obtain ⟨errors, further⟩ := inductionHypothesis
      obtain ⟨later, rfl⟩ := List.head?_eq_some_iff.mp further.starts
      have onward := chain_of_wraps wraps
      refine ⟨cause :: source :: later, rfl, ?_, ?_, ?_, ?_⟩
      · exact List.isChain_cons_cons.mpr ⟨wraps, further.linked⟩
      · rw [List.getLast?_cons_cons]
        exact further.innermost
      · rw [List.map_cons, further.texts, onward]
      · rw [onward]
        refine List.pairwise_cons.mpr ⟨fun text member => ?_, further.endings⟩
        have own := message_of_wraps wraps
        rcases List.mem_cons.mp member with rfl | deeper
        · exact own
        · exact endsWith_trans own ((List.pairwise_cons.mp further.endings).1 text deeper)

/-- Errors with the same message have sources with the same message. -/
theorem source_message_of_message {other inner : Cause} (same : cause.message = other.message)
    (wraps : cause.source? = some source) (alsoWraps : other.source? = some inner) :
    source.message = inner.message := by
  obtain ⟨key, rfl⟩ | rfl := eq_of_wraps wraps
  all_goals obtain ⟨another, rfl⟩ | rfl := eq_of_wraps alsoWraps
  -- Errors that resemble each other are of one variant, which leaves two of the four cases.
  all_goals cases SceneError.resembles_of_message same
  all_goals assumption

/-- Errors with the same message have the same messages below, as far down as both go. -/
theorem chains_of_message (cause : Cause) :
    ∀ other : Cause, cause.message = other.message →
      cause.chain <+: other.chain ∨ other.chain <+: cause.chain := by
  induction cause using Cause.inward with
  | innermost cause innermost =>
      intro other _
      rw [chain_of_innermost innermost]
      exact .inl List.nil_prefix
  | wraps cause source wraps inductionHypothesis =>
      intro other same
      rw [chain_of_wraps wraps]
      cases inner : other.source? with
      | none =>
          rw [chain_of_innermost inner]
          exact .inr List.nil_prefix
      | some further =>
          have texts := source_message_of_message same wraps inner
          rw [chain_of_wraps inner, texts]
          exact (inductionHypothesis further texts).imp
            (List.prefix_cons_inj _).mpr (List.prefix_cons_inj _).mpr

end Cause

namespace SceneError

/-- The message of an error says which error it is, at every depth: two errors have the same message
just if they are of one variant, with the same label and predicates, the same key, topic, reason,
kind and length, and sources of equal texts; and then the texts further in agree as well, as far as
both have sources.

The texts from an error down to its innermost source are each the end of all those before. -/
theorem messages_are_unambiguous (error other : SceneError) :
    (error.message = other.message
        ↔ error.Resembles other ∧ error.label = other.label ∧ error.flags = other.flags
          ∧ (error.chain <+: other.chain ∨ other.chain <+: error.chain))
      ∧ ∃ errors, (Cause.scene error).SourceChain errors := by
  refine ⟨⟨fun same => ?_, fun alike => alike.1.message⟩, Cause.exists_sourceChain _⟩
  have resembles := resembles_of_message same
  have chains := Cause.chains_of_message (.scene error) (.scene other) same
  exact ⟨resembles, resembles.label, resembles.flags, chains⟩

-- An opaque source can bear the text of a scene error; the chain is cut off there then.
example :
    (SceneError.aborted (.foreign "scene aborted: torn")).message
      = (SceneError.aborted (.scene (.aborted (.foreign "torn")))).message := by
  decide +kernel

end SceneError

end BoundedScene
