import BoundedScene.Time.Span
import BoundedScene.Proofs.Legibility
import Mathlib.Data.List.DropRight

/-!
Contract: the text of a span tells its length exactly.

Owns:
- the decimal places of a fraction, with the zeros at the end put back;
- the unit in which a span is written;
- the injectivity of `Span.text`.

The whole part ends at the point or at the unit, the places end at the unit, and a unit has its own
number of places.  The zeros left out at the end of the places are as many as are missing there.

Does not own: the messages that name a span.
-/

namespace BoundedScene.Span

open Text (NoDigit append_inj_of_run legible_repr)

/-! ## Decimal places -/

/-- The decimal places of a fraction of `10 ^ width` parts, to the last one. -/
def allPlaces (width parts : Nat) : List Char :=
  List.replicate (width - (Nat.toDigits 10 parts).length) '0' ++ Nat.toDigits 10 parts

theorem fractionDigits_eq (width parts : Nat) :
    fractionDigits width parts = (allPlaces width parts).rdropWhile (· == '0') :=
  rfl

theorem length_allPlaces {width parts : Nat} (wide : 0 < width)
    (proper : parts < Nat.pow 10 width) : (allPlaces width parts).length = width := by
  have short : (Nat.toDigits 10 parts).length ≤ width :=
    (Nat.length_toDigits_le_iff (by decide) wide).mpr proper
  rw [allPlaces, List.length_append, List.length_replicate]
  omega

theorem ofDigitChars_allPlaces (width parts : Nat) :
    Nat.ofDigitChars 10 (allPlaces width parts) 0 = parts := by
  rw [allPlaces, Nat.ofDigitChars_append, Nat.ofDigitChars_replicate_zero, Nat.mul_zero,
    Nat.ofDigitChars_ten_toDigits]

theorem isDigit_of_mem_fractionDigits {width parts : Nat} {digit : Char}
    (member : digit ∈ fractionDigits width parts) : digit.isDigit = true := by
  rw [fractionDigits_eq] at member
  rcases List.mem_append.mp ((List.rdropWhile_prefix _ _).subset member) with zero | place
  · rw [List.eq_of_mem_replicate zero]
    rfl
  · exact Nat.isDigit_of_mem_toDigits (by decide) (by decide) place

/-- What was left out is zeros, up to the last place. -/
theorem fractionDigits_append {width parts : Nat} (wide : 0 < width)
    (proper : parts < Nat.pow 10 width) :
    fractionDigits width parts
        ++ List.replicate (width - (fractionDigits width parts).length) '0'
      = allPlaces width parts := by
  have whole : fractionDigits width parts ++ (allPlaces width parts).rtakeWhile (· == '0')
      = allPlaces width parts := List.rdropWhile_append_rtakeWhile
  have zeros : (allPlaces width parts).rtakeWhile (· == '0')
      = List.replicate ((allPlaces width parts).rtakeWhile (· == '0')).length '0' :=
    List.eq_replicate_of_mem fun digit member => by
      simpa using List.mem_rtakeWhile_imp member
  have lengths := congrArg List.length whole
  rw [List.length_append, length_allPlaces wide proper] at lengths
  have missing : ((allPlaces width parts).rtakeWhile (· == '0')).length
      = width - (fractionDigits width parts).length := by
    omega
  rw [← missing, ← zeros, whole]

theorem eq_of_fractionDigits {width first second : Nat} (proper : first < Nat.pow 10 width)
    (alsoProper : second < Nat.pow 10 width)
    (same : fractionDigits width first = fractionDigits width second) : first = second := by
  rcases Nat.eq_zero_or_pos width with rfl | wide
  · exact (Nat.lt_one_iff.mp proper).trans (Nat.lt_one_iff.mp alsoProper).symm
  · rw [← ofDigitChars_allPlaces width first, ← ofDigitChars_allPlaces width second,
      ← fractionDigits_append wide proper, ← fractionDigits_append wide alsoProper, same]

/-! ## Decimal numbers -/

/-- Text that goes on neither with a digit nor with a point. -/
def NoNumber (rest : List Char) : Prop :=
  ∀ character ∈ rest.head?, character.isDigit = false ∧ character ≠ '.'

/-- The places with a point before them, if there is any. -/
def fraction : List Char → List Char
  | [] => []
  | places => '.' :: places

theorem toList_decimal (width value : Nat) :
    (decimal width value).toList
      = (Nat.repr (value / Nat.pow 10 width)).toList
        ++ fraction (fractionDigits width (value % Nat.pow 10 width)) := by
  unfold decimal
  dsimp only
  cases fractionDigits width (value % Nat.pow 10 width) with
  | nil => exact (List.append_nil _).symm
  | cons first later => simp [fraction]

theorem noDigit_fraction (places : List Char) {rest : List Char} (ends : NoNumber rest) :
    NoDigit (fraction places ++ rest) := by
  cases places with
  | nil => exact fun character first => (ends character first).1
  | cons first later => exact Text.noDigit_cons (by decide) _

theorem fraction_append_inj {places others rest remaining : List Char}
    (digits : ∀ digit ∈ places, digit.isDigit = true)
    (alsoDigits : ∀ digit ∈ others, digit.isDigit = true)
    (ends : NoNumber rest) (alsoEnds : NoNumber remaining)
    (same : fraction places ++ rest = fraction others ++ remaining) :
    places = others ∧ rest = remaining := by
  cases places with
  | nil =>
      cases others with
      | nil => exact ⟨rfl, same⟩
      | cons first later =>
          have point : '.' ∈ rest.head? := congrArg List.head? same
          exact absurd rfl (ends '.' point).2
  | cons first later =>
      cases others with
      | nil =>
          have point : '.' ∈ remaining.head? := (congrArg List.head? same).symm
          exact absurd rfl (alsoEnds '.' point).2
      | cons another following =>
          exact append_inj_of_run digits alsoDigits (fun character next => (ends character next).1)
            (fun character next => (alsoEnds character next).1) (List.tail_eq_of_cons_eq same)

/-- A decimal number shows its whole part, its places and what stands behind it. -/
theorem decimal_append_inj {width others value another : Nat} {rest remaining : List Char}
    (ends : NoNumber rest) (alsoEnds : NoNumber remaining)
    (same : (decimal width value).toList ++ rest = (decimal others another).toList ++ remaining) :
    value / Nat.pow 10 width = another / Nat.pow 10 others
      ∧ fractionDigits width (value % Nat.pow 10 width)
        = fractionDigits others (another % Nat.pow 10 others)
      ∧ rest = remaining := by
  rw [toList_decimal, toList_decimal, List.append_assoc, List.append_assoc] at same
  obtain ⟨wholes, onward⟩ :=
    legible_repr (noDigit_fraction _ ends) (noDigit_fraction _ alsoEnds) same
  obtain ⟨places, last⟩ := fraction_append_inj (fun _ => isDigit_of_mem_fractionDigits)
    (fun _ => isDigit_of_mem_fractionDigits) ends alsoEnds onward
  exact ⟨wholes, places, last⟩

/-! ## Units -/

/-- The units of time: the decimal places from one down to nanoseconds, and its name. -/
def units : List (Nat × String) :=
  [(9, "s"), (6, "ms"), (3, "µs"), (0, "ns")]

theorem decimal_zero (value : Nat) : decimal 0 value = Nat.repr value := by
  have whole : Nat.pow 10 0 = 1 := rfl
  have empty : fractionDigits 0 0 = [] := rfl
  apply String.toList_injective
  rw [toList_decimal, whole, Nat.div_one, Nat.mod_one, empty]
  exact List.append_nil _

theorem text_eq (span : Span) :
    ∃ unit ∈ units, span.text = decimal unit.1 span.nanoseconds ++ unit.2 := by
  unfold text
  split
  · exact ⟨(9, "s"), by decide, rfl⟩
  split
  · exact ⟨(6, "ms"), by decide, rfl⟩
  split
  · exact ⟨(3, "µs"), by decide, rfl⟩
  · exact ⟨(0, "ns"), by decide, by rw [decimal_zero]⟩

/-- Spans with the same text are of the same length, however long they are. -/
theorem text_injective : Function.Injective text := by
  intro first second same
  obtain ⟨unit, known, text⟩ := first.text_eq
  obtain ⟨another, alsoKnown, otherText⟩ := second.text_eq
  have ends : ∀ unit ∈ units, NoNumber unit.2.toList := by simp [units, NoNumber]
  have named : ∀ unit ∈ units, ∀ another ∈ units,
      unit.2.toList = another.2.toList → unit = another := by
    decide
  rw [text, otherText] at same
  have letters := congrArg String.toList same
  rw [String.toList_append, String.toList_append] at letters
  obtain ⟨wholes, places, names⟩ :=
    decimal_append_inj (ends unit known) (ends another alsoKnown) letters
  obtain rfl := named unit known another alsoKnown names
  have positive : 0 < Nat.pow 10 unit.1 := Nat.pow_pos (by decide)
  have parts := eq_of_fractionDigits (Nat.mod_lt _ positive) (Nat.mod_lt _ positive) places
  have nanoseconds : first.nanoseconds = second.nanoseconds := by
    rw [← Nat.div_add_mod first.nanoseconds (Nat.pow 10 unit.1), wholes, parts, Nat.div_add_mod]
  cases first
  cases second
  exact congrArg Span.mk nanoseconds

end BoundedScene.Span
