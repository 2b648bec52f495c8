import BoundedScene.Text.Quoted
import Mathlib.Data.List.Basic
import Mathlib.Logic.Function.Basic

/-!
Contract: which forms of writing values can be read back out of a longer text.

Owns:
- `Legible`, a form that shows its value and where the rest of the text begins;
- how legible forms are put together;
- the legibility of fixed words, numbers, quoted text and values that may be absent.

Nothing that a key, a topic or a reason contains can pass for the text around it: in its quoted
form every quotation mark and every backslash of its own is escaped, so the first bare mark ends
it.

Does not own: the lines and messages that are put together from these forms.
-/

namespace BoundedScene.Text

/-- What a form shows of a value can be read back, together with the text that stands behind it,
provided that such text may follow. -/
def Legible {α : Type} (form : α → String) (MayFollow : List Char → Prop) : Prop :=
  ∀ ⦃first second : α⦄ ⦃rest other : List Char⦄, MayFollow rest → MayFollow other →
    (form first).toList ++ rest = (form second).toList ++ other → first = second ∧ rest = other

/-- Any text may follow. -/
def Anything (_ : List Char) : Prop := True

/-- Nothing may follow. -/
def Nothing (rest : List Char) : Prop := rest = []

/-- Text that does not go on with a digit. -/
def NoDigit (rest : List Char) : Prop :=
  ∀ character ∈ rest.head?, character.isDigit = false

theorem anything (rest : List Char) : Anything rest := trivial

theorem noDigit_nil : NoDigit [] := by simp [NoDigit]

theorem noDigit_cons {character : Char} (other : character.isDigit = false) (rest : List Char) :
    NoDigit (character :: rest) := by
  simpa [NoDigit] using other

/-! ## Putting forms together -/

namespace Legible

variable {α β : Type} {form : α → String} {onward : β → String}
  {MayFollow Onward : List Char → Prop}

theorem injective (legible : Legible form MayFollow) (alone : MayFollow []) :
    Function.Injective form := by
  intro first second same
  exact (legible alone alone (congrArg (fun text => text.toList ++ []) same)).1

/-- A fixed text in front changes nothing. -/
theorem behind (legible : Legible form MayFollow) (lead : String) :
    Legible (fun value => lead ++ form value) MayFollow := by
  intro first second rest other follows alsoFollows same
  rw [String.toList_append, String.toList_append, List.append_assoc, List.append_assoc] at same
  exact legible follows alsoFollows (List.append_cancel_left same)

/-- A fixed text behind takes the place of what follows. -/
theorem before (legible : Legible form MayFollow) (tail : String)
    (ends : ∀ rest, MayFollow (tail.toList ++ rest)) :
    Legible (fun value => form value ++ tail) Anything := by
  intro first second rest other _ _ same
  rw [String.toList_append, String.toList_append, List.append_assoc, List.append_assoc] at same
  obtain ⟨equal, remaining⟩ := legible (ends rest) (ends other) same
  exact ⟨equal, List.append_cancel_left remaining⟩

/-- Two forms with a fixed text between them show both values. -/
theorem join (legible : Legible form MayFollow) (between : String)
    (ends : ∀ rest, MayFollow (between.toList ++ rest)) (legibleOnward : Legible onward Onward) :
    Legible (fun pair : α × β => form pair.1 ++ between ++ onward pair.2) Onward := by
  rintro ⟨first, next⟩ ⟨second, following⟩ rest other follows alsoFollows same
  simp only [String.toList_append, List.append_assoc] at same
  obtain ⟨rfl, remaining⟩ := legible (ends _) (ends _) same
  obtain ⟨rfl, last⟩ := legibleOnward follows alsoFollows (List.append_cancel_left remaining)
  exact ⟨rfl, last⟩

end Legible

/-! ## Fixed words -/

/-- Words can be told apart, whatever follows, when none of them begins another. -/
theorem legible_of_prefixFree {α : Type} {word : α → String} {values : List α}
    (complete : ∀ value, value ∈ values)
    (free : ∀ first ∈ values, ∀ second ∈ values,
      (word first).toList <+: (word second).toList → first = second) :
    Legible word Anything := by
  intro first second rest other _ _ same
  have begins : (word first).toList <+: (word second).toList ++ other :=
    same ▸ List.prefix_append _ _
  have equal : first = second := by
    rcases List.prefix_or_prefix_of_prefix begins (List.prefix_append _ _) with shorter | longer
    · exact free first (complete first) second (complete second) shorter
    · exact (free second (complete second) first (complete first) longer).symm
  subst equal
  exact ⟨rfl, List.append_cancel_left same⟩

/-- Text that stands as it is can only be the last of a text. -/
theorem legible_self : Legible (fun text : String => text) Nothing := by
  rintro first second rest other rfl rfl same
  rw [List.append_nil, List.append_nil] at same
  exact ⟨String.toList_injective same, rfl⟩

/-! ## Runs of characters of a kind -/

/-- A run of characters of a kind ends where another kind of character stands. -/
theorem append_inj_of_run {inside : Char → Bool} {run other rest remaining : List Char}
    (within : ∀ character ∈ run, inside character = true)
    (alsoWithin : ∀ character ∈ other, inside character = true)
    (ends : ∀ character ∈ rest.head?, inside character = false)
    (alsoEnds : ∀ character ∈ remaining.head?, inside character = false)
    (same : run ++ rest = other ++ remaining) : run = other ∧ rest = remaining := by
  have cut {run rest : List Char} (within : ∀ character ∈ run, inside character = true)
      (ends : ∀ character ∈ rest.head?, inside character = false) :
      (run ++ rest).takeWhile inside = run := by
    rw [List.takeWhile_append_of_pos within]
    cases rest with
    | nil => exact List.append_nil run
    | cons first later =>
        rw [List.takeWhile_cons_of_neg (by simp [ends first rfl]), List.append_nil]
  have equal : run = other := by
    rw [← cut within ends, same, cut alsoWithin alsoEnds]
  subst equal
  exact ⟨rfl, List.append_cancel_left same⟩

theorem legible_repr : Legible Nat.repr NoDigit := by
  intro first second rest other follows alsoFollows same
  rw [Nat.repr, Nat.repr, String.toList_ofList, String.toList_ofList] at same
  have digits (number : Nat) : ∀ character ∈ Nat.toDigits 10 number, character.isDigit = true :=
    fun character member => Nat.isDigit_of_mem_toDigits (by decide) (by decide) member
  obtain ⟨equal, remaining⟩ :=
    append_inj_of_run (digits first) (digits second) follows alsoFollows same
  have value := congrArg (fun digits => Nat.ofDigitChars 10 digits 0) equal
  simp only [Nat.ofDigitChars_ten_toDigits] at value
  exact ⟨value, remaining⟩

/-! ## Quoted text -/

/-- The value of a hexadecimal digit. -/
def hexDigit (digit : Char) : Nat :=
  if digit.isDigit then digit.toNat - '0'.toNat else digit.toNat - 'a'.toNat + 10

/-- The number that hexadecimal digits stand for. -/
def hexValue (digits : List Char) : Nat :=
  digits.foldl (fun value digit => 16 * value + hexDigit digit) 0

/-- The first character of escaped text and what stands behind it.  A bare quotation mark is not
part of the text, and a backslash never stands for itself. -/
def readCharacter? : List Char → Option (Char × List Char)
  | '\\' :: '0' :: rest => some ('\x00', rest)
  | '\\' :: 't' :: rest => some ('\t', rest)
  | '\\' :: 'r' :: rest => some ('\r', rest)
  | '\\' :: 'n' :: rest => some ('\n', rest)
  | '\\' :: '\\' :: rest => some ('\\', rest)
  | '\\' :: '"' :: rest => some ('"', rest)
  | '\\' :: 'u' :: '\x7b' :: rest =>
      some (Char.ofNat (hexValue (rest.takeWhile (· != '\x7d'))),
        (rest.dropWhile (· != '\x7d')).tail)
  | '\\' :: _ => none
  | '"' :: _ => none
  | character :: rest => some (character, rest)
  | [] => none

theorem hexDigit_digitChar : ∀ digit < 16, hexDigit (Nat.digitChar digit) = digit := by decide

theorem hexValue_toDigits (number : Nat) : hexValue (Nat.toDigits 16 number) = number := by
  induction number using Nat.strongRecOn with
  | _ number inductionHypothesis =>
      rcases Nat.lt_or_ge number 16 with small | large
      · rw [Nat.toDigits_of_lt_base small]
        simp [hexValue, hexDigit_digitChar number small]
      · have shorter : number / 16 < number := Nat.div_lt_self (by omega) (by decide)
        have last := hexDigit_digitChar (number % 16) (Nat.mod_lt _ (by decide))
        have leading := inductionHypothesis _ shorter
        unfold hexValue at leading ⊢
        rw [Nat.toDigits_of_base_le (by decide) large, List.foldl_append, leading]
        simp only [List.foldl_cons, List.foldl_nil, last]
        exact Nat.div_add_mod number 16

/-- A number is written with digits only. -/
theorem exists_digitChar_of_mem_toDigits {base : Nat} (positional : 1 < base) {number : Nat}
    {character : Char} (member : character ∈ Nat.toDigits base number) :
    ∃ digit, character = Nat.digitChar digit := by
  induction number using Nat.strongRecOn with
  | _ number inductionHypothesis =>
      rcases Nat.lt_or_ge number base with small | large
      · rw [Nat.toDigits_of_lt_base small, List.mem_singleton] at member
        exact ⟨number, member⟩
      · have shorter : number / base < number := Nat.div_lt_self (by omega) positional
        rw [Nat.toDigits_of_base_le positional large] at member
        rcases List.mem_append.mp member with leading | last
        · exact inductionHypothesis _ shorter leading
        · exact ⟨_, List.mem_singleton.mp last⟩

theorem readCharacter?_codePointEscape (character : Char) (rest : List Char) :
    readCharacter? (codePointEscape character ++ rest) = some (character, rest) := by
  have digits : ∀ digit ∈ Nat.toDigits 16 character.toNat, (digit != '\x7d') = true := by
    intro digit member
    obtain ⟨value, rfl⟩ := exists_digitChar_of_mem_toDigits (by decide) member
    exact bne_iff_ne.mpr (Nat.digitChar_ne '\x7d' rfl)
  have whole : codePointEscape character ++ rest
      = '\\' :: 'u' :: '\x7b' :: (Nat.toDigits 16 character.toNat ++ '\x7d' :: rest) := by
    simp [codePointEscape]
  rw [whole, readCharacter?, List.takeWhile_append_of_pos digits,
    List.dropWhile_append_of_pos digits, List.takeWhile_cons_of_neg (by decide),
    List.dropWhile_cons_of_neg (by decide), List.append_nil, hexValue_toDigits, Char.ofNat_toNat]
  rfl

/-- Every escaped character can be read back, whatever follows it. -/
theorem readCharacter?_escapeCharacter (character : Char) (rest : List Char) :
    readCharacter? (escapeCharacter character ++ rest) = some (character, rest) := by
  unfold escapeCharacter
  split
  case isTrue null => rw [null]; rfl
  split
  case isTrue tab => rw [tab]; rfl
  split
  case isTrue carriage => rw [carriage]; rfl
  split
  case isTrue feed => rw [feed]; rfl
  split
  case isTrue backslash => rw [backslash]; rfl
  split
  case isTrue mark => rw [mark]; rfl
  split
  case isTrue => exact readCharacter?_codePointEscape character rest
  case isFalse backslash mark _ =>
    unfold readCharacter?
    split <;> simp_all

/-- Escaped text goes on up to the first bare quotation mark. -/
theorem escape_append_inj {text other rest remaining : List Char}
    (same : escape text ++ '"' :: rest = escape other ++ '"' :: remaining) :
    text = other ∧ rest = remaining := by
  have inside (character : Char) (later rest : List Char) :
      readCharacter? (escape (character :: later) ++ '"' :: rest)
        = some (character, escape later ++ '"' :: rest) := by
    rw [escape, List.flatMap_cons, List.append_assoc]
    exact readCharacter?_escapeCharacter character _
  have ended (rest : List Char) : readCharacter? (escape [] ++ '"' :: rest) = none := rfl
  have read := congrArg readCharacter? same
  induction text generalizing other with
  | nil =>
      cases other with
      | nil => exact ⟨rfl, List.tail_eq_of_cons_eq same⟩
      | cons character later =>
          rw [ended, inside] at read
          cases read
  | cons character later inductionHypothesis =>
      cases other with
      | nil =>
          rw [inside, ended] at read
          cases read
      | cons another following =>
          rw [inside, inside, Option.some.injEq, Prod.mk.injEq] at read
          obtain ⟨rfl, onward⟩ := read
          obtain ⟨rfl, remaining⟩ := inductionHypothesis onward (congrArg readCharacter? onward)
          exact ⟨rfl, remaining⟩

theorem legible_quoted : Legible quoted Anything := by
  intro first second rest other _ _ same
  have spelled (text : String) (rest : List Char) :
      (quoted text).toList ++ rest = '"' :: (escape text.toList ++ '"' :: rest) := by
    rw [quoted, String.toList_ofList]
    simp
  rw [spelled, spelled] at same
  obtain ⟨equal, remaining⟩ := escape_append_inj (List.tail_eq_of_cons_eq same)
  exact ⟨String.toList_injective equal, remaining⟩

/-! ## Values that may be absent -/

/-- A closing bracket ends the value, and an absent value begins with another letter. -/
theorem legible_optional {α : Type} {form : α → String} {MayFollow : List Char → Prop}
    (legible : Legible form MayFollow) (closes : ∀ rest, MayFollow (')' :: rest)) :
    Legible (optional form) Anything := by
  have present : Legible (fun value => "Some(" ++ form value ++ ")") Anything :=
    (legible.behind "Some(").before ")" closes
  have differs (value : α) (rest other : List Char) :
      (optional form none).toList ++ rest ≠ (optional form (some value)).toList ++ other := by
    intro same
    simp only [optional, String.toList_append, List.append_assoc] at same
    exact absurd (congrArg List.head? same) (by simp)
  intro first second rest other follows alsoFollows same
  cases first with
  | none =>
      cases second with
      | none => exact ⟨rfl, List.append_cancel_left same⟩
      | some value => exact absurd same (differs value rest other)
  | some value =>
      cases second with
      | none => exact absurd same.symm (differs value other rest)
      | some another =>
          obtain ⟨rfl, remaining⟩ := present follows alsoFollows same
          exact ⟨rfl, remaining⟩

end BoundedScene.Text
