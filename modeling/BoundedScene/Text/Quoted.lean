import BoundedScene.Text.Unprintable
import BoundedScene.Text.Combining

/-!
Contract: the quoted form in which messages and log lines show free text.

Owns:
- the escape of one character;
- the quoted form of a text and of a text that may be absent.

Quoted text holds no line feed, no carriage return and no bare quotation mark,
so it stays on one line and its closing mark can be found.

Does not own: the tables of characters that need an escape, and the messages
and lines that contain quoted text.
-/

namespace BoundedScene.Text

/-- The escape of a character by its code point, in lower case hexadecimal. -/
def codePointEscape (character : Char) : List Char :=
  ['\\', 'u', '\x7b'] ++ Nat.toDigits 16 character.toNat ++ ['\x7d']

/-- How one character stands between quotation marks.

Six characters have a short escape.  A combining character would merge with
what stands before it and an unprintable one would vanish, so both are written
by code point.  Every other character stands for itself, the apostrophe too. -/
def escapeCharacter (character : Char) : List Char :=
  if character = '\x00' then ['\\', '0']
  else if character = '\t' then ['\\', 't']
  else if character = '\r' then ['\\', 'r']
  else if character = '\n' then ['\\', 'n']
  else if character = '\\' then ['\\', '\\']
  else if character = '"' then ['\\', '"']
  else if isCombining character || isUnprintable character then codePointEscape character
  else [character]

/-- The characters of a text, each in its escaped form. -/
def escape (characters : List Char) : List Char :=
  characters.flatMap escapeCharacter

/-- The text between quotation marks, escaped. -/
def quoted (text : String) : String :=
  String.ofList ('"' :: escape text.toList ++ ['"'])

/-- A value that may be absent: `None`, or `Some` around the form of the value. -/
def optional {α : Type} (form : α → String) : Option α → String
  | none => "None"
  | some value => "Some(" ++ form value ++ ")"

end BoundedScene.Text
