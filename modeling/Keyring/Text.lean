/-
Module: Keyring.Text
Purpose: The ways in which numbers and names are fitted into a line of text: filled up to a width,
  in hexadecimal digits, and without the characters that a terminal takes for commands.
Main exports: padLeft, padRight, hex, escapeControls
-/

namespace Keyring.Text

/-- Fill with `fill` on the left up to `width` characters; a longer text stays as it is. -/
def padLeft (fill : Char) (width : Nat) (text : String) : String :=
  "".pushn fill (width - text.length) ++ text

/-- Fill with blanks on the right up to `width` characters; a longer text stays as it is. -/
def padRight (width : Nat) (text : String) : String :=
  text.pushn ' ' (width - text.length)

/-- The lowercase hexadecimal digits of a number, without leading zeros. -/
def hex (n : Nat) : String :=
  String.ofList (Nat.toDigits 16 n)

/-- The ASCII characters that begin or end a command to a terminal, or erase: escape, bell,
backspace, form feed and delete. -/
def terminalControls : List Char := ['\x1b', '\x07', '\x08', '\x0c', '\x7f']

/-- Whether a character is one of the second block of control characters, each of which may stand
for an escape and the character that follows it. -/
def isSecondControl (c : Char) : Bool :=
  0x80 ≤ c.toNat && c.toNat ≤ 0x9f

/-- A character as it is written to a terminal: one that would be taken for a command is named by
its code. -/
def escapeControl (c : Char) : String :=
  if terminalControls.contains c then "\\x" ++ padLeft '0' 2 (hex c.toNat)
  else if isSecondControl c then "\\u\x7b" ++ hex c.toNat ++ "\x7d"
  else c.toString

/-- A text as it is written to a terminal. -/
def escapeControls (text : String) : String :=
  String.join (text.toList.map escapeControl)

end Keyring.Text
