import CachedDirectory.Text.PrintTable

/-!
# Quoted text

Diagnostic messages show a text between double quotes. What could not be read on
a terminal is escaped: the quote and the backslash, controls, marks that would
attach to the quote, and every character without a visible form.
-/

namespace CachedDirectory.Text

/-- The hexadecimal digits of a number, lower case and without leading zeros. -/
def hexDigits (n : Nat) : List Char :=
  Nat.toDigits 16 n

/-- A character by its code point, as in `\u{e9}`. -/
def codeEscape (c : Char) : List Char :=
  ['\\', 'u', '\x7b'] ++ hexDigits c.toNat ++ ['\x7d']

/-- One character of a quoted text. -/
def quoteChar (c : Char) : List Char :=
  match c with
  | '\x00' => ['\\', '0']
  | '\t' => ['\\', 't']
  | '\r' => ['\\', 'r']
  | '\n' => ['\\', 'n']
  | '\\' => ['\\', '\\']
  | '"' => ['\\', '"']
  | _ =>
      if inRanges graphemeExtendRanges c.toNat ||
        inRanges unprintableRanges c.toNat then
        codeEscape c
      else
        [c]

/-- The text between double quotes, escaped. -/
def quoted (text : String) : String :=
  String.ofList ('"' :: text.toList.flatMap quoteChar ++ ['"'])

end CachedDirectory.Text
