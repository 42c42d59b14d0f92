import Destructure.Text.Property

set_option autoImplicit false

/-! # Quoted text

Two ways of writing a text between double quotes. `Text.quoted` is the descriptive form of debug
output: characters that would not show are written by their code. `Text.dataQuoted` is the form of
data texts: only quotes, backslashes and control characters are escaped. -/

namespace Destructure.Text

/-- Hexadecimal digits of a code point, lower case, no leading zeros. -/
def hexDigits (n : Nat) : List Char := Nat.toDigits 16 n

/-- A character in the descriptive form. -/
def describeChar (c : Char) : List Char :=
  match c with
  | '\x00' => ['\\', '0']
  | '\t' => ['\\', 't']
  | '\r' => ['\\', 'r']
  | '\n' => ['\\', 'n']
  | '"' => ['\\', '"']
  | '\\' => ['\\', '\\']
  | c =>
    if Property.isExtender c || !Property.isPrintable c then
      '\\' :: 'u' :: '\x7b' :: hexDigits c.toNat ++ ['\x7d']
    else [c]

/-- A text in the descriptive form, with its quotes. -/
def quoted (s : String) : String :=
  String.ofList ('"' :: s.toList.flatMap describeChar ++ ['"'])

/-- A character in the data form. -/
def dataChar (c : Char) : List Char :=
  match c with
  | '"' => ['\\', '"']
  | '\\' => ['\\', '\\']
  | '\x08' => ['\\', 'b']
  | '\x0c' => ['\\', 'f']
  | '\n' => ['\\', 'n']
  | '\r' => ['\\', 'r']
  | '\t' => ['\\', 't']
  | c =>
    if c.toNat < 0x20 then
      let digits := hexDigits c.toNat
      '\\' :: 'u' :: List.replicate (4 - digits.length) '0' ++ digits
    else [c]

/-- A text in the data form, with its quotes. -/
def dataQuoted (s : String) : String :=
  String.ofList ('"' :: s.toList.flatMap dataChar ++ ['"'])

end Destructure.Text
