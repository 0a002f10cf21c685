import Clickstream.Text.Printable

/-! Texts quoted for a reader: double quotes around, and an escape for whatever would not show. -/
namespace Clickstream.Text

/-- A number in lower-case hexadecimal digits, with no leading zeros. -/
def hexText (n : Nat) : List Char := Nat.toDigits 16 n

/-- One character inside the quotes; the single quote needs no escape there. -/
def escapeShown (c : Char) : List Char :=
  match c with
  | '\x00' => ['\\', '0']
  | '\t' => ['\\', 't']
  | '\r' => ['\\', 'r']
  | '\n' => ['\\', 'n']
  | '"' => ['\\', '"']
  | '\\' => ['\\', '\\']
  | _ => if isPrintable c then [c] else ['\\', 'u', '\x7b'] ++ hexText c.toNat ++ ['\x7d']

/-- The text in double quotes. -/
def quoted (s : String) : String :=
  String.ofList (['"'] ++ s.toList.flatMap escapeShown ++ ['"'])

end Clickstream.Text
