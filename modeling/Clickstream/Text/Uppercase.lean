/-! Comparison of words with ASCII words without regard to case.
Only the characters whose upper-case form is ASCII change; no other can match an ASCII word. -/
namespace Clickstream.Text

/-- The upper-case form of a character where that form is ASCII, else the character itself. -/
def upperChar (c : Char) : List Char :=
  if 'a' ≤ c && c ≤ 'z' then [Char.ofNat (c.toNat - 32)]
  else if c.toNat < 128 then [c]
  else
    match c with
    | 'ß' => ['S', 'S']
    | 'ı' => ['I']
    | 'ſ' => ['S']
    | 'ﬀ' => ['F', 'F']
    | 'ﬁ' => ['F', 'I']
    | 'ﬂ' => ['F', 'L']
    | 'ﬃ' => ['F', 'F', 'I']
    | 'ﬄ' => ['F', 'F', 'L']
    | 'ﬅ' => ['S', 'T']
    | 'ﬆ' => ['S', 'T']
    | _ => [c]

/-- The text in upper case, as far as a comparison with an ASCII word can tell. -/
def upper (s : String) : String := String.ofList (s.toList.flatMap upperChar)

/-- Lower case of the ASCII letters only. -/
def lowerAscii (s : String) : String := String.ofList (s.toList.map Char.toLower)

/-- Equality up to the case of ASCII letters. -/
def sameAscii (a b : String) : Bool := lowerAscii a == lowerAscii b

end Clickstream.Text
