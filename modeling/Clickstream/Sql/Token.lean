/-! The tokens of SQL text. Blanks and comments are no tokens. -/
namespace Clickstream.Sql

/-- The ways to write a string. -/
inductive Quoting where
  | single
  | escaped
  | unicode
  | national
  | hexadecimal
  | dollar
  deriving DecidableEq

inductive Token where
  /-- A name or keyword. The key is its upper case, and empty for a name in double quotes. -/
  | word (text key : String) (quoted : Bool)
  /-- A number; it is long if a letter `L` ends it. -/
  | number (text : String) (long : Bool)
  | string (quoting : Quoting) (text : String)
  | placeholder (text : String)
  /-- Punctuation, or an operator of the language. -/
  | mark (text : String)
  /-- Any other run of operator characters. -/
  | custom (text : String)
  /-- A character that begins no token. -/
  | stray (c : Char)
  deriving DecidableEq

namespace Token

/-- The token is this keyword, given in upper case. -/
def isKeyword (key : String) : Token → Bool
  | .word _ k _ => k == key
  | _ => false

def isMark (text : String) : Token → Bool
  | .mark t => t == text
  | _ => false

end Token
end Clickstream.Sql
