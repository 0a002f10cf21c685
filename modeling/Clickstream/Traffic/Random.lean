import Clickstream.Number.Binary64

/-! Drawing from a random source. A source is a finite sequence of words; a draw that is not
accepted takes further words until there are none left. That the words are random is not
asserted here. -/
namespace Clickstream

/-- The first `count` words of an endless sequence. -/
structure RandomSource where
  word : Nat → UInt64
  count : Nat

/-- Why generation stops before its end. -/
inductive GenerationFault where
  /-- The source has no words left. -/
  | exhausted
  /-- An instant lies past the end of the calendar. -/
  | outOfCalendar
  deriving DecidableEq

/-- Actions that use up words; the state is the number of words used. -/
abbrev Draw := ReaderT RandomSource (StateT Nat (Except GenerationFault))

namespace Draw

def fail {α : Type} (fault : GenerationFault) : Draw α := fun _ _ => .error fault

/-- A value or, where there is none, a fault. -/
def orFail {α : Type} (fault : GenerationFault) : Option α → Draw α
  | some a => return a
  | none => fail fault

/-- The next word. -/
def word : Draw UInt64 := fun source used =>
  if used < source.count then .ok (source.word used, used + 1) else .error .exhausted

/-- The number below `n` that the low `width` bits of a word stand for: the word's share of `n`,
if its rest lies within the greatest multiple of `n` by a power of two. -/
def share? (width n : Nat) (word : Nat) : Option (Fin n) :=
  let size := 1 <<< width
  let product := word % size * n
  if h : product / size < n then
    if product % size < n <<< (width - 1 - n.log2) then some ⟨product / size, h⟩ else none
  else none

/-- The first share among the words from the position on, and the position after it. -/
def search (source : RandomSource) (width n : Nat) : Nat → Nat → Except GenerationFault (Fin n × Nat)
  | 0, _ => .error .exhausted
  | fuel + 1, used =>
    match share? width n (source.word used).toNat with
    | some k => .ok (k, used + 1)
    | none => search source width n fuel (used + 1)

/-- A number below `n` from words of `width` bits. -/
def below (width n : Nat) : Draw (Fin n) := fun source used =>
  search source width n (source.count - used) used

/-- A number below one, of 53 bits. -/
def unit : Draw Binary64 := do
  return .round false ((← word).toNat >>> 11) (1 <<< 53)

/-- One of the items. A single item still takes a word. -/
def pick {α : Type} (items : Array α) : Draw α := do
  return items[← below 64 items.size]

end Draw

namespace RandomSource

/-- A sequence of well-mixed words that depends on nothing but its seed. Word `n` is a mix of
`seed + (n + 1) · γ`, so that any word can be had without those before it. -/
def splitMix (seed : UInt64) (n : Nat) : UInt64 :=
  let z := seed + (n + 1).toUInt64 * 0x9E3779B97F4A7C15
  let z := (z ^^^ (z >>> 30)) * 0xBF58476D1CE4E5B9
  let z := (z ^^^ (z >>> 27)) * 0x94D049BB133111EB
  z ^^^ (z >>> 31)

/-- Given words first, then those that a seed gives. -/
def scripted (words : Array UInt64) (seed : UInt64) (count : Nat) : RandomSource where
  word n := if h : n < words.size then words[n] else splitMix seed (n - words.size)
  count := count

end RandomSource
end Clickstream
