import Clickstream.Traffic.Generation

/-! What a draw can do: an outcome is possible if some words lead to it, whatever words come before and
after them. -/
namespace Clickstream

namespace RandomSource

/-- After so many words, these come next in the source. -/
def Offers (source : RandomSource) : Nat → List UInt64 → Prop
  | _, [] => True
  | used, w :: words =>
    used < source.count ∧ source.word used = w ∧ source.Offers (used + 1) words

theorem offers_append {source : RandomSource} {used : Nat} {words words' : List UInt64} :
    source.Offers used (words ++ words') ↔
      source.Offers used words ∧ source.Offers (used + words.length) words' := by
  induction words generalizing used with
  | nil => exact (and_iff_right trivial).symm
  | cons w words ih =>
    rw [List.cons_append, Offers, Offers, ih, List.length_cons, Nat.add_assoc, Nat.add_comm 1,
      and_assoc, and_assoc]

theorem scripted_offers (before words : List UInt64) (seed : UInt64) :
    (scripted (before ++ words).toArray seed (before ++ words).length).Offers before.length words := by
  induction words generalizing before with
  | nil => trivial
  | cons w words ih =>
    have here : before.length < (before ++ w :: words).length := by simp
    refine ⟨here, ?_, ?_⟩
    · simp [scripted]
    · simpa using ih (before ++ [w])

end RandomSource

namespace Draw
variable {α β : Type} {d : Draw α} {next : α → Draw β} {a : α} {fault : GenerationFault}

/-- Some words lead to this outcome wherever in a source they come, and are all used up. -/
def Can (d : Draw α) (outcome : Except GenerationFault α) : Prop :=
  ∃ words, ∀ source used, RandomSource.Offers source used words →
    d source used = outcome.map (·, used + words.length)

namespace Can

theorem pure (a : α) : Can (Pure.pure a) (.ok a) := ⟨[], fun _ _ _ => rfl⟩

theorem fail (fault : GenerationFault) : Can (Draw.fail fault : Draw α) (.error fault) :=
  ⟨[], fun _ _ _ => rfl⟩

theorem bind {outcome : Except GenerationFault β} (first : Can d (.ok a))
    (then_ : Can (next a) outcome) : Can (d >>= next) outcome := by
  obtain ⟨words, leads⟩ := first
  obtain ⟨words', leads'⟩ := then_
  refine ⟨words ++ words', fun source used offered => ?_⟩
  obtain ⟨offered, offered'⟩ := RandomSource.offers_append.mp offered
  have drawn : (d >>= next) source used = next a source (used + words.length) := by
    simp only [Bind.bind, ReaderT.bind, StateT.bind, leads source used offered, Except.map, Except.bind]
  rw [drawn, leads' source _ offered', List.length_append, Nat.add_assoc]

/-- Nothing is drawn after a fault. -/
theorem stop (first : Can d (.error fault)) : Can (d >>= next) (.error fault) := by
  obtain ⟨words, leads⟩ := first
  refine ⟨words, fun source used offered => ?_⟩
  simp only [Bind.bind, ReaderT.bind, StateT.bind, leads source used offered, Except.map, Except.bind]

/-- What is possible happens with a source that has the right words and no others. -/
theorem happens {outcome : Except GenerationFault α} (can : Can d outcome) :
    ∃ source, (d.run source 0).map Prod.fst = outcome := by
  obtain ⟨words, leads⟩ := can
  refine ⟨.scripted words.toArray 0 words.length, ?_⟩
  have drawn : d _ 0 = _ := leads _ 0 (RandomSource.scripted_offers [] words 0)
  rw [List.nil_append] at drawn
  rw [ReaderT.run, drawn]
  cases outcome <;> rfl

end Can

section Shares
variable {width n : Nat}

private theorem share?_eq_some {word rest : Nat} (k : Fin n)
    (product : word % (1 <<< width) * n = k * (1 <<< width) + rest) (below : rest < n)
    (fits : rest < 1 <<< width) : share? width n word = some k := by
  have share : word % (1 <<< width) * n / (1 <<< width) = k := by
    rw [product, Nat.mul_comm, Nat.mul_add_div (by omega), Nat.div_eq_of_lt fits, Nat.add_zero]
  have left : word % (1 <<< width) * n % (1 <<< width) = rest := by
    rw [product, Nat.mul_comm, Nat.mul_add_mod, Nat.mod_eq_of_lt fits]
  have accepted : rest < n <<< (width - 1 - n.log2) :=
    Nat.lt_of_lt_of_le below (Nat.le_shiftLeft ..)
  unfold share?
  simp only [share, left]
  rw [dif_pos k.isLt, if_pos accepted]

theorem below_can {word : UInt64} {k : Fin n} (share : share? width n word.toNat = some k) :
    Can (below width n) (.ok k) := by
  refine ⟨[word], fun source used offered => ?_⟩
  obtain ⟨inside, rfl, -⟩ := offered
  obtain ⟨fuel, more⟩ := Nat.exists_eq_add_of_lt inside
  have left : source.count - used = fuel + 1 := by omega
  rw [below, left, search, share]
  rfl

theorem below_zero (positive : 0 < n) : Can (below width n) (.ok ⟨0, positive⟩) := by
  have share : share? width n (0 : UInt64).toNat = some ⟨0, positive⟩ := by
    refine share?_eq_some ⟨0, positive⟩ (by simp) positive ?_
    rw [Nat.one_shiftLeft]
    exact Nat.two_pow_pos width
  exact below_can share

/-- Every number below `n` has a share of the words, unless there are more numbers than words. -/
theorem below_any (few : n ≤ UInt64.size) (k : Fin n) : Can (below 64 n) (.ok k) := by
  have positive : 0 < n := Nat.zero_lt_of_lt k.isLt
  let word := (k * UInt64.size + (n - 1)) / n
  obtain ⟨rest, below, product⟩ : ∃ rest < n, word * n = k * UInt64.size + rest := by
    obtain ⟨left, inside, parts⟩ : ∃ left < n, n * word + left = k * UInt64.size + (n - 1) :=
      ⟨_, Nat.mod_lt _ positive, Nat.div_add_mod _ _⟩
    exact ⟨n - 1 - left, by omega, by rw [Nat.mul_comm]; omega⟩
  have room : word < UInt64.size := by
    have top : (k + 1) * UInt64.size ≤ n * UInt64.size := Nat.mul_le_mul_right _ k.isLt
    rw [Nat.succ_mul, Nat.mul_comm n] at top
    refine Nat.lt_of_not_le fun beyond => ?_
    have past : UInt64.size * n ≤ word * n := Nat.mul_le_mul_right _ beyond
    omega
  have read : (UInt64.ofNat word).toNat = word := UInt64.toNat_ofNat_of_lt' room
  have share : share? 64 n (UInt64.ofNat word).toNat = some k := by
    have size : 1 <<< 64 = UInt64.size := by decide
    refine share?_eq_some k ?_ below (size ▸ Nat.lt_of_lt_of_le below few)
    rw [read, size, Nat.mod_eq_of_lt room, product]
  exact below_can share

end Shares

theorem pick_first {items : Array α} (some_ : 0 < items.size) : Can (pick items) (.ok items[0]) :=
  (below_zero some_).bind (.pure _)

theorem pick_any {items : Array α} (few : items.size ≤ UInt64.size) {i : Nat} (h : i < items.size) :
    Can (pick items) (.ok items[i]) :=
  (below_any few ⟨i, h⟩).bind (.pure _)

end Draw
end Clickstream
