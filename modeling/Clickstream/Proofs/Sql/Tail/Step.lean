import Clickstream.Proofs.Sql.Tail.Basic

/-! Single steps with a tail after them: words, marks and parentheses. -/
namespace Clickstream.Sql
open Sql.Parser

section Results
variable (test : Token → Bool) (token : Token) (rest : List Token)

@[simp] theorem Parser.pass?_nil : pass? test [] = some (false, []) := rfl

@[simp] theorem Parser.pass?_cons : pass? test (token :: rest) =
    if test token then some (true, rest) else some (false, token :: rest) := by
  change (if test token then _ else _ : Parser Bool) (token :: rest) = _
  split <;> rfl

theorem Parser.pass?_bind_cons {α : Type} (f : Bool → Parser α) :
    (pass? test >>= f) (token :: rest) =
      if test token then f true rest else f false (token :: rest) := by
  change (pass? test (token :: rest)).bind (fun x => f x.1 x.2) = _
  rw [pass?_cons]
  split <;> rfl

theorem Parser.mark?_bind_other {α : Type} {text : String} {ys : List Token}
    (other : ys.head? ≠ some (.mark text)) (f : Bool → Parser α) :
    (mark? text >>= f) ys = f false ys := by
  cases ys with
  | nil => rfl
  | cons t ys =>
    refine (pass?_bind_cons (Token.isMark text) t ys f).trans (if_neg fun is => other ?_)
    cases t <;> simp_all [Token.isMark]

@[simp] theorem Parser.next_nil : next [] = none := rfl

@[simp] theorem Parser.next_cons : next (token :: rest) = some (token, rest) := rfl

@[simp] theorem Parser.peek?_eq (ys : List Token) : peek? ys = some (ys.head?, ys) := rfl

@[simp] theorem Parser.peekAt?_eq (k : Nat) (ys : List Token) :
    peekAt? k ys = some (ys[k]?, ys) := rfl

end Results

/-- The first token of a tail is a comma or the word `FROM`. -/
theorem Tail.head (v : Tail) :
    ∃ t rest, v.tokens = t :: rest ∧ (t = .mark "," ∨ t = .word "FROM" "FROM" false) := by
  rcases v.starts with ⟨rest, h⟩ | ⟨rest, h⟩
  · exact ⟨_, _, h, .inl rfl⟩
  · exact ⟨_, _, h, .inr rfl⟩

/-- What holds of a comma and of the words `FROM events` holds of the first tokens of a tail. -/
@[elab_as_elim]
theorem Tail.cases_start {v : Tail} {motive : Token → List Token → Prop} {t : Token} {rest : List Token}
    (h : v.tokens = t :: rest) (comma : ∀ rest, motive (.mark ",") rest)
    (from_ : ∀ rest, motive (.word "FROM" "FROM" false) (.word "events" "EVENTS" false :: rest)) :
    motive t rest := by
  rcases v.starts with ⟨rest', h'⟩ | ⟨rest', h'⟩
  · obtain ⟨rfl, rfl⟩ := List.cons.inj (h'.symm.trans h)
    exact comma rest'
  · obtain ⟨rfl, rfl⟩ := List.cons.inj (h'.symm.trans h)
    exact from_ rest'

theorem Tail.head_isKeyword (v : Tail) (key : String) (other : key ≠ "FROM") :
    ∃ t rest, v.tokens = t :: rest ∧ t.isKeyword key = false := by
  obtain ⟨t, rest, h, rfl | rfl⟩ := v.head
  · exact ⟨_, rest, h, rfl⟩
  · exact ⟨_, rest, h, by simpa [Token.isKeyword] using other.symm⟩

theorem Tail.head_isMark (v : Tail) (text : String) (other : text ≠ ",") :
    ∃ t rest, v.tokens = t :: rest ∧ t.isMark text = false := by
  obtain ⟨t, rest, h, rfl | rfl⟩ := v.head
  · exact ⟨_, rest, h, by simpa [Token.isMark] using other.symm⟩
  · exact ⟨_, rest, h, rfl⟩

theorem Token.eq_of_isMark {text : String} {t : Token} (is : t.isMark text = true) :
    t = .mark text := by
  cases t <;> simp_all [Token.isMark]

section Steps
variable {α : Type} {v : Tail} {n d e : Nat} {firm : Prop}

/-- A token that is passed if it satisfies the test, and what is read then. At the end of the tokens
the tail must not satisfy it, or nothing is read. -/
theorem Extends.pass?_bind {test : Token → Bool} {f g : Bool → Parser α}
    (after : d = 0 → (∃ t rest, v.tokens = t :: rest ∧ test t = false) ∨ ¬ firm ∧ f false [] = none)
    (yes : ∀ t rest, test t = true → tidy d (t :: rest) = true →
      ∃ c, tidy c rest = true ∧ Extends v n firm c e (f true) (g true))
    (no : Extends v (n + 1) firm d e (f false) (g false)) :
    Extends v (n + 1) firm d e (pass? test >>= f) (pass? test >>= g) where
  reads {ys a r} short ok read := by
    obtain ⟨b, ys', passed, next⟩ := bind_some.mp read
    cases ys with
    | nil =>
      obtain ⟨rfl, rfl⟩ : false = b ∧ [] = ys' := by simpa using passed
      rcases after (tidy_nil.mp ok) with ⟨t, rest, h, other⟩ | ⟨-, stuck⟩
      · obtain ⟨next', shorter, ok'⟩ := no.reads short ok next
        refine ⟨bind_some.mpr ⟨false, _, ?_, next'⟩, shorter, ok'⟩
        simp [h, other]
      · rw [stuck] at next
        cases next
    | cons t rest =>
      rw [pass?_cons] at passed
      cases is : test t with
      | true =>
        obtain ⟨rfl, rfl⟩ : true = b ∧ rest = ys' := by simpa [is] using passed
        obtain ⟨c, ok', h⟩ := yes t rest is ok
        simp only [List.length_cons, Nat.add_lt_add_iff_right] at short
        obtain ⟨next', shorter, ok''⟩ := h.reads short ok' next
        refine ⟨bind_some.mpr ⟨true, _, ?_, next'⟩, Nat.le_succ_of_le shorter, ok''⟩
        rw [List.cons_append, pass?_cons, if_pos is]
      | false =>
        obtain ⟨rfl, rfl⟩ : false = b ∧ t :: rest = ys' := by simpa [is] using passed
        obtain ⟨next', shorter, ok'⟩ := no.reads short ok next
        refine ⟨bind_some.mpr ⟨false, _, ?_, next'⟩, shorter, ok'⟩
        rw [List.cons_append, pass?_cons, if_neg (by simp [is])]
  fails strict ys short ok stuck := by
    rw [bind_none] at stuck ⊢
    rintro b ys' passed
    cases ys with
    | nil =>
      rcases after (tidy_nil.mp ok) with ⟨t, rest, h, other⟩ | ⟨loose, -⟩
      · obtain ⟨rfl, rfl⟩ : false = b ∧ v.tokens = ys' := by simpa [h, other] using passed
        exact no.fails strict short ok (stuck false [] (by simp))
      · exact absurd strict loose
    | cons t rest =>
      rw [List.cons_append, pass?_cons] at passed
      cases is : test t with
      | true =>
        obtain ⟨rfl, rfl⟩ : true = b ∧ rest ++ v.tokens = ys' := by simpa [is] using passed
        obtain ⟨c, ok', h⟩ := yes t rest is ok
        simp only [List.length_cons, Nat.add_lt_add_iff_right] at short
        exact h.fails strict short ok' (stuck true rest (by simp [is]))
      | false =>
        obtain ⟨rfl, rfl⟩ : false = b ∧ t :: rest ++ v.tokens = ys' := by simpa [is] using passed
        exact no.fails strict short ok (stuck false (t :: rest) (by simp [is]))

/-- A next token of any kind, and what is read then. -/
theorem Extends.next_bind {f g : Token → Parser α}
    (after : d = 0 → firm → ∀ t rest, v.tokens = t :: rest → g t rest = none)
    (opens : Extends v n firm (d + 1) e (f (.mark "(")) (g (.mark "(")))
    (closes : ∀ c, d = c + 1 → Extends v n firm c e (f (.mark ")")) (g (.mark ")")))
    (other : ∀ t, t ≠ .mark "(" → t ≠ .mark ")" → (∀ key ∈ looseWords, t.isKeyword key = false) →
      Extends v n firm d e (f t) (g t)) :
    Extends v (n + 1) firm d e (next >>= f) (next >>= g) := by
  have each : ∀ t rest, tidy d (t :: rest) = true →
      ∃ c, tidy c rest = true ∧ Extends v n firm c e (f t) (g t) := by
    intro t rest ok
    by_cases open_ : t = .mark "("
    · subst open_
      exact ⟨d + 1, tidy_open ok, opens⟩
    · by_cases close_ : t = .mark ")"
      · subst close_
        cases d with
        | zero => simp [not_tidy_close] at ok
        | succ c => exact ⟨c, tidy_close ok, closes c rfl⟩
      · exact ⟨d, tidy_other ok open_ close_, other t open_ close_ fun _ => tidy_word ok⟩
  constructor
  · intro ys a r short ok read
    obtain ⟨t, ys', first, rest⟩ := bind_some.mp read
    cases ys with
    | nil => cases first
    | cons t' ys =>
      obtain ⟨rfl, rfl⟩ : t' = t ∧ ys = ys' := by simpa using first
      obtain ⟨c, ok', h⟩ := each t' ys ok
      simp only [List.length_cons, Nat.add_lt_add_iff_right] at short
      obtain ⟨rest', shorter, ok''⟩ := h.reads short ok' rest
      exact ⟨bind_some.mpr ⟨t', _, rfl, rest'⟩, Nat.le_succ_of_le shorter, ok''⟩
  · intro strict ys short ok stuck
    rw [bind_none] at stuck ⊢
    rintro t ys' first
    cases ys with
    | nil =>
      obtain ⟨t', rest, h, -⟩ := v.head
      rw [List.nil_append, h] at first
      obtain ⟨rfl, rfl⟩ : t' = t ∧ rest = ys' := by simpa using first
      exact after (tidy_nil.mp ok) strict _ _ h
    | cons t' ys =>
      obtain ⟨rfl, rfl⟩ : t' = t ∧ ys ++ v.tokens = ys' := by simpa using first
      obtain ⟨c, ok', h⟩ := each t' ys ok
      simp only [List.length_cons, Nat.add_lt_add_iff_right] at short
      exact h.fails strict short ok' (stuck t' ys rfl)

/-- Nothing can be said of fewer than no tokens. -/
theorem Extends.none_below {p q : Parser α} : Extends v 0 firm d e p q where
  reads short := absurd short (Nat.not_lt_zero _)
  fails _ _ short := absurd short (Nat.not_lt_zero _)

end Steps

section Primitives
variable {α β : Type} {v : Tail} {n d e : Nat} {firm : Prop} {test : Token → Bool}

/-- A test that parentheses do not satisfy, nor the head of the tail where no parenthesis is open. -/
structure Apart (v : Tail) (d : Nat) (test : Token → Bool) : Prop where
  head : d = 0 → ∃ t rest, v.tokens = t :: rest ∧ test t = false
  opens : test (.mark "(") = false
  closes : test (.mark ")") = false

theorem apart_keyword (key : String) (other : key ≠ "FROM") :
    Apart v d (Token.isKeyword key) :=
  ⟨fun _ => v.head_isKeyword key other, rfl, rfl⟩

theorem apart_mark (text : String) (other : text ∉ [",", "(", ")"]) :
    Apart v d (Token.isMark text) := by
  simp only [List.mem_cons, List.not_mem_nil, or_false, not_or] at other
  refine ⟨fun _ => v.head_isMark text other.1, ?_, ?_⟩
  · simpa [Token.isMark] using Ne.symm other.2.1
  · simpa [Token.isMark] using Ne.symm other.2.2

theorem apart_keyword_inside (key : String) : Apart v (d + 1) (Token.isKeyword key) :=
  ⟨fun h => absurd h (Nat.succ_ne_zero d), rfl, rfl⟩

theorem apart_comma_inside : Apart v (d + 1) (Token.isMark ",") :=
  ⟨fun h => absurd h (Nat.succ_ne_zero d), rfl, rfl⟩

theorem tidy_passed {t : Token} {rest : List Token} (opens : test (.mark "(") = false)
    (closes : test (.mark ")") = false) (is : test t = true) (ok : tidy d (t :: rest) = true) :
    tidy d rest = true := by
  refine tidy_other ok ?_ ?_ <;> rintro rfl <;> simp_all

/-- The strong form of passing: what is read after a token that was passed may rest on fewer tokens. -/
theorem Apart.pass?_bind (h : Apart v d test) {f g : Bool → Parser α}
    (yes : Extends v n firm d e (f true) (g true))
    (no : Extends v (n + 1) firm d e (f false) (g false)) :
    Extends v (n + 1) firm d e (pass? test >>= f) (pass? test >>= g) :=
  .pass?_bind (fun none_open => .inl (h.head none_open))
    (fun _ _ is ok => ⟨d, tidy_passed h.opens h.closes is ok, yes⟩) no

theorem Apart.pass? (h : Apart v d test) : Extends v n firm d d (pass? test) (pass? test) := by
  cases n with
  | zero => exact .none_below
  | succ n =>
    rw [← bind_pure (Parser.pass? test)]
    exact h.pass?_bind (.pure true) (.pure false)

theorem Firm.keyword? (key : String) (other : key ≠ "FROM") :
    Firm v n (keyword? key) (keyword? key) :=
  fun _ => (apart_keyword key other).pass?

theorem Firm.mark? (text : String) (other : text ∉ [",", "(", ")"]) :
    Firm v n (mark? text) (mark? text) :=
  fun _ => (apart_mark text other).pass?

theorem Inner.keyword? (key : String) : Inner v n (keyword? key) (keyword? key) :=
  fun _ => (apart_keyword_inside key).pass?

theorem Inner.comma? : Inner v n (mark? ",") (mark? ",") := fun _ => apart_comma_inside.pass?

/-- A token that must be passed. At the end of the tokens nothing is read. -/
theorem Extends.required (opens : test (.mark "(") = false) (closes : test (.mark ")") = false)
    (head : firm → Apart v d test) :
    Extends v n firm d d (do unless ← pass? test do Parser.fail)
      (do unless ← pass? test do Parser.fail) := by
  cases n with
  | zero => exact .none_below
  | succ n =>
    refine .pass?_bind (fun none_open => ?_)
      (fun _ _ is ok => ⟨d, tidy_passed opens closes is ok, .pure ()⟩) .fail
    by_cases strict : firm
    · exact .inl ((head strict).head none_open)
    · exact .inr ⟨strict, rfl⟩

theorem Firm.keyword (key : String) (other : key ≠ "FROM") :
    Firm v n (keyword key) (keyword key) :=
  fun _ => .required rfl rfl fun _ => apart_keyword key other

theorem Firm.mark (text : String) (other : text ∉ [",", "(", ")"]) :
    Firm v n (mark text) (mark text) := fun d =>
  have apart : Apart v d (Token.isMark text) := apart_mark text other
  .required apart.opens apart.closes fun _ => apart

theorem Steady.keyword (key : String) : Steady v n (keyword key) (keyword key) :=
  fun _ => .required rfl rfl fun inside => ⟨fun h => absurd h inside, rfl, rfl⟩

theorem Steady.comma : Steady v n (mark ",") (mark ",") :=
  fun _ => .required rfl rfl fun inside => ⟨fun h => absurd h inside, rfl, rfl⟩

/-- A parenthesis that must open. -/
theorem Extends.opening : Extends v n firm d (d + 1) (mark "(") (mark "(") := by
  cases n with
  | zero => exact .none_below
  | succ n =>
    refine .pass?_bind (fun _ => .inl (v.head_isMark "(" (by decide))) ?_ .fail
    rintro t rest is ok
    obtain rfl := Token.eq_of_isMark is
    exact ⟨d + 1, tidy_open ok, .pure ()⟩

/-- A parenthesis that must close. -/
theorem Extends.closing : Extends v n firm (d + 1) d (mark ")") (mark ")") := by
  cases n with
  | zero => exact .none_below
  | succ n =>
    refine .pass?_bind (fun none_open => absurd none_open (Nat.succ_ne_zero d)) ?_ .fail
    rintro t rest is ok
    obtain rfl := Token.eq_of_isMark is
    exact ⟨d, tidy_close ok, .pure ()⟩

/-- A parenthesis that may open. -/
theorem Extends.opening? {f g : Bool → Parser α} (yes : Extends v n firm (d + 1) e (f true) (g true))
    (no : Extends v n firm d e (f false) (g false)) :
    Extends v n firm d e (mark? "(" >>= f) (mark? "(" >>= g) := by
  cases n with
  | zero => exact .none_below
  | succ n =>
    refine .pass?_bind (fun _ => .inl (v.head_isMark "(" (by decide))) ?_ no
    rintro t rest is ok
    obtain rfl := Token.eq_of_isMark is
    exact ⟨d + 1, tidy_open ok, yes.weaken id (Nat.le_succ n)⟩

/-- A parenthesis that may close. -/
theorem Extends.closing? {f g : Bool → Parser α} (yes : Extends v n firm d e (f true) (g true))
    (no : Extends v n firm (d + 1) e (f false) (g false)) :
    Extends v n firm (d + 1) e (mark? ")" >>= f) (mark? ")" >>= g) := by
  cases n with
  | zero => exact .none_below
  | succ n =>
    refine .pass?_bind (fun none_open => absurd none_open (Nat.succ_ne_zero d)) ?_ no
    rintro t rest is ok
    obtain rfl := Token.eq_of_isMark is
    exact ⟨d, tidy_close ok, yes.weaken id (Nat.le_succ n)⟩

/-- What is read after a look at the next token, which may be to pass it. -/
inductive Looked (v : Tail) (k n : Nat) (firm : Prop) (d e : Nat) :
    Option Token → Parser α → Parser α → Prop
  | stays {t : Option Token} {p q : Parser α} (h : Extends v n firm d e p q) :
    Looked v k n firm d e t p q
  | passes {t : Token} {p q : Parser α} (opens : t ≠ .mark "(") (closes : t ≠ .mark ")")
      (h : Extends v k firm d e p q) :
    Looked v k n firm d e (some t) (do let _ ← next; p) (do let _ ← next; q)

/-- A look at the next token. At the end of the tokens the head of the tail must look like none, or
nothing is read. -/
theorem Extends.peek?_look {f g : Option Token → Parser α}
    (after : d = 0 → (∀ t rest, v.tokens = t :: rest → g (some t) = g none) ∨ f none [] = none ∧
      (firm → ∀ t rest, v.tokens = t :: rest → g (some t) (t :: rest) = none))
    (look : ∀ t, Looked v n (n + 1) firm d e t (f t) (g t)) :
    Extends v (n + 1) firm d e (peek? >>= f) (peek? >>= g) where
  reads {ys a r} short ok read := by
    change f ys.head? ys = some (a, r) at read
    change g (ys ++ v.tokens).head? (ys ++ v.tokens) = _ ∧ _
    cases ys with
    | nil =>
      have stays := look none
      rcases after (tidy_nil.mp ok) with same | ⟨stuck, -⟩
      · obtain ⟨t, rest, h, -⟩ := v.head
        cases stays with
        | stays stays =>
          rw [List.nil_append, h, List.head?_cons, same t rest h, ← h]
          exact stays.reads short ok read
      · rw [List.head?_nil, stuck] at read
        cases read
    | cons t ys =>
      simp only [List.cons_append, List.head?_cons] at read ⊢
      have looked := look (some t)
      generalize f (some t) = p, g (some t) = q at looked read ⊢
      cases looked with
      | stays stays => exact stays.reads short ok read
      | passes opens closes passes =>
        rw [List.length_cons, Nat.add_lt_add_iff_right] at short
        obtain ⟨read', shorter, ok'⟩ := passes.reads short (tidy_other ok opens closes) read
        exact ⟨read', Nat.le_succ_of_le shorter, ok'⟩
  fails strict ys short ok stuck := by
    change f ys.head? ys = none at stuck
    change g (ys ++ v.tokens).head? (ys ++ v.tokens) = none
    cases ys with
    | nil =>
      have stays := look none
      obtain ⟨t, rest, h, -⟩ := v.head
      rcases after (tidy_nil.mp ok) with same | ⟨-, stuck'⟩
      · cases stays with
        | stays stays =>
          rw [List.nil_append, h, List.head?_cons, same t rest h, ← h]
          exact stays.fails strict short ok stuck
      · rw [List.nil_append, h]
        exact stuck' strict t rest h
    | cons t ys =>
      simp only [List.cons_append, List.head?_cons] at stuck ⊢
      have looked := look (some t)
      generalize f (some t) = p, g (some t) = q at looked stuck ⊢
      cases looked with
      | stays stays => exact stays.fails strict short ok stuck
      | passes opens closes passes =>
        rw [List.length_cons, Nat.add_lt_add_iff_right] at short
        exact passes.fails strict short (tidy_other ok opens closes) stuck

theorem Extends.peek?_pass {f g : Option Token → Parser α}
    (after : d = 0 → (∀ t rest, v.tokens = t :: rest → g (some t) = g none) ∨ f none [] = none ∧
      (firm → ∀ t rest, v.tokens = t :: rest → g (some t) (t :: rest) = none))
    (look : ∀ t, Looked v n n firm d e t (f t) (g t)) :
    Extends v n firm d e (peek? >>= f) (peek? >>= g) := by
  cases n with
  | zero => exact .none_below
  | succ n =>
    refine .peek?_look after fun t => ?_
    have looked := look t
    generalize f t = p, g t = q at looked ⊢
    cases looked with
    | stays stays => exact .stays stays
    | passes opens closes passes => exact .passes opens closes (passes.weaken id (Nat.le_succ n))

/-- A look at the next token after which it is still to be read. -/
theorem Extends.peek?_bind {f g : Option Token → Parser α}
    (after : d = 0 → ∀ t rest, v.tokens = t :: rest → g (some t) = g none)
    (next : ∀ t, Extends v n firm d e (f t) (g t)) :
    Extends v n firm d e (peek? >>= f) (peek? >>= g) :=
  .peek?_pass (fun none_open => .inl (after none_open)) fun t => .stays (next t)

/-- A look ahead in parentheses always finds a token. -/
theorem Extends.peek?_inside {f g : Option Token → Parser α}
    (next : ∀ t, Extends v n firm (d + 1) e (f t) (g t)) :
    Extends v n firm (d + 1) e (peek? >>= f) (peek? >>= g) :=
  .peek?_bind (fun h => absurd h (Nat.succ_ne_zero d)) next

theorem Tail.head_cases {v : Tail} {P : Token → Prop} (comma : P (.mark ","))
    (from_ : P (.word "FROM" "FROM" false)) : ∀ t rest, v.tokens = t :: rest → P t := by
  intro t rest h
  obtain ⟨t', rest', h', is⟩ := v.head
  obtain ⟨rfl, rfl⟩ : t' = t ∧ rest' = rest := by simpa [h'] using h
  rcases is with rfl | rfl
  · exact comma
  · exact from_

/-- A look in parentheses at the token after the next, which may be the head of the tail. -/
theorem Extends.peekAt?_inside {f g : Option Token → Parser α}
    (after : ∀ t rest, v.tokens = t :: rest → g (some t) = g none)
    (next : ∀ t, Extends v n firm (d + 1) e (f t) (g t)) :
    Extends v n firm (d + 1) e (peekAt? 1 >>= f) (peekAt? 1 >>= g) := by
  have same : ∀ {ys}, tidy (d + 1) ys = true →
      (peekAt? 1 >>= g) (ys ++ v.tokens) = g ys[1]? (ys ++ v.tokens) := by
    intro ys ok
    change g (ys ++ v.tokens)[1]? (ys ++ v.tokens) = _
    match ys, tidy_ne_nil ok with
    | [_], _ =>
      obtain ⟨t, rest, h, -⟩ := v.head
      rw [h]
      exact congrFun (after t rest h) _
    | _ :: _ :: _, _ => rfl
  constructor
  · intro ys a r short ok read
    rw [same ok]
    exact (next ys[1]?).reads short ok read
  · intro strict ys short ok stuck
    rw [same ok]
    exact (next ys[1]?).fails strict short ok stuck

theorem Firm.ahead {test : Option Token → Bool} (comma : test (some (.mark ",")) = test none)
    (from_ : test (some (.word "FROM" "FROM" false)) = test none) :
    Firm v n (do return test (← peek?)) (do return test (← peek?)) :=
  fun _ => .peek?_bind (fun _ => Tail.head_cases (by rw [comma]) (by rw [from_])) fun _ => .pure _

theorem Firm.keywordAhead (key : String) (other : key ≠ "FROM") :
    Firm v n (keywordAhead key) (keywordAhead key) :=
  .ahead rfl (by simpa [Token.isKeyword] using other.symm)

theorem Firm.markAhead (text : String) (other : text ≠ ",") :
    Firm v n (markAhead text) (markAhead text) :=
  .ahead (by simpa [Token.isMark] using other.symm) rfl

theorem Firm.queryAhead : Firm v n queryAhead queryAhead :=
  fun d => (Firm.keywordAhead "SELECT" (by decide) d).bind fun _ =>
    (Firm.keywordAhead "WITH" (by decide) d).bind fun _ => .pure _

@[simp] theorem Parser.oneOf?_nil (keys : List String) : oneOf? keys [] = some (none, []) := rfl

theorem Parser.oneOf?_word (keys : List String) (text key : String) (quoted : Bool)
    (rest : List Token) : oneOf? keys (.word text key quoted :: rest) =
      if keys.contains key then some (some key, rest)
      else some (none, .word text key quoted :: rest) := by
  simp only [oneOf?, bind, StateT.bind, peek?_eq, Option.bind_some, List.head?_cons]
  split <;> rfl

theorem Parser.oneOf?_other (keys : List String) {t : Token} (rest : List Token)
    (other : ∀ text key quoted, t ≠ .word text key quoted) :
    oneOf? keys (t :: rest) = some (none, t :: rest) := by
  cases t <;> first | rfl | exact absurd rfl (other _ _ _)

theorem Firm.oneOf? (keys : List String) (other : "FROM" ∉ keys) :
    Firm v n (oneOf? keys) (oneOf? keys) := by
  have same : ∀ {d ys}, tidy d ys = true → ∃ a r, Parser.oneOf? keys ys = some (a, r) ∧
      Parser.oneOf? keys (ys ++ v.tokens) = some (a, r ++ v.tokens) ∧ r.length ≤ ys.length ∧
      tidy d r = true := by
    intro d ys ok
    cases ys with
    | nil =>
      refine ⟨none, [], rfl, ?_, Nat.le_refl _, ok⟩
      obtain ⟨t, rest, h, rfl | rfl⟩ := v.head
      · rw [List.nil_append, h, oneOf?_other keys rest (by simp)]
      · rw [List.nil_append, h, oneOf?_word, if_neg (by simpa using other)]
    | cons t ys =>
      cases t with
      | word text key quoted =>
        rw [List.cons_append, oneOf?_word, oneOf?_word]
        split
        · exact ⟨some key, ys, rfl, rfl, Nat.le_succ _, tidy_other ok (by simp) (by simp)⟩
        · exact ⟨none, _, rfl, rfl, Nat.le_refl _, ok⟩
      | _ =>
        exact ⟨none, _, oneOf?_other keys _ (by simp), oneOf?_other keys _ (by simp),
          Nat.le_refl _, ok⟩
  intro d
  constructor
  · intro ys a r short ok read
    obtain ⟨a', r', left, right, shorter, ok'⟩ := same ok
    obtain ⟨rfl, rfl⟩ : a' = a ∧ r' = r := by simpa [left] using read
    exact ⟨right, shorter, ok'⟩
  · intro _ ys short ok stuck
    obtain ⟨a, r, left, -⟩ := same ok
    simp [left] at stuck

theorem Firm.oneOf (keys : List String) (other : "FROM" ∉ keys) :
    Firm v n (oneOf keys) (oneOf keys) := fun d => by
  refine (Firm.oneOf? keys other d).bind fun key => ?_
  cases key
  · exact .fail
  · exact .pure _

/-- A reader that is tried. Where it fails, either it fails with the tail too, or nothing that
counts is read without it. -/
theorem Extends.attempt_bind {c : Nat} {p q : Parser β} {f g : Option β → Parser α}
    {tried : Prop} (h : Extends v n tried d c p q)
    (misses : ¬ tried → ∀ {ys}, ys.length < n → tidy d ys = true → p ys = none →
      q (ys ++ v.tokens) = none ∨ ¬ firm ∧ f none ys = none)
    (yes : ∀ a, Extends v n firm c e (f (some a)) (g (some a)))
    (no : Extends v n firm d e (f none) (g none)) :
    Extends v n firm d e (attempt p >>= f) (attempt q >>= g) where
  reads {ys a r} short ok read := by
    obtain ⟨b, ys', first, second⟩ := bind_some.mp read
    simp only [attempt] at first
    split at first
    · next b' ys'' tried_ =>
      obtain ⟨rfl, rfl⟩ : some b' = b ∧ ys'' = ys' := by simpa using first
      obtain ⟨tried', shorter, ok'⟩ := h.reads short ok tried_
      obtain ⟨second', shorter', ok''⟩ := (yes b').reads (by omega) ok' second
      refine ⟨bind_some.mpr ⟨some b', _, ?_, second'⟩, by omega, ok''⟩
      simp [attempt, tried']
    · next tried_ =>
      obtain ⟨rfl, rfl⟩ : none = b ∧ ys = ys' := by simpa using first
      have missed : q (ys ++ v.tokens) = none := by
        by_cases firm_ : tried
        · exact h.fails firm_ short ok tried_
        · refine (misses firm_ short ok tried_).resolve_right fun stuck => ?_
          rw [stuck.2] at second
          cases second
      obtain ⟨second', shorter', ok''⟩ := no.reads short ok second
      exact ⟨bind_some.mpr ⟨none, _, by simp [attempt, missed], second'⟩, shorter', ok''⟩
  fails strict ys short ok stuck := by
    rw [bind_none] at stuck ⊢
    cases tried_ : p ys with
    | some x =>
      obtain ⟨b, ys'⟩ := x
      obtain ⟨tried', shorter, ok'⟩ := h.reads short ok tried_
      rintro b' zs first
      obtain ⟨rfl, rfl⟩ : some b = b' ∧ ys' ++ v.tokens = zs := by simpa [attempt, tried'] using first
      exact (yes b).fails strict (by omega) ok' (stuck (some b) ys' (by simp [attempt, tried_]))
    | none =>
      have missed : q (ys ++ v.tokens) = none := by
        by_cases firm_ : tried
        · exact h.fails firm_ short ok tried_
        · exact (misses firm_ short ok tried_).resolve_right fun loose => loose.1 strict
      rintro b' zs first
      obtain ⟨rfl, rfl⟩ : none = b' ∧ ys ++ v.tokens = zs := by simpa [attempt, missed] using first
      exact no.fails strict short ok (stuck none ys (by simp [attempt, tried_]))

theorem Firm.attempt {p q : Parser β} (h : Firm v n p q) : Firm v n (attempt p) (attempt q) := by
  intro d
  rw [← bind_pure (Parser.attempt p), ← bind_pure (Parser.attempt q)]
  exact .attempt_bind (h d) (fun loose => absurd trivial loose) (fun _ => .pure _) (.pure _)

theorem Firm.keywords (keys : List String) (other : "FROM" ∉ keys) :
    Firm v n (keywords keys) (keywords keys) := by
  induction keys with
  | nil => exact fun _ => .pure ()
  | cons key keys ih =>
    simp only [List.mem_cons, not_or] at other
    exact (Firm.keyword key (Ne.symm other.1)).bind fun _ => ih other.2

theorem Firm.keywords? (keys : List String) (other : "FROM" ∉ keys) :
    Firm v n (keywords? keys) (keywords? keys) :=
  (Firm.keywords keys other).attempt.bind fun _ _ => .pure _

end Primitives
end Clickstream.Sql
