import Clickstream.Proofs.Sql.Tail.Query

/-! Select items with a tail after them, and lists of them. -/
namespace Clickstream.Sql
open Sql.Parser

section Select
variable {v : Tail} {n : Nat} {lower : Level}

/-- The word `FROM` names no select item without `AS`. -/
theorem Steady.columnAlias? :
    Steady v n (alias? Keyword.notColumnAlias) (alias? Keyword.notColumnAlias) := by
  intro d
  refine (Firm.keyword? "AS" (by decide)).here.bind fun announced => .peek?_pass (fun none_open => ?_) fun t => ?_
  · cases announced with
    | true => exact .inr ⟨rfl, fun inside => absurd none_open inside⟩
    | false =>
      refine .inl (Tail.head_cases rfl (if_neg ?_))
      simpa using Keyword.from_mem_notColumnAlias
  · split
    · split
      · exact .passes (by simp) (by simp) (.pure _)
      · exact .stays (.pure _)
    · exact .passes (by simp) (by simp) (.pure _)
    · exact .stays (.ite (fun _ => .fail) fun _ => .pure _)

theorem Steady.selectItem (level : lower.Keeps v) :
    Steady v n (selectItem lower) (selectItem lower) := by
  intro d
  refine (Steady.starOr level d).bind fun e => ?_
  split
  · exact .pure _
  · refine .ite (fun _ => .fail) fun _ => (Steady.columnAlias? d).bind fun found => ?_
    cases found
    · exact .pure _
    · exact .pure _

/-- A text, its tokens, and what they are read as: an expression, and the tokens that are left. -/
structure Part where
  text : String
  tokens : List Token
  expr : Expr
  left : List Token

/-- The part is what a select item reads. -/
structure Part.ReadBy (lower : Level) (part : Part) : Prop where
  tidy : tidy 0 part.tokens = true
  read : selectItem lower part.tokens = some (.plain part.expr, part.left)

/-- The tokens of parts with commas between them. -/
def commaed (parts : List Part) : List Token := [Token.mark ","].intercalate (parts.map Part.tokens)

@[simp] theorem commaed_singleton (part : Part) : commaed [part] = part.tokens :=
  List.intercalate_singleton

theorem commaed_cons (part : Part) {parts : List Part} (more : parts ≠ []) :
    commaed (part :: parts) = part.tokens ++ .mark "," :: commaed parts := by
  unfold commaed
  rw [List.map_cons, List.intercalate_cons_of_ne_nil (by simpa using more), List.append_assoc]
  rfl

/-- A select item with more after it. -/
theorem Part.ReadBy.more {part : Part} (h : part.ReadBy lower) (level : lower.Keeps v) :
    Parser.selectItem lower (part.tokens ++ v.tokens) = some (.plain part.expr, part.left ++ v.tokens) :=
  ((Steady.selectItem level 0).reads (Nat.lt_succ_self _) h.tidy h.read).1

theorem commaed_append (goods : List Part) (part : Part) (others : List Part) :
    commaed (goods ++ part :: others) =
      goods.flatMap (fun part => part.tokens ++ [.mark ","]) ++ commaed (part :: others) := by
  induction goods with
  | nil => rfl
  | cons good goods ih =>
    rw [List.cons_append, commaed_cons good (by simp), ih, List.flatMap_cons]
    simp only [List.append_assoc, List.cons_append, List.nil_append]

/-- A tail that begins with a comma. -/
def Tail.comma (rest : List Token) : Tail := ⟨.mark "," :: rest, .inl ⟨rest, rfl⟩⟩

/-- A tail that begins with the relation that all compiled selects read. -/
def Tail.source (rest : List Token) : Tail :=
  ⟨.word "FROM" "FROM" false :: .word "events" "EVENTS" false :: rest, .inr ⟨rest, rfl⟩⟩

/-- Items that are each read to their end, and a comma after each. -/
theorem items_read (level : ∀ v, lower.Keeps v) {goods : List Part}
    (each : ∀ part ∈ goods, part.ReadBy lower ∧ part.left = []) (fuel : Nat) (rest : List Token) :
    separated "," (selectItem lower) (goods.length + fuel)
        (goods.flatMap (fun part => part.tokens ++ [.mark ","]) ++ rest) =
      (separated "," (selectItem lower) fuel rest).map fun (items, left) =>
        (goods.map (Item.plain ·.expr) ++ items, left) := by
  induction goods with
  | nil => simp
  | cons part goods ih =>
    obtain ⟨⟨read, nothing⟩, others⟩ := List.forall_mem_cons.mp each
    have item (after : List Token) : selectItem lower (part.tokens ++ .mark "," :: after) =
        some (.plain part.expr, .mark "," :: after) := by
      have := read.more (level (.comma after))
      rwa [nothing] at this
    rw [List.length_cons, Nat.add_right_comm, List.flatMap_cons]
    simp only [List.append_assoc, List.cons_append, List.nil_append]
    rw [separated, Parser.bind_of_some (item _)]
    have comma (f : Bool → Parser (List Item)) (after : List Token) :
        (mark? "," >>= f) (.mark "," :: after) = f true after := rfl
    rw [comma]
    change (separated "," (selectItem lower) (goods.length + fuel) _).bind
      (fun x => some (.plain part.expr :: x.1, x.2)) = _
    rw [ih others]
    cases separated "," (selectItem lower) fuel rest <;> rfl

/-- The list of items ends where one of them is not read to its end. -/
theorem items_end (part : Part) (v : Tail) (level : lower.Keeps v) (read : part.ReadBy lower)
    (fuel : Nat) (ends : (part.left ++ v.tokens).head? ≠ some (.mark ",")) :
    separated "," (selectItem lower) (fuel + 1) (part.tokens ++ v.tokens) =
      some ([.plain part.expr], part.left ++ v.tokens) := by
  rw [separated, Parser.bind_of_some (read.more level), Parser.mark?_bind_other ends]
  rfl

end Select
end Clickstream.Sql
