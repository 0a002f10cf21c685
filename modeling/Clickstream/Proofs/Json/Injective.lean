import Clickstream.Proofs.Json.Writing
import Clickstream.Proofs.Number.Reading

/-! What is written as a JSON document tells the tree, but for numbers that are not finite: all of them are
written as null. Values are told apart where they stand, since what is read of one does not depend on what
follows it. -/
namespace Clickstream.Json
open Reading

/-- A value can be taken off the front of a text in one way. -/
theorem Reading.IsValue.split {cs cs' rest rest' : List Char} (value : IsValue cs) (value' : IsValue cs')
    (apart : Apart rest) (apart' : Apart rest') (same : cs ++ rest = cs' ++ rest') :
    cs = cs' ∧ rest = rest' := by
  have read := value.anyValue [] blank_nil apart
  rw [List.nil_append, same] at read
  have read' := value'.anyValue [] blank_nil apart'
  rw [List.nil_append, read] at read'
  obtain rfl : rest = rest' := (Prod.mk.inj (Except.ok.inj read')).2
  exact ⟨List.append_cancel_right same, rfl⟩

section Scalars

theorem textChars_injective : Function.Injective textChars := by
  intro s s' same
  have body : s.toList.flatMap escape ++ ['"'] = s'.toList.flatMap escape ++ ['"'] :=
    (List.cons.inj same).2
  have read := (spells_text s.toList).read []
  rw [body, (spells_text s'.toList).read []] at read
  exact (String.toList_inj.mp (Prod.mk.inj (Except.ok.inj read)).1).symm

private theorem negative_chars (n : Nat) :
    (toString (Int.negSucc n)).toList = '-' :: Nat.toDigits 10 (n + 1) :=
  String.toList_append.trans (congrArg ('-' :: ·) Nat.toList_repr)

private theorem minus_not_digits (n : Nat) (cs : List Char) : Nat.toDigits 10 n ≠ '-' :: cs := by
  intro same
  have digit := digits_toDigits n '-' (by simp [same])
  cases digit

private theorem toDigits_injective {m n : Nat} (same : Nat.toDigits 10 m = Nat.toDigits 10 n) : m = n := by
  rw [← digitsValue_toDigits m, same, digitsValue_toDigits]

theorem integerChars_injective {i j : Int} (same : (toString i).toList = (toString j).toList) : i = j := by
  cases i with
  | ofNat m =>
    have chars : (toString (Int.ofNat m)).toList = Nat.toDigits 10 m := Nat.toList_repr
    rw [chars] at same
    cases j with
    | ofNat n =>
      have chars' : (toString (Int.ofNat n)).toList = Nat.toDigits 10 n := Nat.toList_repr
      rw [chars'] at same
      rw [toDigits_injective same]
    | negSucc n =>
      rw [negative_chars] at same
      exact absurd same (minus_not_digits _ _)
  | negSucc m =>
    rw [negative_chars] at same
    cases j with
    | ofNat n =>
      have chars' : (toString (Int.ofNat n)).toList = Nat.toDigits 10 n := Nat.toList_repr
      rw [chars'] at same
      exact absurd same.symm (minus_not_digits _ _)
    | negSucc n =>
      rw [negative_chars] at same
      rw [Nat.succ.inj (toDigits_injective (List.cons.inj same).2)]

private theorem unsigned_marked (mantissa : Nat) (exponent : Int) :
    ∃ c ∈ Layout.json.unsigned mantissa exponent, c = '.' ∨ c = 'e' := by
  have positional (digits : List Char) (power : Int) : '.' ∈ Layout.json.positional digits power := by
    unfold Layout.positional
    simp only [Layout.json]
    split
    · simp
    · split <;> simp
  have scientific (digits : List Char) (first : Int) : 'e' ∈ Layout.json.scientific digits first := by
    simp [Layout.scientific]
  unfold Layout.unsigned
  simp only
  split
  · exact ⟨'.', positional _ _, .inl rfl⟩
  · split
    · exact ⟨'.', positional _ _, .inl rfl⟩
    · exact ⟨'e', scientific _ _, .inr rfl⟩

/-- A number is never written like an integer. -/
theorem numberChars_ne_integer {x : Binary64} (finite : x.isFinite = true) (i : Int) :
    numberChars x ≠ (toString i).toList := by
  intro same
  obtain ⟨c, there, mark⟩ : ∃ c ∈ numberChars x, c = '.' ∨ c = 'e' := by
    cases x with
    | nan => cases finite
    | infinite negative => cases finite
    | finite negative mantissa exponent canonical =>
      obtain ⟨c, there, mark⟩ := unsigned_marked mantissa exponent
      refine ⟨c, ?_, mark⟩
      rw [numberChars, if_pos finite, Layout.text, String.toList_ofList]
      exact List.mem_append_right _ there
  have digit : c = '-' ∨ c.isDigit = true := by
    rw [same] at there
    cases i with
    | ofNat n => exact .inr (digits_toString n c there)
    | negSucc n =>
      rw [negative_chars] at there
      exact (List.mem_cons.mp there).imp_right (digits_toDigits _ c)
  rcases mark with rfl | rfl <;> simp at digit

theorem numberChars_injective {x y : Binary64} (finite : x.isFinite = true) (finite' : y.isFinite = true)
    (same : numberChars x = numberChars y) : x = y := by
  rw [numberChars, if_pos finite, numberChars, if_pos finite'] at same
  exact Layout.json.text_injective (String.toList_inj.mp same)

end Scalars

section Entries

/-- Entries can be taken off the front of a text in one way, and begin with no closing bracket. -/
structure Splits (P : List Char → Prop) : Prop where
  head : ∀ e, P e → ∃ c cs, e = c :: cs ∧ c ≠ ']' ∧ c ≠ '\x7d'
  split : ∀ e e' rest rest', P e → P e' → Apart rest → Apart rest' → e ++ rest = e' ++ rest' →
    e = e' ∧ rest = rest'

theorem splits_value : Splits IsValue where
  head _ value := by
    obtain ⟨c, cs, eq, -, list, record⟩ := value.passed.head
    exact ⟨c, cs, eq, list, record⟩
  split _ _ _ _ value value' apart apart' := value.split value' apart apart'

/-- A key, a colon and a value. -/
def IsMember (colon entry : List Char) : Prop :=
  ∃ key value, IsValue value ∧ entry = textChars key ++ (colon ++ value)

/-- A member tells its key and the text of its value. -/
theorem member_split {pre value value' rest rest' : List Char} {key key' : String} (written : IsValue value)
    (written' : IsValue value') (apart : Apart rest) (apart' : Apart rest')
    (same : textChars key ++ (':' :: pre ++ value) ++ rest = textChars key' ++ (':' :: pre ++ value') ++ rest') :
    (key = key' ∧ value = value') ∧ rest = rest' := by
  simp only [List.append_assoc, List.cons_append] at same
  obtain ⟨keys, after⟩ := (Tree.isValue_text key).split (Tree.isValue_text key')
    (apart_cons rfl (by decide) _) (apart_cons rfl (by decide) _) same
  obtain ⟨values, rests⟩ := written.split written' apart apart' (List.append_cancel_left (List.cons.inj after).2)
  exact ⟨⟨textChars_injective keys, values⟩, rests⟩

theorem splits_member (pre : List Char) : Splits (IsMember (':' :: pre)) where
  head := by
    rintro _ ⟨key, value, -, rfl⟩
    exact ⟨'"', _, rfl, by decide, by decide⟩
  split := by
    rintro _ _ rest rest' ⟨key, value, written, rfl⟩ ⟨key', value', written', rfl⟩ apart apart' same
    obtain ⟨⟨rfl, rfl⟩, rests⟩ := member_split written written' apart apart' same
    exact ⟨rfl, rests⟩

variable {P : List Char → Prop} {depth : Option Nat} {opening closing : Char}

private theorem end_head (closes : closing = ']' ∨ closing = '\x7d') :
    ∃ c cs, lineBreak depth ++ [closing] = c :: cs ∧ c.isDigit = false ∧ c ∉ ['.', 'e', 'E'] ∧ c ≠ ',' := by
  cases depth with
  | none =>
    rcases closes with rfl | rfl <;> exact ⟨_, _, rfl, rfl, by decide, by decide⟩
  | some depth => exact ⟨'\n', _, rfl, rfl, by decide, by decide⟩

private theorem apart_following (closes : closing = ']' ∨ closing = '\x7d') (inner : List Char)
    (entries : List (List Char)) :
    Apart (entries.flatMap (fun e => ',' :: (inner ++ e)) ++ (lineBreak depth ++ [closing])) := by
  cases entries with
  | nil =>
    obtain ⟨c, cs, end_, digit, mark, -⟩ := @end_head depth closing closes
    rw [end_]
    exact apart_cons digit mark cs
  | cons e entries => exact apart_cons rfl (by decide) _

private theorem following_split (splits : Splits P) (closes : closing = ']' ∨ closing = '\x7d')
    (inner : List Char) {entries entries' : List (List Char)} (all : ∀ e ∈ entries, P e)
    (all' : ∀ e ∈ entries', P e)
    (same : entries.flatMap (fun e => ',' :: (inner ++ e)) ++ (lineBreak depth ++ [closing]) =
      entries'.flatMap (fun e => ',' :: (inner ++ e)) ++ (lineBreak depth ++ [closing])) :
    entries = entries' := by
  obtain ⟨c, cs, end_, -, -, comma⟩ := @end_head depth closing closes
  induction entries generalizing entries' with
  | nil =>
    cases entries' with
    | nil => rfl
    | cons e' entries' =>
      rw [end_] at same
      exact absurd (List.cons.inj same).1 comma
  | cons e entries ih =>
    cases entries' with
    | nil =>
      rw [end_] at same
      exact absurd (List.cons.inj same).1.symm comma
    | cons e' entries' =>
      obtain ⟨first, others⟩ := List.forall_mem_cons.mp all
      obtain ⟨first', others'⟩ := List.forall_mem_cons.mp all'
      simp only [List.flatMap_cons, List.append_assoc, List.cons_append] at same
      have after := List.append_cancel_left (List.cons.inj same).2
      obtain ⟨rfl, rest⟩ := splits.split e e' _ _ first first' (apart_following closes inner entries)
        (apart_following closes inner entries') after
      rw [ih others others' rest]

private theorem empty_ne (splits : Splits P) (closes : closing = ']' ∨ closing = '\x7d') {e : List Char}
    (entry : P e) (entries : List (List Char)) :
    enclosed depth opening closing [] ≠ enclosed depth opening closing (e :: entries) := by
  obtain ⟨c, cs, rfl, list, record⟩ := splits.head e entry
  intro same
  cases depth with
  | none =>
    have second : closing = c := (List.cons.inj (List.cons.inj same).2).1
    exact closes.elim (second ▸ list) (second ▸ record)
  | some depth =>
    have second : closing = '\n' := (List.cons.inj (List.cons.inj same).2).1
    subst second
    exact closes.elim (by decide) (by decide)

/-- Entries between brackets are told by what is written. -/
theorem enclosed_injective (splits : Splits P) (closes : closing = ']' ∨ closing = '\x7d')
    {entries entries' : List (List Char)} (all : ∀ e ∈ entries, P e) (all' : ∀ e ∈ entries', P e)
    (same : enclosed depth opening closing entries = enclosed depth opening closing entries') :
    entries = entries' := by
  cases entries with
  | nil =>
    cases entries' with
    | nil => rfl
    | cons e' entries' => exact absurd same (empty_ne splits closes (all' e' (by simp)) entries')
  | cons e entries =>
    cases entries' with
    | nil => exact absurd same.symm (empty_ne splits closes (all e (by simp)) entries)
    | cons e' entries' =>
      obtain ⟨first, others⟩ := List.forall_mem_cons.mp all
      obtain ⟨first', others'⟩ := List.forall_mem_cons.mp all'
      simp only [enclosed, List.append_assoc, List.cons_append, List.nil_append] at same
      have after := List.append_cancel_left (List.cons.inj same).2
      obtain ⟨rfl, rest⟩ := splits.split e e' _ _ first first' (apart_following closes _ entries)
        (apart_following closes _ entries') after
      rw [following_split splits closes _ others others' rest]

end Entries

namespace Tree

mutual

/-- The tree as its text tells it: numbers that are not finite are null. -/
def shown : Tree → Tree
  | .null => .null
  | .number x => if x.isFinite then .number x else .null
  | .integer i => .integer i
  | .text s => .text s
  | .list items => .list (shownItems items)
  | .record members => .record (shownMembers members)

def shownItems : List Tree → List Tree
  | [] => []
  | t :: items => shown t :: shownItems items

def shownMembers : List (String × Tree) → List (String × Tree)
  | [] => []
  | (key, t) :: members => (key, shown t) :: shownMembers members

end

theorem shown_number {x : Binary64} (finite : x.isFinite = true) : shown (.number x) = .number x := by
  rw [shown, if_pos finite]

theorem shown_not_finite {x : Binary64} (other : x.isFinite = false) : shown (.number x) = .null := by
  rw [shown, if_neg (by rw [other]; decide)]

theorem shownItems_eq (items : List Tree) : shownItems items = items.map shown := by
  induction items with
  | nil => rfl
  | cons t items ih => rw [shownItems, ih, List.map_cons]

mutual

/-- How many nulls a document has. -/
def nulls : Tree → Nat
  | .null => 1
  | .number _ => 0
  | .integer _ => 0
  | .text _ => 0
  | .list items => nullsItems items
  | .record members => nullsMembers members

def nullsItems : List Tree → Nat
  | [] => 0
  | t :: items => nulls t + nullsItems items

def nullsMembers : List (String × Tree) → Nat
  | [] => 0
  | (_, t) :: members => nulls t + nullsMembers members

end

theorem nullsItems_eq (items : List Tree) : nullsItems items = (items.map nulls).sum := by
  induction items with
  | nil => rfl
  | cons t items ih => rw [nullsItems, ih, List.map_cons, List.sum_cons]

mutual

/-- Nothing that is not shown is written. -/
theorem chars_shown (depth : Option Nat) : (t : Tree) → t.shown.chars depth = t.chars depth
  | .null => rfl
  | .number x => by
    cases finite : x.isFinite with
    | true => rw [shown_number finite]
    | false => rw [shown_not_finite finite, chars, chars, numberChars_not_finite finite]
  | .integer i => rfl
  | .text s => rfl
  | .list items => by
    rw [shown, chars, chars, itemsChars_shown (depth.map (· + 1)) items]
  | .record members => by
    rw [shown, chars, chars, membersChars_shown (depth.map (· + 1)) members]

theorem itemsChars_shown (depth : Option Nat) :
    (items : List Tree) → itemsChars depth (shownItems items) = itemsChars depth items
  | [] => rfl
  | t :: items => by
    rw [shownItems, itemsChars, itemsChars, chars_shown depth t, itemsChars_shown depth items]

theorem membersChars_shown (depth : Option Nat) :
    (members : List (String × Tree)) → membersChars depth (shownMembers members) = membersChars depth members
  | [] => rfl
  | (key, t) :: members => by
    rw [shownMembers, membersChars, membersChars, chars_shown depth t, membersChars_shown depth members]

end

section Forms

/-- The character that tells the form of a value: a zero for every numeral. -/
def form : Tree → Char
  | .null => 'n'
  | .number x => if x.isFinite then '0' else 'n'
  | .integer _ => '0'
  | .text _ => '"'
  | .list _ => '['
  | .record _ => '\x7b'

/-- The form of a value that begins with this character. -/
def formOf (c : Char) : Char := if c = '-' ∨ c.isDigit = true then '0' else c

private theorem form_numeral {cs : List Char} (written : IsNumeral cs ∨ ∃ ds, IsNumeral ds ∧ cs = '-' :: ds) :
    cs.head?.map formOf = some '0' := by
  rcases written with numeral | ⟨ds, -, rfl⟩
  · obtain ⟨c, rest, rfl, digit⟩ := numeral.head
    simp [formOf, digit]
  · rfl

theorem form_chars (depth : Option Nat) (t : Tree) : (t.chars depth).head?.map formOf = some t.form := by
  cases t with
  | null => rfl
  | number x =>
    cases finite : x.isFinite with
    | true =>
      rw [form, if_pos finite]
      exact form_numeral (numberChars_finite finite)
    | false =>
      rw [form, if_neg (by rw [finite]; decide), chars, numberChars_not_finite finite]
      rfl
  | integer i => exact form_numeral (integerChars_numeral i)
  | text s => rfl
  | list items =>
    rw [chars]
    cases itemsChars (depth.map (· + 1)) items <;> rfl
  | record members =>
    rw [chars]
    cases membersChars (depth.map (· + 1)) members <;> rfl

theorem form_number_ne (x : Binary64) {c : Char} (numeral : c ≠ '0') (null : c ≠ 'n') : form (.number x) ≠ c := by
  rw [form]
  split
  · exact numeral.symm
  · exact null.symm

/-- What is written tells the form. -/
theorem form_eq {depth : Option Nat} {t t' : Tree} (same : t.chars depth = t'.chars depth) : t.form = t'.form := by
  have heads := form_chars depth t
  rw [same, form_chars] at heads
  exact (Option.some.inj heads).symm

end Forms

section Telling
variable {depth : Option Nat} {t : Tree}

theorem shown_of_null (same : t.chars depth = "null".toList) : t.shown = .null := by
  have formed : t.form = 'n' := @form_eq depth t .null same
  cases t with
  | null => rfl
  | number x =>
    cases finite : x.isFinite with
    | true => simp [form, finite] at formed
    | false => exact shown_not_finite finite
  | integer | text | list | record => cases formed

theorem shown_of_number {x : Binary64} (finite : x.isFinite = true) (same : t.chars depth = numberChars x) :
    t.shown = .number x := by
  have formed : t.form = '0' := (@form_eq depth t (.number x) same).trans (by rw [form, if_pos finite])
  cases t with
  | number y =>
    cases finite' : y.isFinite with
    | true => rw [shown_number finite', numberChars_injective finite' finite same]
    | false => simp [form, finite'] at formed
  | integer i => exact absurd same.symm (numberChars_ne_integer finite i)
  | null | text | list | record => cases formed

theorem shown_of_integer {i : Int} (same : t.chars depth = (toString i).toList) : t.shown = .integer i := by
  have formed : t.form = '0' := @form_eq depth t (.integer i) same
  cases t with
  | number y =>
    cases finite : y.isFinite with
    | true => exact absurd same (numberChars_ne_integer finite i)
    | false => simp [form, finite] at formed
  | integer j => rw [shown, integerChars_injective same]
  | null | text | list | record => cases formed

theorem shown_of_text {s : String} (same : t.chars depth = textChars s) : t.shown = .text s := by
  have formed : t.form = '"' := @form_eq depth t (.text s) same
  cases t with
  | text s' => rw [shown, textChars_injective same]
  | number y => exact absurd formed (form_number_ne y (by decide) (by decide))
  | null | integer | list | record => cases formed

theorem items_of_list {items : List Tree} (same : t.chars depth = chars depth (.list items)) :
    ∃ items', t = .list items' ∧
      itemsChars (depth.map (· + 1)) items' = itemsChars (depth.map (· + 1)) items := by
  have formed : t.form = '[' := @form_eq depth t (.list items) same
  cases t with
  | list items' =>
    rw [chars, chars] at same
    exact ⟨items', rfl, enclosed_injective splits_value (.inl rfl) (isValue_items _ _) (isValue_items _ _) same⟩
  | number y => exact absurd formed (form_number_ne y (by decide) (by decide))
  | null | integer | text | record => cases formed

/-- What stands between the colon and the value of a member. -/
def afterColon : Option Nat → List Char
  | none => []
  | some _ => [' ']

theorem membersChars_cons (depth : Option Nat) (key : String) (t : Tree) (members : List (String × Tree)) :
    membersChars depth ((key, t) :: members) =
      (textChars key ++ (':' :: afterColon depth ++ t.chars depth)) :: membersChars depth members := by
  cases depth <;> simp [membersChars, afterColon]

theorem isMember_membersChars (depth : Option Nat) (members : List (String × Tree)) :
    ∀ e ∈ membersChars depth members, IsMember (':' :: afterColon depth) e := by
  induction members with
  | nil => exact List.forall_mem_nil _
  | cons member members ih =>
    obtain ⟨key, t⟩ := member
    rw [membersChars_cons, List.forall_mem_cons]
    exact ⟨⟨key, t.chars depth, isValue_chars depth t, rfl⟩, ih⟩

theorem members_of_record {members : List (String × Tree)} (same : t.chars depth = chars depth (.record members)) :
    ∃ members', t = .record members' ∧
      membersChars (depth.map (· + 1)) members' = membersChars (depth.map (· + 1)) members := by
  have formed : t.form = '\x7b' := @form_eq depth t (.record members) same
  cases t with
  | record members' =>
    rw [chars, chars] at same
    exact ⟨members', rfl, enclosed_injective (splits_member _) (.inr rfl) (isMember_membersChars _ _)
      (isMember_membersChars _ _) same⟩
  | number y => exact absurd formed (form_number_ne y (by decide) (by decide))
  | null | integer | text | list => cases formed

end Telling

mutual

/-- What is written tells what is shown. -/
theorem shown_of_chars (depth : Option Nat) :
    (t t' : Tree) → t.chars depth = t'.chars depth → t.shown = t'.shown
  | .null, t', same => (shown_of_null same.symm).symm
  | .number x, t', same => by
    cases finite : x.isFinite with
    | true => rw [shown_number finite, shown_of_number finite same.symm]
    | false =>
      rw [chars, numberChars_not_finite finite] at same
      rw [shown_not_finite finite, shown_of_null same.symm]
  | .integer i, t', same => (shown_of_integer same.symm).symm
  | .text s, t', same => (shown_of_text same.symm).symm
  | .list items, t', same => by
    obtain ⟨items', rfl, entries⟩ := items_of_list same.symm
    rw [shown, shown, shownItems_of_chars (depth.map (· + 1)) items items' entries.symm]
  | .record members, t', same => by
    obtain ⟨members', rfl, entries⟩ := members_of_record same.symm
    rw [shown, shown, shownMembers_of_chars (depth.map (· + 1)) members members' entries.symm]

theorem shownItems_of_chars (depth : Option Nat) : (items items' : List Tree) →
    itemsChars depth items = itemsChars depth items' → shownItems items = shownItems items'
  | [], [], _ => rfl
  | [], t' :: items', same => by cases same
  | t :: items, [], same => by cases same
  | t :: items, t' :: items', same => by
    rw [itemsChars, itemsChars, List.cons.injEq] at same
    rw [shownItems, shownItems, shown_of_chars depth t t' same.1, shownItems_of_chars depth items items' same.2]

theorem shownMembers_of_chars (depth : Option Nat) : (members members' : List (String × Tree)) →
    membersChars depth members = membersChars depth members' → shownMembers members = shownMembers members'
  | [], [], _ => rfl
  | [], (key', t') :: members', same => by cases same
  | (key, t) :: members, [], same => by cases same
  | (key, t) :: members, (key', t') :: members', same => by
    rw [membersChars_cons, membersChars_cons, List.cons.injEq] at same
    have first := congrArg (· ++ []) same.1
    obtain ⟨⟨rfl, value⟩, -⟩ := member_split (isValue_chars depth t) (isValue_chars depth t') apart_nil apart_nil first
    rw [shownMembers, shownMembers, shown_of_chars depth t t' value,
      shownMembers_of_chars depth members members' same.2]

end

/-- What is shown of a tree is a tree with the same text. -/
theorem pretty_shown (t : Tree) : t.shown.pretty = t.pretty := by
  rw [pretty, chars_shown, pretty]

/-- Two trees are written in the same way exactly if they are the same but for numbers that are not finite. -/
theorem pretty_eq_iff {t t' : Tree} : t.pretty = t'.pretty ↔ t.shown = t'.shown := by
  constructor
  · intro same
    exact shown_of_chars (some 0) t t' (String.ofList_injective same)
  · intro same
    rw [← t.pretty_shown, same, t'.pretty_shown]

end Tree
end Clickstream.Json
