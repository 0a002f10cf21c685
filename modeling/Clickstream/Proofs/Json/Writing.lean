import Clickstream.Json.Tree
import Clickstream.Proofs.Json.Value
import Clickstream.Proofs.Number.Reading

/-! What is written as a JSON document is read as one, on one line or over several. It need not be the same
tree, since numbers that are not finite are written as null. -/
namespace Clickstream.Json
open Reading

section Entries
variable (depth : Option Nat)

theorem lineBreak_blank : ∀ c ∈ lineBreak depth, blank c = true := by
  intro c there
  cases depth with
  | none => cases there
  | some depth =>
    rcases List.mem_cons.mp there with rfl | there
    · rfl
    · rw [List.eq_of_mem_replicate there]
      rfl

/-- An entry after the line break before it. -/
def broken (entry : List Char) : Padded where
  before := lineBreak depth
  core := entry
  after := []
  before_blank := lineBreak_blank depth
  after_blank := blank_nil

theorem following_broken (entries : List (List Char)) :
    following (entries.map (broken depth)) = entries.flatMap fun entry => ',' :: lineBreak depth ++ entry := by
  simp [following, broken, Padded.chars, List.flatMap_map]

/-- Entries between brackets, as blanks, entries and commas. -/
theorem enclosed_eq (opening closing : Char) (entries : List (List Char)) :
    ∃ final, (∀ c ∈ final, blank c = true) ∧ enclosed depth opening closing entries =
      opening :: (separated (entries.map (broken (depth.map (· + 1)))) ++ (final ++ [closing])) := by
  cases entries with
  | nil => exact ⟨[], blank_nil, rfl⟩
  | cons first others =>
    refine ⟨lineBreak depth, lineBreak_blank depth, ?_⟩
    simp [enclosed, separated, following_broken, broken, Padded.chars]

end Entries

namespace Tree

theorem numberChars_finite {x : Binary64} (finite : x.isFinite = true) :
    IsNumeral (numberChars x) ∨ ∃ cs, IsNumeral cs ∧ numberChars x = '-' :: cs := by
  cases x with
  | nan => cases finite
  | infinite negative => cases finite
  | finite negative mantissa exponent canonical =>
    have written := Layout.json.unsigned_isNumeral canonical
    simp only [numberChars, Binary64.isFinite, ↓reduceIte, Layout.text, String.toList_ofList]
    cases negative with
    | true => exact .inr ⟨_, written, rfl⟩
    | false => exact .inl written

theorem numberChars_not_finite {x : Binary64} (finite : x.isFinite = false) :
    numberChars x = "null".toList := by
  simp [numberChars, finite]

theorem integerChars_numeral (i : Int) :
    IsNumeral (toString i).toList ∨ ∃ cs, IsNumeral cs ∧ (toString i).toList = '-' :: cs := by
  cases i with
  | ofNat n =>
    have written : (toString (Int.ofNat n)).toList = Nat.toDigits 10 n := Nat.toList_repr
    rw [written]
    exact .inl (.of_toDigits n)
  | negSucc n =>
    have written : (toString (Int.negSucc n)).toList = '-' :: Nat.toDigits 10 (n + 1) :=
      String.toList_append.trans (congrArg ('-' :: ·) Nat.toList_repr)
    exact .inr ⟨_, .of_toDigits _, written⟩

theorem isValue_integer (i : Int) : IsValue (toString i).toList := by
  rcases integerChars_numeral i with written | ⟨cs, written, eq⟩
  · exact .numeral written
  · rw [eq]
    exact .negative written

theorem isValue_text (s : String) : IsValue (textChars s) := by
  simpa [textChars] using IsValue.text (spells_text s.toList).isBody

private def written (depth : Option Nat) (key : String) (value : List Char) : Member where
  key := ⟨lineBreak depth, key.toList.flatMap escape, [], lineBreak_blank depth, blank_nil⟩
  value := ⟨if depth.isNone then [] else [' '], value, [], by split <;> simp [blank], blank_nil⟩

private theorem membersChars_eq (depth : Option Nat) (fields : List (String × Tree)) :
    (membersChars depth fields).map (broken depth) =
      (fields.map fun field => written depth field.1 (field.2.chars depth)).map Member.padded := by
  induction fields with
  | nil => rfl
  | cons field fields ih =>
    obtain ⟨key, t⟩ := field
    rw [membersChars, List.map_cons, ih]
    refine congrArg (· :: _) ?_
    cases depth <;> simp [broken, written, Member.padded, textChars]

/-- The characters render what the tree holds and nothing else: its strings are spelled in any way, and its numbers
are numerals of any form that are read as them, or null for what is not finite. Blanks may stand around every
token. -/
inductive Renders : Tree → List Char → Prop
  | null : Renders .null "null".toList
  | number {x : Binary64} {cs : List Char} (finite : x.isFinite = true)
    (form : IsNumeral cs ∨ ∃ ds, IsNumeral ds ∧ cs = '-' :: ds)
    (reads : Binary64.ofText? (String.ofList cs) = some x) : Renders (.number x) cs
  | notFinite {x : Binary64} (finite : x.isFinite = false) : Renders (.number x) "null".toList
  | integer (i : Int) : Renders (.integer i) (toString i).toList
  | text {s : String} {body : List Char} (spells : Spells body s.toList) : Renders (.text s) ('"' :: (body ++ ['"']))
  | list {elements : List Tree} {items : List Padded} {final : List Char} (blanks : ∀ c ∈ final, blank c = true)
    (each : List.Forall₂ (fun t item => Renders t item.core) elements items) :
    Renders (.list elements) ('[' :: (separated items ++ (final ++ [']'])))
  | record {fields : List (String × Tree)} {members : List Member} {final : List Char}
    (blanks : ∀ c ∈ final, blank c = true)
    (keys : List.Forall₂ (fun field m => Spells m.key.core field.1.toList) fields members)
    (each : List.Forall₂ (fun field m => Renders field.2 m.value.core) fields members) :
    Renders (.record fields) ('\x7b' :: (separated (members.map Member.padded) ++ (final ++ ['\x7d'])))

theorem renders_number (x : Binary64) : Renders (.number x) (numberChars x) := by
  cases finite : x.isFinite with
  | false =>
    rw [numberChars_not_finite finite]
    exact .notFinite finite
  | true =>
    refine .number finite (numberChars_finite finite) ?_
    rw [numberChars, if_pos finite, String.ofList_toList]
    exact Layout.json.ofText?_text x

mutual

theorem renders_chars (depth : Option Nat) : (t : Tree) → t.Renders (t.chars depth)
  | .null => .null
  | .number x => renders_number x
  | .integer i => .integer i
  | .text s => by
    rw [chars, textChars, List.append_assoc]
    exact .text (spells_text s.toList)
  | .list elements => by
    obtain ⟨final, blanks, eq⟩ := enclosed_eq depth '[' ']' (itemsChars (depth.map (· + 1)) elements)
    rw [chars, eq]
    exact .list blanks (renders_items (depth.map (· + 1)) elements)
  | .record fields => by
    obtain ⟨final, blanks, eq⟩ := enclosed_eq depth '\x7b' '\x7d' (membersChars (depth.map (· + 1)) fields)
    rw [chars, eq, membersChars_eq]
    refine .record blanks ?_ (renders_members (depth.map (· + 1)) fields)
    exact List.forall₂_map_right_iff.mpr (List.forall₂_same.mpr fun field _ => spells_text field.1.toList)

theorem renders_items (depth : Option Nat) : (elements : List Tree) →
    List.Forall₂ (fun t item => t.Renders item.core) elements ((itemsChars depth elements).map (broken depth))
  | [] => .nil
  | t :: others => .cons (renders_chars depth t) (renders_items depth others)

theorem renders_members (depth : Option Nat) : (fields : List (String × Tree)) →
    List.Forall₂ (fun field m => field.2.Renders m.value.core) fields
      (fields.map fun field => written depth field.1 (field.2.chars depth))
  | [] => .nil
  | (_, t) :: others => .cons (renders_chars depth t) (renders_members depth others)

end

mutual

/-- What renders a tree is one value. -/
theorem isValue_of_renders : (t : Tree) → ∀ {cs : List Char}, t.Renders cs → IsValue cs
  | .null, _, .null => .word (by decide)
  | .number _, _, .number _ (.inl written) _ => .numeral written
  | .number _, _, .number _ (.inr ⟨_, written, eq⟩) _ => eq ▸ .negative written
  | .number _, _, .notFinite _ => .word (by decide)
  | .integer _, _, .integer i => isValue_integer i
  | .text _, _, .text spells => .text spells.isBody
  | .list elements, _, .list blanks each => .list blanks (isValue_of_items elements each)
  | .record fields, _, .record blanks keys each =>
    .record blanks (fun m there => by
      obtain ⟨i, hi, rfl⟩ := List.getElem_of_mem there
      exact ((List.forall₂_iff_get.mp keys).2 i (by rw [keys.length_eq]; exact hi) hi).isBody)
      (isValue_of_members fields each)

theorem isValue_of_items : (elements : List Tree) → ∀ {items : List Padded},
    List.Forall₂ (fun t item => t.Renders item.core) elements items → ∀ e ∈ items, IsValue e.core
  | [], _, .nil => by simp
  | t :: others, _, .cons rendered each =>
    List.forall_mem_cons.mpr ⟨isValue_of_renders t rendered, isValue_of_items others each⟩

theorem isValue_of_members : (fields : List (String × Tree)) → ∀ {members : List Member},
    List.Forall₂ (fun field m => field.2.Renders m.value.core) fields members →
      ∀ m ∈ members, IsValue m.value.core
  | [], _, .nil => by simp
  | (_, t) :: others, _, .cons rendered each =>
    List.forall_mem_cons.mpr ⟨isValue_of_renders t rendered, isValue_of_members others each⟩

end

/-- A tree is written as one value. -/
theorem isValue_chars (depth : Option Nat) (t : Tree) : IsValue (t.chars depth) :=
  isValue_of_renders t (t.renders_chars depth)

theorem isValue_items (depth : Option Nat) (elements : List Tree) :
    ∀ e ∈ itemsChars depth elements, IsValue e :=
  fun _ there => isValue_of_items elements (renders_items depth elements) _ (List.mem_map_of_mem there)

end Tree

/-- The text is one JSON value with nothing but blanks after it. -/
def IsDocument (text : String) : Prop :=
  ∃ after, anyValue text.toList = .ok ((), after) ∧ ∀ c ∈ after, blank c = true

theorem Tree.pretty_line (t : Tree) : (t.pretty ++ "\n").toList = t.chars (some 0) ++ ['\n'] := by
  rw [String.toList_append, pretty, String.toList_ofList]
  rfl

theorem Tree.pretty_isDocument (t : Tree) : IsDocument (t.pretty ++ "\n") := by
  refine ⟨['\n'], ?_, by simp [blank]⟩
  rw [t.pretty_line]
  exact (t.isValue_chars (some 0)).anyValue [] blank_nil (apart_cons rfl (by decide) _)

end Clickstream.Json
