import Mathlib.Data.Bool.AllAny
import Mathlib.Data.List.Basic
import Clickstream.Json.Reading
import Clickstream.Json.Tree

/-! Strings as JSON lets them be written: most characters as they are, and any character by an escape.
However a string is spelled, it is read as the same characters. -/
namespace Clickstream.Json

section Codes

def IsHex (c : Char) : Prop := c ∈ "0123456789abcdefABCDEF".toList

instance (c : Char) : Decidable (IsHex c) := inferInstanceAs (Decidable (c ∈ _))

def hexValue (c : Char) : Nat := "0123456789abcdef".toList.idxOf c.toLower

/-- The number that hexadecimal digits write. -/
def hexCode (ds : List Char) : Nat := ds.foldl (fun n c => 16 * n + hexValue c) 0

/-- The escapes of one letter, and the characters they stand for. -/
def shortEscapes : List (Char × Char) :=
  [('"', '"'), ('\\', '\\'), ('/', '/'), ('b', '\x08'), ('f', '\x0c'), ('n', '\n'), ('r', '\r'),
   ('t', '\t')]

/-- Four digits, which are a code. -/
structure IsCode (ds : List Char) (code : Nat) : Prop where
  four : ds.length = 4
  hex : ∀ c ∈ ds, IsHex c
  value : hexCode ds = code

/-- The characters between the quotes of a string, and the characters that they write. -/
inductive Spells : List Char → List Char → Prop
  | nil : Spells [] []
  | plain {c : Char} {body cs : List Char} (quote : c ≠ '"') (backslash : c ≠ '\\')
    (printable : 0x20 ≤ c.toNat) (rest : Spells body cs) : Spells (c :: body) (c :: cs)
  | short {letter c : Char} {body cs : List Char} (known : (letter, c) ∈ shortEscapes)
    (rest : Spells body cs) : Spells ('\\' :: letter :: body) (c :: cs)
  | code {ds body cs : List Char} {code : Nat} (written : IsCode ds code)
    (whole : code < 0xD800 ∨ 0xDFFF < code) (rest : Spells body cs) :
    Spells ('\\' :: 'u' :: ds ++ body) (Char.ofNat code :: cs)
  | halves {ds ds' body cs : List Char} {high low : Nat} (first : IsCode ds (0xD800 + high))
    (second : IsCode ds' (0xDC00 + low)) (bounds : high < 0x400 ∧ low < 0x400) (rest : Spells body cs) :
    Spells ('\\' :: 'u' :: ds ++ '\\' :: 'u' :: ds' ++ body)
      (Char.ofNat (high * 0x400 + low + 0x10000) :: cs)

/-- What may stand between the quotes of a string at all: its codes may be halves of characters. -/
inductive IsBody : List Char → Prop
  | nil : IsBody []
  | plain {c : Char} {body : List Char} (quote : c ≠ '"') (backslash : c ≠ '\\')
    (printable : 0x20 ≤ c.toNat) (rest : IsBody body) : IsBody (c :: body)
  | short {letter c : Char} {body : List Char} (known : (letter, c) ∈ shortEscapes)
    (rest : IsBody body) : IsBody ('\\' :: letter :: body)
  | code {ds body : List Char} {code : Nat} (written : IsCode ds code) (rest : IsBody body) :
    IsBody ('\\' :: 'u' :: ds ++ body)

end Codes

section Reading
variable {ds rest : List Char} {code : Nat}

private theorem length_le_bytes (cs : List Char) : cs.length ≤ (String.ofList cs).utf8ByteSize := by
  induction cs with
  | nil => exact Nat.zero_le _
  | cons c cs ih =>
    rw [String.ofList_cons, String.utf8ByteSize_append, String.utf8ByteSize_singleton, List.length_cons]
    have := c.utf8Size_pos
    omega

private theorem hexValue_eq : ∀ c ∈ "0123456789abcdefABCDEF".toList,
    (if c.isDigit then some (digitValue c)
      else if 'a' ≤ c ∧ c ≤ 'f' then some (c.toNat - 'a'.toNat + 10)
      else if 'A' ≤ c ∧ c ≤ 'F' then some (c.toNat - 'A'.toNat + 10)
      else none) = some (hexValue c) :=
  List.all_iff_forall_prop.mp (by decide +kernel)

theorem IsCode.read (written : IsCode ds code) (rest : List Char) : fourHex (ds ++ rest) = .ok code := by
  obtain ⟨four, hex, rfl⟩ := written
  have bytes := length_le_bytes ds
  obtain ⟨a, b, c, d, rfl⟩ := List.length_eq_four.mp four
  simp only [List.forall_mem_cons] at hex
  obtain ⟨ha, hb, hc, hd, -⟩ := hex
  have taken : ([a, b, c, d] ++ rest).take 4 = [a, b, c, d] := rfl
  unfold fourHex
  simp only [taken]
  rw [if_neg (by omega)]
  simp only [List.mapM_cons, List.mapM_nil, hexValue_eq a ha, hexValue_eq b hb, hexValue_eq c hc,
    hexValue_eq d hd]
  simp only [hexCode, List.foldl_cons, List.foldl_nil, bind, Option.bind, pure, Except.ok.injEq]
  omega

theorem unescape_short {letter c : Char} (known : (letter, c) ∈ shortEscapes) (rest : List Char) :
    unescape (letter :: rest) = .ok (c, 1) := by
  simp only [shortEscapes, List.mem_cons, Prod.mk.injEq, List.not_mem_nil, or_false] at known
  rcases known with ⟨rfl, rfl⟩ | ⟨rfl, rfl⟩ | ⟨rfl, rfl⟩ | ⟨rfl, rfl⟩ | ⟨rfl, rfl⟩ | ⟨rfl, rfl⟩ |
    ⟨rfl, rfl⟩ | ⟨rfl, rfl⟩ <;> rfl

theorem unescape_code (written : IsCode ds code) (whole : code < 0xD800 ∨ 0xDFFF < code) (rest : List Char) :
    unescape ('u' :: ds ++ rest) = .ok (Char.ofNat code, 5) := by
  have read := written.read rest
  rw [List.cons_append, unescape, unicodeEscape, read]
  simp only [bind, Except.bind]
  rw [if_neg (by omega)]
  simp only [pure, Except.pure]
  rw [if_pos (by omega)]
  rfl

theorem unescape_halves {ds' : List Char} {high low : Nat} (first : IsCode ds (0xD800 + high))
    (second : IsCode ds' (0xDC00 + low)) (bounds : high < 0x400 ∧ low < 0x400) (rest : List Char) :
    unescape ('u' :: ds ++ ('\\' :: 'u' :: ds' ++ rest)) =
      .ok (Char.ofNat (high * 0x400 + low + 0x10000), 11) := by
  have read := first.read ('\\' :: 'u' :: ds' ++ rest)
  have read' := second.read rest
  have dropped : (ds ++ ('\\' :: 'u' :: ds' ++ rest)).drop 4 = '\\' :: 'u' :: (ds' ++ rest) := by
    rw [← first.four, List.drop_left]
    rfl
  rw [List.cons_append, unescape, unicodeEscape, read]
  simp only [bind, Except.bind]
  rw [if_neg (by omega)]
  simp only [pure, Except.pure, dropped, read']
  rw [if_neg (by omega), if_neg (by omega)]
  simp only [Except.map, Nat.add_sub_cancel_left]

section Escapes
variable {ahead after cs : List Char} {c : Char} {count : Nat}

theorem stringBody_escape (escaped : unescape ahead = .ok (c, count))
    (read : stringBody (ahead.drop count) = .ok (cs, after)) :
    stringBody ('\\' :: ahead) = .ok (c :: cs, after) := by
  rw [stringBody, escaped]
  simp only [bind, Except.bind, read]
  rfl

theorem passString_escaped (escaped : passEscape ahead = .ok count) :
    passString ('\\' :: ahead) = passString (ahead.drop count) := by
  rw [passString, escaped]
  rfl

end Escapes

/-- A string is read up to its closing quote. -/
theorem Spells.read {body cs : List Char} (spells : Spells body cs) (rest : List Char) :
    stringBody (body ++ '"' :: rest) = .ok (cs, rest) := by
  induction spells with
  | nil => rw [List.nil_append, stringBody]
  | plain quote backslash printable _ ih =>
    rw [List.cons_append, stringBody, if_neg (by omega), ih]
    · rfl
    · exact quote
    · exact backslash
  | short known _ ih => exact stringBody_escape (unescape_short known _) ih
  | @code ds body cs code written whole _ ih =>
    have behind : ('u' :: ds ++ (body ++ '"' :: rest)).drop 5 = body ++ '"' :: rest :=
      List.drop_left' (by simp [written.four])
    have shape : '\\' :: 'u' :: ds ++ body ++ '"' :: rest = '\\' :: ('u' :: ds ++ (body ++ '"' :: rest)) := by
      simp
    rw [shape]
    exact stringBody_escape (unescape_code written whole _) (by rw [behind, ih])
  | @halves ds ds' body cs high low first second bounds _ ih =>
    have behind : ('u' :: ds ++ ('\\' :: 'u' :: ds' ++ (body ++ '"' :: rest))).drop 11 =
        body ++ '"' :: rest := by
      rw [← List.append_assoc]
      exact List.drop_left' (by simp [first.four, second.four])
    have shape : '\\' :: 'u' :: ds ++ '\\' :: 'u' :: ds' ++ body ++ '"' :: rest =
        '\\' :: ('u' :: ds ++ ('\\' :: 'u' :: ds' ++ (body ++ '"' :: rest))) := by
      simp
    rw [shape]
    exact stringBody_escape (unescape_halves first second bounds _) (by rw [behind, ih])

/-- Or it is passed over. -/
theorem IsBody.passed {body : List Char} (valid : IsBody body) (rest : List Char) :
    passString (body ++ '"' :: rest) = .ok rest := by
  induction valid with
  | nil => rw [List.nil_append, passString]
  | plain quote backslash printable _ ih =>
    rw [List.cons_append, passString, if_neg (by omega), ih]
    · exact quote
    · exact backslash
  | @short letter c body known _ ih =>
    have escaped : passEscape (letter :: (body ++ '"' :: rest)) = .ok 1 := by
      unfold passEscape
      split
      · rename_i same
        obtain ⟨rfl, -⟩ := List.cons.inj same
        simp [shortEscapes] at known
      · rw [unescape_short known]
        rfl
    exact (passString_escaped escaped).trans ih
  | @code ds body code written _ ih =>
    have escaped : passEscape ('u' :: ds ++ (body ++ '"' :: rest)) = .ok 5 := by
      rw [List.cons_append, passEscape, written.read]
      rfl
    have behind : ('u' :: ds ++ (body ++ '"' :: rest)).drop 5 = body ++ '"' :: rest :=
      List.drop_left' (by simp [written.four])
    have shape : '\\' :: 'u' :: ds ++ body ++ '"' :: rest = '\\' :: ('u' :: ds ++ (body ++ '"' :: rest)) := by
      simp
    rw [shape, passString_escaped escaped, behind, ih]

theorem Spells.isBody {body cs : List Char} (spells : Spells body cs) : IsBody body := by
  induction spells with
  | nil => exact .nil
  | plain quote backslash printable _ ih => exact .plain quote backslash printable ih
  | short known _ ih => exact .short known ih
  | code written _ _ ih => exact .code written ih
  | halves first second _ _ ih => simpa using IsBody.code first (.code second ih)

end Reading

private theorem control_code : ∀ n < 32,
    let ds := List.replicate (4 - (Nat.toDigits 16 n).length) '0' ++ Nat.toDigits 16 n
    ds.length = 4 ∧ (ds.all fun c => decide (IsHex c)) = true ∧ hexCode ds = n := by
  decide +kernel

/-- A text is spelled by what is written for it. -/
theorem spells_escape (c : Char) {body cs : List Char} (rest : Spells body cs) :
    Spells (escape c ++ body) (c :: cs) := by
  unfold escape
  split
  iterate 7
    · exact .short (by decide) rest
  rename_i quote backslash _ _ _ _ _
  split
  · rename_i control
    obtain ⟨four, hex, value⟩ := control_code c.toNat control
    have written := Spells.code ⟨four, List.all_iff_forall_prop.mp hex, value⟩ (.inl (by omega)) rest
    rw [Char.ofNat_toNat] at written
    simpa using written
  · rename_i printable
    exact .plain quote backslash (by omega) rest

theorem spells_text (cs : List Char) : Spells (cs.flatMap escape) cs := by
  induction cs with
  | nil => exact .nil
  | cons c cs ih => exact spells_escape c ih

end Clickstream.Json
