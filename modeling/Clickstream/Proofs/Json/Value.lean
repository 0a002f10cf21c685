import Clickstream.Proofs.Json.Passing
import Clickstream.Proofs.Json.Spelling

/-! The texts of JSON values, to any depth and with blanks around every token. Each is passed over as one
value. -/
namespace Clickstream.Json
namespace Reading

/-- A member of a record: what stands between the quotes of its key, and its value. -/
structure Member where
  key : Padded
  value : Padded

/-- The member as an entry of the record. -/
def Member.padded (m : Member) : Padded where
  before := m.key.before
  core := '"' :: (m.key.core ++ '"' :: (m.key.after ++ ':' :: (m.value.before ++ m.value.core)))
  after := m.value.after
  before_blank := m.key.before_blank
  after_blank := m.value.after_blank

/-- The texts of one value, with no blanks around it. -/
inductive IsValue : List Char → Prop
  | word {w : String} (known : w ∈ ["null", "true", "false"]) : IsValue w.toList
  | numeral {cs : List Char} (written : IsNumeral cs) : IsValue cs
  | negative {cs : List Char} (written : IsNumeral cs) : IsValue ('-' :: cs)
  | text {body : List Char} (valid : IsBody body) : IsValue ('"' :: (body ++ ['"']))
  | list {items : List Padded} {final : List Char} (blanks : ∀ c ∈ final, blank c = true)
    (each : ∀ e ∈ items, IsValue e.core) : IsValue ('[' :: (separated items ++ (final ++ [']'])))
  | record {members : List Member} {final : List Char} (blanks : ∀ c ∈ final, blank c = true)
    (keys : ∀ m ∈ members, IsBody m.key.core) (each : ∀ m ∈ members, IsValue m.value.core) :
    IsValue ('\x7b' :: (separated (members.map Member.padded) ++ (final ++ ['\x7d'])))

section Scalars

private theorem passed_value {c : Char} {cs : List Char} (solid : blank c = false) (list : c ≠ ']')
    (record : c ≠ '\x7d') (run : ∀ fuel rest, Apart rest →
      passValue (fuel + 1) (c :: (cs ++ rest)) = .ok ((), rest)) : Passed passValue (c :: cs) := by
  refine ⟨⟨c, cs, rfl, solid, list, record⟩, fun fuel rest enough apart => ?_⟩
  obtain ⟨fuel, rfl⟩ : ∃ k, fuel = k + 1 := ⟨fuel - 1, by rw [List.length_cons] at enough; omega⟩
  exact run fuel rest apart

private theorem passed_word {w : String} (known : w ∈ ["null", "true", "false"]) :
    Passed passValue w.toList := by
  simp only [List.mem_cons, List.not_mem_nil, or_false] at known
  rcases known with rfl | rfl | rfl
  all_goals
    refine passed_value rfl (by decide) (by decide) fun fuel rest _ => ?_
    rw [passValue]
    rfl

private theorem passText_append {body : List Char} (valid : IsBody body) (rest : List Char) :
    passText (body ++ '"' :: rest) = .ok ((), rest) := by
  unfold passText
  rw [bind_of_ok (get_run _), valid.passed]
  rfl

private theorem passed_text {body : List Char} (valid : IsBody body) :
    Passed passValue ('"' :: (body ++ ['"'])) := by
  refine passed_value rfl (by decide) (by decide) fun fuel rest _ => ?_
  rw [passValue, ahead_run rfl, List.append_assoc]
  exact (bind_of_ok (skip_run _)).trans (passText_append valid rest)

private theorem passed_negative {cs : List Char} (numeral : IsNumeral cs) :
    Passed passValue ('-' :: cs) := by
  refine passed_value rfl (by decide) (by decide) fun fuel rest apart => ?_
  rw [passValue, ahead_run rfl]
  exact (bind_of_ok (skip_run _)).trans (passNumber_append numeral apart)

private theorem passed_numeral {cs : List Char} (numeral : IsNumeral cs) : Passed passValue cs := by
  obtain ⟨d, ds, rfl, digit⟩ := numeral.head
  have solid := blank_of_isDigit digit
  refine passed_value solid (by rintro rfl; cases digit) (by rintro rfl; cases digit)
    fun fuel rest apart => ?_
  have passed : passNumber (d :: (ds ++ rest)) = .ok ((), rest) := passNumber_append numeral apart
  rw [passValue, ahead_run solid]
  generalize d :: (ds ++ rest) = s at passed
  generalize ahead : some d = first
  split
  case h_9 =>
    obtain rfl := Option.some.inj ahead
    rwa [if_pos digit]
  all_goals cases ahead
  all_goals cases digit

end Scalars

section Brackets

theorem items : Loops passValue passItems '[' ']' where
  brackets := .inl ⟨rfl, rfl⟩
  blanks fuel _ s all := passValue_blanks all fuel s
  empty fuel pre s all := by
    rw [passValue, ahead_run rfl]
    refine (bind_of_ok (skip_run _)).trans ((blanks_append all _).trans ((ahead_run rfl _).trans ?_))
    rfl
  opened fuel pre c s all solid other := by
    rw [passValue, ahead_run rfl]
    refine (bind_of_ok (skip_run _)).trans ((blanks_append all _).trans ((ahead_run solid _).trans ?_))
    generalize ahead : some c = first
    split
    · cases ahead
    · cases ahead
      exact absurd rfl other
    · rfl
  next fuel s pre rest all passed := by
    rw [passItems, bind_of_ok passed, blanks_append all, ahead_run rfl]
    rfl
  last fuel s pre rest all passed := by
    rw [passItems, bind_of_ok passed, blanks_append all, ahead_run rfl]
    rfl

/-- A member of a record: its key, and the value after the colon. -/
def passMember (fuel : Nat) : Reading Unit := do
  passKey
  passValue fuel

private theorem passMember_ok {fuel : Nat} {s s' : List Char} (passed : passMember fuel s = .ok ((), s')) :
    ∃ t, passKey s = .ok ((), t) ∧ passValue fuel t = .ok ((), s') := by
  unfold passMember at passed
  cases key : passKey s with
  | error fault => simp [bind, StateT.bind, Except.bind, key] at passed
  | ok outcome =>
    obtain ⟨⟨⟩, t⟩ := outcome
    exact ⟨t, rfl, (bind_of_ok key).symm.trans passed⟩

/-- The blanks after a key are passed with its colon. -/
theorem colon_append {pre : List Char} (all : ∀ c ∈ pre, blank c = true) (rest : List Char) :
    colon (pre ++ ':' :: rest) = .ok ((), rest) := by
  rw [colon, blanks_append all, ahead_run rfl]
  rfl

private theorem passed_member {m : Member} (key : IsBody m.key.core) (passed : Passed passValue m.value.core) :
    Passed passMember m.padded.core := by
  refine ⟨⟨'"', _, rfl, rfl, by decide, by decide⟩, fun fuel rest enough apart => ?_⟩
  have here : passKey (m.padded.core ++ rest) = .ok ((), m.value.before ++ (m.value.core ++ rest)) := by
    simp only [Member.padded, List.cons_append, List.append_assoc]
    rw [passKey, ahead_run rfl]
    exact (bind_of_ok (skip_run _)).trans
      ((bind_of_ok (passText_append key _)).trans (colon_append m.key.after_blank _))
  rw [passMember, bind_of_ok here, passValue_blanks m.value.before_blank]
  refine passed.run fuel rest ?_ apart
  simp only [Member.padded, List.length_append, List.length_cons] at enough
  omega

theorem members : Loops passMember passMembers '\x7b' '\x7d' where
  brackets := .inr ⟨rfl, rfl⟩
  blanks fuel pre s all := by
    have key : passKey (pre ++ s) = passKey s := blanks_append all s
    unfold passMember
    simp only [bind, StateT.bind, key]
  empty fuel pre s all := by
    rw [passValue, ahead_run rfl]
    refine (bind_of_ok (skip_run _)).trans ((blanks_append all _).trans ((ahead_run rfl _).trans ?_))
    rfl
  opened fuel pre c s all solid other := by
    rw [passValue, ahead_run rfl]
    refine (bind_of_ok (skip_run _)).trans ((blanks_append all _).trans ((ahead_run solid _).trans ?_))
    generalize ahead : some c = first
    split
    · cases ahead
    · cases ahead
      exact absurd rfl other
    · rfl
  next fuel s pre rest all passed := by
    obtain ⟨t, key, value⟩ := passMember_ok passed
    rw [passMembers, bind_of_ok key, bind_of_ok value, blanks_append all, ahead_run rfl]
    rfl
  last fuel s pre rest all passed := by
    obtain ⟨t, key, value⟩ := passMember_ok passed
    rw [passMembers, bind_of_ok key, bind_of_ok value, blanks_append all, ahead_run rfl]
    rfl

end Brackets

/-- A value is passed over whole. -/
theorem IsValue.passed {cs : List Char} (value : IsValue cs) : Passed passValue cs := by
  induction value with
  | word known => exact passed_word known
  | numeral written => exact passed_numeral written
  | negative written => exact passed_negative written
  | text valid => exact passed_text valid
  | list blanks _ ih => exact items.enclosed blanks ih
  | record blanks keys _ ih =>
    exact members.enclosed blanks
      (List.forall_mem_map.mpr fun m there => passed_member (keys m there) (ih m there))

theorem IsValue.anyValue {cs rest : List Char} (value : IsValue cs) (pre : List Char)
    (all : ∀ c ∈ pre, blank c = true) (apart : Apart rest) :
    anyValue (pre ++ (cs ++ rest)) = .ok ((), rest) := by
  unfold Reading.anyValue
  rw [bind_of_ok (get_run _), passValue_blanks all]
  refine value.passed.run _ rest ?_ apart
  simp only [List.length_append]
  omega

end Reading
end Clickstream.Json
