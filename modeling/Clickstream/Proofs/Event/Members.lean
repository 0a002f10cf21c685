import Clickstream.Event.Document
import Clickstream.Proofs.Json.Framing
import Clickstream.Proofs.Json.Writing
import Clickstream.Proofs.Time.Reader

/-! Reading the members of an event's record, one after another: fields, in any order and spelling, and
members of other names. The fields that have been read are what is known of the event. -/
namespace Clickstream.Event
open Json Json.Reading

theorem Field.ofKey?_key (f : Field) : ofKey? f.key = some f := by
  cases f <;> decide

/-- What a field holds, if it is written as a string. -/
def text? (e : Event) : Field → Option String
  | .accountId => some e.accountId
  | .clientId => some e.clientId
  | .sessionId => some e.sessionId
  | .name => some e.name
  | .value => none
  | .timestamp => some e.timestamp.zuluText
  | .pageLocation => some e.pageLocation
  | .pageTitle => some e.pageTitle
  | .pageReferrer => some e.pageReferrer
  | .userAgent => some e.userAgent
  | .screenResolution => some e.screenResolution

/-- The characters are a way to write what a field holds: a string is spelled in any way, and the number
as it is printed. -/
def Writes (e : Event) (f : Field) (cs : List Char) : Prop :=
  match e.text? f with
  | some s => ∃ body, Spells body s.toList ∧ cs = '"' :: (body ++ ['"'])
  | none => cs = numberChars e.value

/-- A field that may be left out, since it holds what is read for it then. -/
def Omits (e : Event) (f : Field) : Prop :=
  f.isOptional = true ∧
    match e.text? f with
    | some s => s = ""
    | none => e.value = .zero false

/-- The number is read as itself from what is printed for it. -/
def ReadsBack (x : Binary64) : Prop := numeric "f64" (numberChars x) = .ok (x, [])

/-- A member of a document of the event: one of its fields, or any value under a name that no field has. -/
inductive Entry (e : Event) : Option Field → Member → Prop
  | field {f : Field} {m : Member} (key : Spells m.key.core f.key.toList) (value : e.Writes f m.value.core) :
    Entry e (some f) m
  | other {m : Member} {name : String} (key : Spells m.key.core name.toList)
    (unknown : Field.ofKey? name = none) (value : IsValue m.value.core) : Entry e none m

/-- The fields that members write, in their order. -/
def named (ms : List (Option Field × Member)) : List Field := ms.flatMap (·.1.toList)

theorem named_cons (m : Option Field × Member) (ms : List (Option Field × Member)) :
    named (m :: ms) = m.1.toList ++ named ms :=
  List.flatMap_cons

/-- The event as its documents are read. -/
def settled (e : Event) : Event := { e with timestamp := e.timestamp.settled }

theorem settled_eq_iff {e : Event} : e.settled = e ↔ e.timestamp.LeapEndsMinute := by
  rw [← e.timestamp.settled_eq_iff]
  exact ⟨congrArg timestamp, fun same => by rw [settled, same]⟩

section Drafts
variable (e : Event) (fields : List Field) {α : Type}

/-- What is known of a field when some of the fields have been read. -/
def known (f : Field) (a : α) : Option α := if f ∈ fields then some a else none

/-- What has been read of the event when some of its fields have. -/
def part : Draft where
  accountId := known fields .accountId e.accountId
  clientId := known fields .clientId e.clientId
  sessionId := known fields .sessionId e.sessionId
  name := known fields .name e.name
  value := known fields .value e.value
  timestamp := known fields .timestamp e.timestamp.settled
  pageLocation := known fields .pageLocation e.pageLocation
  pageTitle := known fields .pageTitle e.pageTitle
  pageReferrer := known fields .pageReferrer e.pageReferrer
  userAgent := known fields .userAgent e.userAgent
  screenResolution := known fields .screenResolution e.screenResolution

theorem known_isSome (f : Field) (a : α) : (known fields f a).isSome = decide (f ∈ fields) := by
  unfold known
  split <;> simp_all

theorem known_getD (f : Field) {a default : α} (left : f ∉ fields → a = default) :
    (known fields f a).getD default = a := by
  by_cases there : f ∈ fields
  · simp [known, there]
  · simp [known, there, left there]

theorem part_nil : e.part [] = {} := rfl

theorem part_has (f : Field) : (e.part fields).has f = decide (f ∈ fields) := by
  cases f <;> exact known_isSome fields _ _

/-- The event is read once no field is missing that does not hold its default. -/
theorem finish_part (missing : Field → Fault) (omitted : ∀ f, f ∉ fields → e.Omits f) :
    (e.part fields).finish missing = .ok e.settled := by
  have required {α : Type} (f : Field) (a : α) (required : f.isOptional = false) :
      known fields f a = some a := by
    refine if_pos ?_
    by_contra left
    rw [(omitted f left).1] at required
    cases required
  have text (f : Field) (s : String) (here : e.text? f = some s) : (known fields f s).getD "" = s := by
    refine known_getD fields f fun left => ?_
    have empty := (omitted f left).2
    rwa [here] at empty
  have value : (known fields .value e.value).getD (.zero false) = e.value :=
    known_getD fields .value fun left => (omitted .value left).2
  simp only [Draft.finish, part, required .accountId _ rfl, required .clientId _ rfl,
    required .sessionId _ rfl, required .name _ rfl, required .timestamp _ rfl, value,
    text .pageLocation _ rfl, text .pageTitle _ rfl, text .pageReferrer _ rfl, text .userAgent _ rfl,
    text .screenResolution _ rfl]
  rfl

end Drafts

section Steps
variable {e : Event} {pre rest : List Char}

theorem string_append {body : List Char} {s : String} (spells : Spells body s.toList) (rest : List Char) :
    string (body ++ '"' :: rest) = .ok (s, rest) := by
  unfold string
  rw [bind_of_ok (get_run _), spells.read]
  exact congrArg (fun s => Except.ok (s, rest)) String.ofList_toList

theorem text_append (expected : String) {body : List Char} {s : String} (spells : Spells body s.toList)
    (all : ∀ c ∈ pre, blank c = true) (rest : List Char) :
    Json.Reading.text expected (pre ++ ('"' :: (body ++ ['"']) ++ rest)) = .ok (s, rest) := by
  rw [Json.Reading.text, blanks_append all, List.cons_append, ahead_run rfl, List.append_assoc]
  exact (bind_of_ok (skip_run _)).trans (string_append spells rest)

/-- What is written for a number that is not finite is not read as one. -/
theorem numeric_null (expected : String) (all : ∀ c ∈ pre, blank c = true) (rest : List Char) :
    numeric expected (pre ++ ("null".toList ++ rest)) =
      .error (.data ("invalid type: " ++ "null" ++ ", expected " ++ expected)) := by
  have ahead : "null".toList ++ rest = 'n' :: ("ull".toList ++ rest) := rfl
  rw [numeric, blanks_append all, ahead, ahead_run rfl]
  rfl

theorem ReadsBack.numeric {x : Binary64} (read : ReadsBack x) (all : ∀ c ∈ pre, blank c = true)
    (apart : Apart rest) : numeric "f64" (pre ++ (numberChars x ++ rest)) = .ok (x, rest) := by
  unfold ReadsBack at read
  have finite : x.isFinite = true := by
    by_contra other
    rw [Tree.numberChars_not_finite (by simpa using other)] at read
    cases read.symm.trans (numeric_null "f64" blank_nil [])
  have passed : Json.Reading.numeric "f64" (pre ++ (numberChars x ++ rest)) =
      Json.Reading.numeric "f64" (numberChars x ++ rest) :=
    blanks_append all _
  obtain ⟨c, cs, eq, starts⟩ : ∃ c cs, numberChars x = c :: cs ∧ (c = '-' ∨ c.isDigit = true) := by
    rcases Tree.numberChars_finite finite with written | ⟨cs, -, eq⟩
    · obtain ⟨d, ds, eq, digit⟩ := written.head
      exact ⟨d, ds, eq, .inr digit⟩
    · exact ⟨'-', cs, eq, .inl rfl⟩
  rw [passed]
  rw [eq] at read ⊢
  exact numeric_append starts read apart

/-- The value of a field is read into what has been read of the event. -/
theorem field_append {f : Field} {fields : List Field} {v : Padded} (writes : e.Writes f v.core)
    (printed : f = .value → ReadsBack e.value) (apart : Apart rest) :
    Reading.field (e.part fields) f (v.before ++ (v.core ++ rest)) = .ok (e.part (f :: fields), rest) := by
  have string {s : String} (here : e.text? f = some s) (next : String → Draft)
      (read : next s = e.part (f :: fields)) :
      (do return next (← Json.Reading.text "a string")) (v.before ++ (v.core ++ rest)) =
        .ok (e.part (f :: fields), rest) := by
    rw [Writes, here] at writes
    obtain ⟨body, spells, core⟩ := writes
    rw [core, bind_of_ok (text_append _ spells v.before_blank rest), read]
    rfl
  cases f with
  | value =>
    rw [show v.core = numberChars e.value from writes, Reading.field,
      bind_of_ok ((printed rfl).numeric v.before_blank apart)]
    refine congrArg (fun d => Except.ok (d, rest)) ?_
    simp [part, known]
  | timestamp =>
    obtain ⟨body, spells, core⟩ := writes
    have read : Reading.instant (v.before ++ (v.core ++ rest)) = .ok (e.timestamp.settled, rest) := by
      rw [core, Reading.instant, bind_of_ok (text_append _ spells v.before_blank rest), Instant.read_zuluText]
      rfl
    rw [Reading.field, bind_of_ok read]
    refine congrArg (fun d => Except.ok (d, rest)) ?_
    simp [part, known]
  | _ => exact string rfl _ (by simp [part, known])

theorem anotherMember_next {pre' : List Char} (all : ∀ c ∈ pre, blank c = true)
    (all' : ∀ c ∈ pre', blank c = true) (s : List Char) :
    anotherMember false (pre ++ ',' :: (pre' ++ '"' :: s)) = .ok (true, '"' :: s) := by
  rw [anotherMember, blanks_append all, ahead_run rfl]
  exact (bind_of_ok (skip_run _)).trans ((blanks_append all' _).trans (ahead_run rfl _))

private theorem member_chars (m : Member) (rest : List Char) :
    m.padded.chars ++ rest = m.key.before ++ '"' :: (m.key.core ++ '"' :: (m.key.after ++ ':' ::
      (m.value.before ++ (m.value.core ++ (m.value.after ++ rest))))) := by
  simp [Padded.chars, Member.padded]

/-- The value of a member with the key of a field is that field's. -/
theorem members_field {f : Field} {m : Member} (key : Spells m.key.core f.key.toList) {d : Draft}
    (unread : d.has f = false) (all : ∀ c ∈ pre, blank c = true) (fuel : Nat) :
    Reading.members false d (fuel + 1) (pre ++ ',' :: (m.padded.chars ++ rest)) =
      (do Reading.members false (← Reading.field d f) fuel)
        (m.value.before ++ (m.value.core ++ (m.value.after ++ rest))) := by
  rw [member_chars, Reading.members, bind_of_ok (anotherMember_next all m.key.before_blank _)]
  simp only [↓reduceIte]
  refine (bind_of_ok (skip_run _)).trans ((bind_of_ok (string_append key _)).trans ?_)
  simp only [Field.ofKey?_key, unread, Bool.false_eq_true, ↓reduceIte]
  exact bind_of_ok (colon_append m.key.after_blank _)

/-- The value of a member with another key is passed over. -/
theorem members_other {name : String} {m : Member} (key : Spells m.key.core name.toList)
    (unknown : Field.ofKey? name = none) (value : IsValue m.value.core) (d : Draft)
    (all : ∀ c ∈ pre, blank c = true) (apart : Apart rest) (fuel : Nat) :
    Reading.members false d (fuel + 1) (pre ++ ',' :: (m.padded.chars ++ rest)) =
      Reading.members false d fuel (m.value.after ++ rest) := by
  rw [member_chars, Reading.members, bind_of_ok (anotherMember_next all m.key.before_blank _)]
  simp only [↓reduceIte]
  refine (bind_of_ok (skip_run _)).trans ((bind_of_ok (string_append key _)).trans ?_)
  rw [unknown]
  exact (bind_of_ok (colon_append m.key.after_blank _)).trans
    (bind_of_ok (value.anyValue _ m.value.before_blank (apart_blanks m.value.after_blank apart)))

/-- One member is read, and then the others. -/
theorem members_step {o : Option Field} {m : Member} (entry : e.Entry o m) {fields : List Field}
    (fresh : ∀ f ∈ o, f ∉ fields)
    (printed : o = some .value → ReadsBack e.value)
    (all : ∀ c ∈ pre, blank c = true) (apart : Apart rest) (fuel : Nat) :
    Reading.members false (e.part fields) (fuel + 1) (pre ++ ',' :: (m.padded.chars ++ rest)) =
      Reading.members false (e.part (o.toList ++ fields)) fuel (m.value.after ++ rest) := by
  cases entry with
  | @field f _ key value =>
    have unread : (e.part fields).has f = false := by simpa [part_has] using fresh f rfl
    rw [members_field key unread all]
    exact bind_of_ok (field_append value (fun same => printed (congrArg some same))
      (apart_blanks m.value.after_blank apart))
  | other key unknown value => exact members_other key unknown value _ all apart fuel

/-- A number that is not finite is written as something else, which is refused. -/
theorem members_refused {m : Member} (entry : e.Entry (some .value) m) (finite : e.value.isFinite = false)
    {d : Draft} (unread : d.has .value = false) (all : ∀ c ∈ pre, blank c = true) (fuel : Nat) :
    ∃ fault, Reading.members false d (fuel + 1) (pre ++ ',' :: (m.padded.chars ++ rest)) = .error fault := by
  cases entry with
  | field key value =>
    rw [members_field key unread all, show m.value.core = numberChars e.value from value,
      Tree.numberChars_not_finite finite]
    exact ⟨_, bind_of_error (bind_of_error (numeric_null "f64" m.value.before_blank _))⟩

private theorem apart_following (entries : List Padded) (apart : Apart rest) :
    Apart (following entries ++ rest) := by
  cases entries with
  | nil => exact apart
  | cons entry entries => exact apart_cons rfl (by decide) _

private theorem once_cons {m : Option Field × Member} {ms : List (Option Field × Member)} {fields : List Field}
    (once : (named (m :: ms) ++ fields).Nodup) :
    (∀ f ∈ m.1, f ∉ fields) ∧ (named ms ++ (m.1.toList ++ fields)).Nodup := by
  rw [named_cons, List.append_assoc] at once
  have later := (List.perm_append_comm_assoc _ _ _).nodup_iff.mp once
  exact ⟨fun f there => List.disjoint_of_nodup_append later.of_append_right (Option.mem_toList.mpr there), later⟩

/-- Members are read one after another. -/
theorem members_run {ms : List (Option Field × Member)} (entries : ∀ m ∈ ms, e.Entry m.1 m.2)
    {fields : List Field} (once : (named ms ++ fields).Nodup)
    (printed : .value ∈ named ms → ReadsBack e.value)
    (all : ∀ c ∈ pre, blank c = true) (apart : Apart rest) (fuel : Nat) :
    ∃ pre' fields', (∀ c ∈ pre', blank c = true) ∧ (∀ f, f ∈ fields' ↔ f ∈ named ms ∨ f ∈ fields) ∧
      Reading.members false (e.part fields) (ms.length + fuel)
          (pre ++ (following (ms.map (·.2.padded)) ++ rest)) =
        Reading.members false (e.part fields') fuel (pre' ++ rest) := by
  induction ms generalizing pre fields with
  | nil => exact ⟨pre, fields, all, by simp [named], by simp [following]⟩
  | cons m ms ih =>
    obtain ⟨entry, entries⟩ := List.forall_mem_cons.mp entries
    obtain ⟨fresh, later⟩ := once_cons once
    rw [named_cons] at printed
    have step := members_step entry fresh (fun same => printed (by simp [same])) all
      (apart_following (ms.map (·.2.padded)) apart) (ms.length + fuel)
    obtain ⟨pre', fields', all', same, run⟩ := ih entries later (fun there => printed (by simp [there]))
      m.2.value.after_blank
    refine ⟨pre', fields', all', fun f => ?_, ?_⟩
    · rw [same f, named_cons]
      simp only [List.mem_append]
      tauto
    · rw [← run, ← step]
      simp only [List.length_cons, Nat.add_right_comm, List.map_cons, following_cons, List.cons_append,
        List.append_assoc]

/-- Members are refused if the number is among them and is not finite. -/
theorem members_run_refused {ms : List (Option Field × Member)} (entries : ∀ m ∈ ms, e.Entry m.1 m.2)
    {fields : List Field} (once : (named ms ++ fields).Nodup) (there : .value ∈ named ms)
    (finite : e.value.isFinite = false) (all : ∀ c ∈ pre, blank c = true) (apart : Apart rest) (fuel : Nat) :
    ∃ fault, Reading.members false (e.part fields) (ms.length + fuel)
      (pre ++ (following (ms.map (·.2.padded)) ++ rest)) = .error fault := by
  induction ms generalizing pre fields with
  | nil => cases there
  | cons m ms ih =>
    obtain ⟨o, m⟩ := m
    obtain ⟨entry, entries⟩ := List.forall_mem_cons.mp entries
    obtain ⟨fresh, later⟩ := once_cons once
    simp only [List.length_cons, Nat.add_right_comm, List.map_cons, following_cons, List.cons_append,
      List.append_assoc]
    by_cases here : o = some .value
    · subst here
      exact members_refused entry finite (by simpa [part_has] using fresh .value rfl) all _
    · rw [members_step entry fresh (fun same => absurd same here) all
        (apart_following (ms.map (·.2.padded)) apart) (ms.length + fuel)]
      refine ih entries later ?_ m.value.after_blank
      rw [named_cons, List.mem_append, Option.mem_toList] at there
      exact there.resolve_left here

/-- The record ends. -/
theorem members_end (d : Draft) (all : ∀ c ∈ pre, blank c = true) (fuel : Nat) (after : List Char) :
    Reading.members false d (fuel + 1) (pre ++ '\x7d' :: after) = .ok (d, after) := by
  have none_ : anotherMember false (pre ++ '\x7d' :: after) = .ok (false, '\x7d' :: after) := by
    rw [anotherMember, blanks_append all, ahead_run rfl]
    rfl
  rw [Reading.members, bind_of_ok none_]
  rfl

/-- The first member has no comma before it. -/
theorem members_first (m : Member) (d : Draft) (fuel : Nat) (s : List Char) :
    Reading.members true d fuel (m.padded.chars ++ s) =
      Reading.members false d fuel (',' :: (m.padded.chars ++ s)) := by
  cases fuel with
  | zero => rfl
  | succ fuel =>
    have first : anotherMember true (m.padded.chars ++ s) =
        anotherMember false (',' :: (m.padded.chars ++ s)) := by
      rw [member_chars]
      refine Eq.trans ?_ (anotherMember_next blank_nil m.key.before_blank _).symm
      rw [anotherMember, blanks_append m.key.before_blank, ahead_run rfl]
      rfl
    rw [Reading.members, Reading.members]
    simp only [bind, StateT.bind, first]

end Steps

end Clickstream.Event
