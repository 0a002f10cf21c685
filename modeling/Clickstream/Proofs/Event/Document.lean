import Clickstream.Proofs.Event.Members

/-! Events as documents, however these are laid out: members in any order and spelling, blanks around every
token, members that no field has the name of, and none for a field that holds its default. That a number is
read back as it is printed is not asserted; it is a condition on the event. -/
namespace Clickstream.Event
open Json Json.Reading

/-- A way to write the event as a document. -/
structure Document (e : Event) where
  /-- The members in their order, with the fields that they write. -/
  members : List (Option Field × Member)
  before : List Char
  final : List Char
  after : List Char
  entries : ∀ m ∈ members, Entry e m.1 m.2
  once : (named members).Nodup
  omitted : ∀ f, f ∉ named members → e.Omits f
  before_blank : ∀ c ∈ before, blank c = true
  final_blank : ∀ c ∈ final, blank c = true
  after_blank : ∀ c ∈ after, blank c = true

def Document.text {e : Event} (d : e.Document) : String :=
  String.ofList (d.before ++ '\x7b' ::
    (separated (d.members.map (·.2.padded)) ++ (d.final ++ '\x7d' :: d.after)))

section Documents
variable {e : Event} (d : e.Document)

/-- What stands in a document behind its opening brace. -/
def Document.inner : List Char :=
  separated (d.members.map (·.2.padded)) ++ (d.final ++ '\x7d' :: d.after)

private theorem length_le_following (entries : List Padded) : entries.length ≤ (following entries).length := by
  induction entries with
  | nil => exact le_refl _
  | cons entry entries ih =>
    simp only [following_cons, List.length_append, List.length_cons]
    omega

/-- There is a member, since not every field may be left out. -/
theorem Document.members_nonempty : d.members ≠ [] := by
  intro empty
  have left : e.Omits .accountId := d.omitted _ (by simp [empty, named])
  cases left.1

/-- The members are read as if a comma stood before the first one too, with fuel for all of them. -/
theorem Document.inner_run : ∃ fuel, Reading.members true {} (d.inner.length + 1) d.inner =
    Reading.members false (e.part []) (d.members.length + (fuel + 1))
      (following (d.members.map (·.2.padded)) ++ (d.final ++ '\x7d' :: d.after)) := by
  obtain ⟨m, ms, eq⟩ := List.exists_cons_of_ne_nil d.members_nonempty
  have enough := length_le_following (ms.map (·.2.padded))
  have length : ms.length + 1 ≤ d.inner.length := by
    simp only [inner, eq, separated, List.map_cons, List.length_append, List.length_cons] at enough ⊢
    simp only [List.length_map] at enough
    omega
  refine ⟨d.inner.length - (ms.length + 1), ?_⟩
  have fuel : d.members.length + (d.inner.length - (ms.length + 1) + 1) = d.inner.length + 1 := by
    rw [eq, List.length_cons]
    omega
  rw [part_nil, fuel, inner, eq]
  simp only [List.map_cons, separated, following_cons, List.cons_append, List.append_assoc]
  exact members_first _ _ _ _

private theorem Document.brace : Apart (d.final ++ '\x7d' :: d.after) :=
  apart_blanks d.final_blank (apart_cons rfl (by decide) _)

/-- All members are read, up to the closing brace. -/
theorem Document.members_read (printed : ReadsBack e.value) :
    ∃ fields, (∀ f, f ∉ fields → e.Omits f) ∧
      Reading.members true {} (d.inner.length + 1) d.inner = .ok (e.part fields, d.after) := by
  obtain ⟨fuel, start⟩ := d.inner_run
  have once : (named d.members ++ []).Nodup := by simpa using d.once
  obtain ⟨pre, fields, blanks, same, run⟩ :=
    members_run d.entries once (fun _ => printed) blank_nil d.brace (fuel + 1)
  refine ⟨fields, fun f left => d.omitted f fun there => left ((same f).mpr (.inl there)), ?_⟩
  rw [start]
  refine run.trans ?_
  rw [← List.append_assoc]
  exact members_end _ (List.forall_mem_append.mpr ⟨blanks, d.final_blank⟩) _ _

/-- A number that is not finite is no default, so its member is there, and is refused. -/
theorem Document.members_refused (finite : e.value.isFinite = false) :
    ∃ fault, Reading.members true {} (d.inner.length + 1) d.inner = .error fault := by
  obtain ⟨fuel, start⟩ := d.inner_run
  have there : .value ∈ named d.members := by
    by_contra left
    have default : e.value = .zero false := (d.omitted _ left).2
    rw [default] at finite
    cases finite
  have once : (named d.members ++ []).Nodup := by simpa using d.once
  rw [start]
  exact members_run_refused d.entries once there finite blank_nil d.brace (fuel + 1)

private theorem Document.event_run : Reading.event (d.before ++ '\x7b' :: d.inner) =
    (do
      let draft ← Reading.members true {} (d.inner.length + 1)
      StateT.lift (draft.finish fun f => .data ("missing field \x60" ++ f.key ++ "\x60"))) d.inner := by
  rw [Reading.event, blanks_append d.before_blank, ahead_run rfl]
  rfl

private theorem blanks_run {pre : List Char} (all : ∀ c ∈ pre, blank c = true) : blanks pre = .ok ((), []) := by
  refine congrArg (fun s => Except.ok ((), s)) ?_
  rw [← List.append_nil pre]
  exact List.dropWhile_append_of_pos all

/-- An event is read from each of its documents, if its number is. -/
theorem Document.read_printed (printed : ReadsBack e.value) :
    Event.read d.text = .ok e.settled := by
  obtain ⟨fields, omitted, read⟩ := d.members_read printed
  have event : Reading.event (d.before ++ '\x7b' :: d.inner) = .ok (e.settled, d.after) := by
    rw [d.event_run, bind_of_ok read, finish_part e fields _ omitted]
    rfl
  have document : Reading.document (d.before ++ '\x7b' :: d.inner) = .ok (e.settled, []) := by
    rw [Reading.document, bind_of_ok event, bind_of_ok (blanks_run d.after_blank)]
    rfl
  unfold Event.read Document.text
  rw [String.toList_ofList]
  exact congrArg (Except.map _) document

theorem Document.read_not_finite (finite : e.value.isFinite = false) :
    ∃ fault, Event.read d.text = .error fault := by
  obtain ⟨fault, refused⟩ := d.members_refused finite
  have event : Reading.event (d.before ++ '\x7b' :: d.inner) = .error fault := by
    rw [d.event_run]
    exact bind_of_error refused
  have document : Reading.document (d.before ++ '\x7b' :: d.inner) = .error fault := bind_of_error event
  refine ⟨fault, ?_⟩
  unfold Event.read Document.text
  rw [String.toList_ofList]
  exact congrArg (Except.map _) document

end Documents

section Compact
variable (e : Event)

/-- The value of a field as it is written in the event's own document. -/
def plain (f : Field) : List Char :=
  match e.text? f with
  | some s => textChars s
  | none => numberChars e.value

/-- A member without blanks. -/
def plainMember (f : Field) : Member where
  key := ⟨[], f.key.toList.flatMap escape, [], blank_nil, blank_nil⟩
  value := ⟨[], e.plain f, [], blank_nil, blank_nil⟩

theorem plain_writes (f : Field) : e.Writes f (e.plain f) := by
  unfold Writes plain
  cases e.text? f with
  | none => rfl
  | some s => exact ⟨_, spells_text _, by simp [textChars]⟩

private theorem named_plain : named (Field.all.map fun f => (some f, e.plainMember f)) = Field.all := rfl

/-- All fields in their order, without blanks. -/
def compact : e.Document where
  members := Field.all.map fun f => (some f, e.plainMember f)
  before := []
  final := []
  after := []
  entries := List.forall_mem_map.mpr fun f _ => .field (spells_text _) (e.plain_writes f)
  once := by
    rw [named_plain]
    decide
  omitted f left := absurd (by cases f <;> decide) (e.named_plain ▸ left)
  before_blank := blank_nil
  final_blank := blank_nil
  after_blank := blank_nil

theorem compact_text : e.compact.text = e.toTree.compact := by
  simp [Document.text, compact, toTree, Tree.compact, Tree.chars, Tree.membersChars, enclosed, separated,
    following, Field.all, plainMember, Member.padded, Padded.chars, plain, text?, lineBreak, textChars]

end Compact

/-- An event is read from each of its documents, the one without blanks among them, as long as its number is
read as it is printed: as it is if the leap second that it lies in, if any, ends a minute, and else with the
second after it for its leap second. An event whose number is not finite is read from none. -/
theorem read_document (e : Event) (printed : e.value.isFinite = true → ReadsBack e.value) :
    e.compact.text = e.toTree.compact ∧ (e.settled = e ↔ e.timestamp.LeapEndsMinute) ∧ ∀ d : e.Document,
      if e.value.isFinite then Event.read d.text = .ok e.settled
      else ∃ fault, Event.read d.text = .error fault := by
  refine ⟨e.compact_text, settled_eq_iff, fun d => ?_⟩
  split
  · rename_i finite
    exact d.read_printed (printed finite)
  · rename_i other
    exact d.read_not_finite (by simpa using other)

/-- An order of which neither the page nor the browser is told, in a leap second. -/
def order : Event where
  accountId := "GA4CT-1"
  clientId := "c"
  sessionId := "s"
  name := "Käufe \"neu\"\n"
  value := .ofDecimal false 4999 (-2)
  timestamp := ⟨16616, 59, 1500000000, by decide, by decide, by decide, by decide⟩
  pageLocation := ""
  pageTitle := ""
  pageReferrer := ""
  userAgent := ""
  screenResolution := ""

/-- A list, under a name that no field has. -/
def listed : Member where
  key := ⟨[' '], "name".toList.flatMap escape, [], by simp [blank], blank_nil⟩
  value := ⟨[' '], "[-1e9, null]".toList, ['\n'], by simp [blank], by simp [blank]⟩

private theorem listed_isValue : IsValue listed.value.core := by
  have one : IsNumeral "1e9".toList :=
    .mk (.of_toDigits 1) (by decide) (.inl rfl) (.inr ⟨'e', [], _, .inl rfl, .inl rfl, .of_toDigits 9, rfl⟩)
  let items : List Padded :=
    [⟨[], "-1e9".toList, [], blank_nil, blank_nil⟩, ⟨[' '], "null".toList, [], by simp [blank], blank_nil⟩]
  have each : ∀ item ∈ items, IsValue item.core := by
    simp only [items, List.forall_mem_cons, List.not_mem_nil, false_implies, implies_true, and_true]
    exact ⟨.negative one, .word (by decide)⟩
  have list : IsValue ('[' :: (separated items ++ ([] ++ [']']))) := .list (by simp) each
  exact list

/-- The order with a member more, in another order, and with blanks; its defaults are left out. -/
def relaid : order.Document where
  members := (none, listed) :: [Field.timestamp, .value, .name, .sessionId, .accountId, .clientId].map
    fun f => (some f, order.plainMember f)
  before := ['\n']
  final := [' ']
  after := ['\t']
  entries := List.forall_mem_cons.mpr ⟨.other (spells_text _) (by decide) listed_isValue,
    List.forall_mem_map.mpr fun f _ => .field (spells_text _) (order.plain_writes f)⟩
  once := by decide
  omitted f left := by
    cases f with
    | pageLocation | pageTitle | pageReferrer | userAgent | screenResolution => exact ⟨rfl, rfl⟩
    | _ => exact absurd (by decide) left
  before_blank := by simp [blank]
  final_blank := by simp [blank]
  after_blank := by simp [blank]

private theorem order_printed : order.value.isFinite = true ∧ ReadsBack order.value := by
  unfold ReadsBack
  decide +kernel

theorem read_document_order : (order.value.isFinite = true → ReadsBack order.value) ∧
    Event.read order.toTree.compact = .ok order ∧ Event.read relaid.text = .ok order := by
  obtain ⟨finite, printed⟩ := order_printed
  obtain ⟨compact, settled, read⟩ := read_document order fun _ => printed
  have plain := read order.compact
  have other := read relaid
  rw [if_pos finite, settled.mpr fun _ => rfl] at plain other
  exact ⟨fun _ => printed, compact ▸ plain, other⟩

/-- The order at 1333333333 nanoseconds past noon. -/
def withinMinute : Event :=
  { order with timestamp := ⟨16616, 43200, 1333333333, by decide, by decide, by decide, by decide⟩ }

/-- The document of the order up to its closing brace. -/
def unclosed : String :=
  String.ofList ('\x7b' :: separated (order.compact.members.map (·.2.padded)))

/-- A leap second within a minute comes back as the second after it. A member whose name is half of a
character, which the grammar allows, is not passed over. -/
theorem not_read_back :
    (withinMinute.value.isFinite = true ∧ ReadsBack withinMinute.value) ∧
      Event.read withinMinute.toTree.compact = .ok { order with
        timestamp := ⟨16616, 43201, 333333333, by decide, by decide, by decide, by decide⟩ } ∧
      Event.read withinMinute.toTree.compact ≠ .ok withinMinute ∧
      (order.toTree.compact = unclosed ++ "\x7d" ∧ IsBody "\\ud800".toList ∧ IsValue "1".toList ∧
        Event.read (unclosed ++ ",\"\\ud800\":1\x7d") = .error .syntactic) := by
  have read : Event.read withinMinute.toTree.compact = .ok { order with
      timestamp := ⟨16616, 43201, 333333333, by decide, by decide, by decide, by decide⟩ } := by
    rw [← compact_text, withinMinute.compact.read_printed order_printed.2]
    rfl
  have half : IsCode "d800".toList 0xd800 := ⟨rfl, List.all_iff_forall_prop.mp (by decide), rfl⟩
  refine ⟨order_printed, read, fun same => ?_, ?_, .code half .nil, ?_, ?_⟩
  · rw [read] at same
    have second := congrArg (fun e => e.timestamp.second) (Except.ok.inj same)
    exact absurd second (by decide)
  · rw [← compact_text, unclosed, Document.text, ← String.ofList_append]
    rfl
  · exact .numeral (.mk (.of_toDigits 1) (by decide) (.inl rfl) (.inl rfl))
  · unfold Event.read unclosed
    rw [String.toList_append, String.toList_ofList]
    decide +kernel

end Clickstream.Event
