import Clickstream.Proofs.Catalog.Validation
import Clickstream.Proofs.Text.Blank
import Clickstream.Proofs.Text.Trim

/-! Lists of keys as they may be written, and what is read from them. A list is a text of segments with
commas between them; a segment is blank, or a key with blanks around it. -/
namespace Clickstream.Catalog

/-- A word of small letters, digits and underscores. -/
structure IsWord (key : String) : Prop where
  nonempty : key ≠ ""
  plain : ∀ c ∈ key.toList, c.isLower = true ∨ c.isDigit = true ∨ c = '_'

/-- What may stand between two commas, and the keys in it: none, or one. -/
inductive Segment : List Char → List String → Prop
  | blank {cs : List Char} (blanks : ∀ c ∈ cs, Text.isBlank c = true) : Segment cs []
  | key {before after : List Char} {key : String} (blanks : ∀ c ∈ before, Text.isBlank c = true)
    (blanks' : ∀ c ∈ after, Text.isBlank c = true) : Segment (before ++ key.toList ++ after) [key]

/-- The text writes the keys: one segment or more, with a comma between any two. -/
inductive Writes : List Char → List String → Prop
  | last {segment : List Char} {keys : List String} (here : Segment segment keys) : Writes segment keys
  | more {segment rest : List Char} {keys others : List String} (here : Segment segment keys)
    (later : Writes rest others) : Writes (segment ++ ',' :: rest) (keys ++ others)

/-- A segment with a key, trimmed and not blank, that is none of those known. -/
structure Unknown (known : List String) (segment : List Char) (key : String) : Prop where
  here : Segment segment [key]
  trimmed : Text.trim key = key
  nonempty : key ≠ ""
  unbroken : ',' ∉ key.toList
  unknown : key ∉ known

/-- The first segment of the text that is neither blank nor a known key has this key. Whatever is behind
that segment does not count. -/
inductive Misses (known : List String) : List Char → String → Prop
  | last {segment : List Char} {key : String} (here : Unknown known segment key) : Misses known segment key
  | here {segment : List Char} {key : String} (here : Unknown known segment key) (rest : List Char) :
    Misses known (segment ++ ',' :: rest) key
  | later {segment rest : List Char} {keys : List String} {key : String} (here : Segment segment keys)
    (all : ∀ k ∈ keys, k ∈ known) (misses : Misses known rest key) :
    Misses known (segment ++ ',' :: rest) key

section Words
variable {key : String}

theorem IsWord.solid (word : IsWord key) : ∀ c ∈ key.toList, Text.isBlank c = false ∧ c ≠ ',' := by
  intro c there
  rcases word.plain c there with lower | digit | rfl
  · exact ⟨Text.isBlank_of_isLower lower, by rintro rfl; cases lower⟩
  · exact ⟨Text.isBlank_of_isDigit digit, by rintro rfl; cases digit⟩
  · exact ⟨by decide, by decide⟩

theorem IsWord.trimmed (word : IsWord key) : Text.trim key = key :=
  Text.trim_solid fun c there => (word.solid c there).1

theorem IsWord.unbroken (word : IsWord key) : ',' ∉ key.toList := fun there =>
  (word.solid ',' there).2 rfl

end Words

/-- The key of a segment, if it is not blank. -/
def segmentKeys (segment : List Char) : List String :=
  [Text.trim (String.ofList segment)].filter fun key => key ≠ ""

/-- The keys between the commas of a text. -/
def keysOf (cs : List Char) : List String := (Text.pieces (· == ',') cs).flatMap segmentKeys

theorem splitKeys_eq (text : String) : splitKeys text = keysOf text.toList := by
  rw [splitKeys, Text.splitAt, List.map_map, keysOf]
  induction Text.pieces (· == ',') text.toList with
  | nil => rfl
  | cons piece pieces ih =>
    rw [List.map_cons, List.flatMap_cons, ← ih, ← List.singleton_append, List.filter_append]
    rfl

section Segments
variable {segment rest : List Char} {key : String} {keys : List String}

theorem keysOf_last (whole : ∀ c ∈ segment, (c == ',') = false) : keysOf segment = segmentKeys segment := by
  rw [keysOf, Text.pieces_solid whole, List.flatMap_singleton]

theorem keysOf_more (whole : ∀ c ∈ segment, (c == ',') = false) (rest : List Char) :
    keysOf (segment ++ ',' :: rest) = segmentKeys segment ++ keysOf rest := by
  rw [keysOf, Text.pieces_append whole rfl, List.flatMap_cons]
  rfl

/-- Whatever stands in a segment is its key. -/
theorem segment_keys (segment : List Char) : Segment segment (segmentKeys segment) := by
  obtain ⟨before, after, blanks, blanks', same⟩ := Text.trim_spec (String.ofList segment)
  rw [String.toList_ofList] at same
  unfold segmentKeys
  generalize Text.trim (String.ofList segment) = key at same
  subst same
  by_cases none_ : key = ""
  · subst none_
    exact .blank (by simpa [or_imp, forall_and] using ⟨blanks, blanks'⟩)
  · rw [List.filter_cons_of_pos (by simpa using none_), List.filter_nil]
    exact .key blanks blanks'

/-- A segment has one key or none. -/
theorem segmentKeys_cases (segment : List Char) :
    segmentKeys segment = [] ∨ ∃ key, segmentKeys segment = [key] ∧ Text.trim key = key ∧ key ≠ "" := by
  by_cases none_ : Text.trim (String.ofList segment) = ""
  · exact .inl (by simp [segmentKeys, none_])
  · exact .inr ⟨_, by simp [segmentKeys, none_], Text.trim_trim _, none_⟩

theorem segmentKeys_blank (blanks : ∀ c ∈ segment, Text.isBlank c = true) : segmentKeys segment = [] := by
  have cut : Text.trim (String.ofList segment) = "" := by
    have empty : Text.trim (String.ofList (segment ++ [] ++ [])) = _ :=
      Text.trim_append blanks (List.forall_mem_nil _)
    rwa [List.append_nil, List.append_nil] at empty
  simp [segmentKeys, cut]

theorem segmentKeys_key (here : Segment segment [key]) (trimmed : Text.trim key = key)
    (nonempty : key ≠ "") : segmentKeys segment = [key] := by
  cases here with
  | key blanks blanks' =>
    rw [segmentKeys, Text.trim_append blanks blanks', String.ofList_toList, trimmed]
    simp [nonempty]

/-- A segment without a comma has keys without one. -/
theorem key_unbroken (here : Segment segment [key]) (whole : ∀ c ∈ segment, (c == ',') = false) :
    ',' ∉ key.toList := by
  cases here with
  | key => exact fun there => absurd (whole ',' (by simp [there])) (by decide)

theorem segment_whole (here : Segment segment keys) (unbroken : ∀ key ∈ keys, ',' ∉ key.toList) :
    ∀ c ∈ segment, (c == ',') = false := by
  have comma {c : Char} (blank : Text.isBlank c = true) : (c == ',') = false := by
    rw [beq_eq_false_iff_ne]
    rintro rfl
    cases blank
  intro c there
  cases here with
  | blank blanks => exact comma (blanks c there)
  | @key before after key blanks blanks' =>
    simp only [List.mem_append] at there
    rcases there with (there | there) | there
    · exact comma (blanks c there)
    · rw [beq_eq_false_iff_ne]
      rintro rfl
      exact unbroken key (List.mem_singleton_self key) there
    · exact comma (blanks' c there)

/-- A segment of words is read as them. -/
theorem segmentKeys_words (here : Segment segment keys) (words : ∀ key ∈ keys, IsWord key) :
    segmentKeys segment = keys := by
  cases here with
  | blank blanks => exact segmentKeys_blank blanks
  | @key before after key blanks blanks' =>
    have word := words key (List.mem_singleton_self key)
    exact segmentKeys_key (.key blanks blanks') word.trimmed word.nonempty

end Segments

section Written
variable {cs : List Char} {keys known : List String} {key : String}

/-- Every text writes the keys that are read from it. -/
theorem writes_keysOf (cs : List Char) : Writes cs (keysOf cs) := by
  induction cs using Text.pieces_induction (p := (· == ',')) with
  | last segment whole =>
    rw [keysOf_last whole]
    exact .last (segment_keys segment)
  | more segment separator rest whole comma later =>
    obtain rfl : separator = ',' := by simpa using comma
    rw [keysOf_more whole]
    exact .more (segment_keys segment) later

/-- Words are read as they are written. -/
theorem keysOf_writes (writes : Writes cs keys) (words : ∀ key ∈ keys, IsWord key) : keysOf cs = keys := by
  induction writes with
  | last here =>
    rw [keysOf_last (segment_whole here fun key there => (words key there).unbroken),
      segmentKeys_words here words]
  | more here _ ih =>
    obtain ⟨first, others⟩ := List.forall_mem_append.mp words
    rw [keysOf_more (segment_whole here fun key there => (first key there).unbroken),
      segmentKeys_words here first, ih others]

/-- The keys before the one that is missed are known. -/
theorem Misses.splits (words : ∀ key ∈ known, IsWord key) (misses : Misses known cs key) :
    key ∉ known ∧ ∃ front behind, keysOf cs = front ++ key :: behind ∧ ∀ k ∈ front, k ∈ known := by
  induction misses with
  | @last segment key here =>
    have whole := segment_whole here.here (by simpa using here.unbroken)
    rw [keysOf_last whole, segmentKeys_key here.here here.trimmed here.nonempty]
    exact ⟨here.unknown, [], [], rfl, List.forall_mem_nil _⟩
  | @here segment key here rest =>
    have whole := segment_whole here.here (by simpa using here.unbroken)
    rw [keysOf_more whole, segmentKeys_key here.here here.trimmed here.nonempty]
    exact ⟨here.unknown, [], keysOf rest, rfl, List.forall_mem_nil _⟩
  | later here all _ ih =>
    obtain ⟨unknown, front, behind, read, front_known⟩ := ih
    have whole := segment_whole here fun k there => (words k (all k there)).unbroken
    rw [keysOf_more whole, segmentKeys_words here fun k there => words k (all k there)]
    exact ⟨unknown, _ ++ front, behind, by rw [read, List.append_assoc],
      List.forall_mem_append.mpr ⟨all, front_known⟩⟩

/-- A key that is read and not known, after known ones, is missed. -/
theorem misses_of_keysOf (unknown : key ∉ known) {front behind : List String}
    (read : keysOf cs = front ++ key :: behind) (front_known : ∀ k ∈ front, k ∈ known) :
    Misses known cs key := by
  have first {segment : List Char} (whole : ∀ c ∈ segment, (c == ',') = false)
      (only : segmentKeys segment = [key]) (trimmed : Text.trim key = key) (nonempty : key ≠ "") :
      Unknown known segment key := by
    have here : Segment segment [key] := only ▸ segment_keys segment
    exact ⟨here, trimmed, nonempty, key_unbroken here whole, unknown⟩
  induction cs using Text.pieces_induction (p := (· == ',')) generalizing front with
  | last segment whole =>
    rw [keysOf_last whole] at read
    rcases segmentKeys_cases segment with none_ | ⟨k, one, trimmed, nonempty⟩
    · simp [none_] at read
    · obtain ⟨rfl, rfl, rfl⟩ : front = [] ∧ k = key ∧ behind = [] := by
        rw [one] at read
        cases front <;> simp_all
      exact .last (first whole one trimmed nonempty)
  | more segment separator rest whole comma later =>
    obtain rfl : separator = ',' := by simpa using comma
    rw [keysOf_more whole] at read
    have here := segment_keys segment
    rcases segmentKeys_cases segment with none_ | ⟨k, one, trimmed, nonempty⟩
    · rw [none_] at read here
      exact .later here (List.forall_mem_nil _) (later read front_known)
    · rw [one] at read here
      cases front with
      | nil =>
        obtain ⟨rfl, -⟩ := List.cons.inj read
        exact .here (first whole one trimmed nonempty) rest
      | cons f front =>
        obtain ⟨rfl, read'⟩ := List.cons.inj read
        obtain ⟨k_known, front_known'⟩ := List.forall_mem_cons.mp front_known
        exact .later here (List.forall_mem_singleton.mpr k_known) (later read' front_known')

/-- The first segment with an unknown key has the first unknown key that is read. -/
theorem misses_iff (words : ∀ key ∈ known, IsWord key) :
    Misses known cs key ↔ key ∉ known ∧ ∃ front behind, keysOf cs = front ++ key :: behind ∧
      ∀ k ∈ front, k ∈ known :=
  ⟨Misses.splits words, fun ⟨unknown, _, _, read, front_known⟩ => misses_of_keysOf unknown read front_known⟩

end Written

section Resolve
variable {c : Catalog} {kind : Kind} {text : String}

/-- The keys read are those of the entries, where the keys of entries differ. -/
theorem resolve_ok (distinct : ((c.entries kind).map Entry.key).Nodup) {entries : List Entry} :
    c.resolve kind text = .ok entries ↔
      (∀ x ∈ entries, x ∈ c.entries kind) ∧ keysOf text.toList = entries.map Entry.key := by
  rw [resolve, splitKeys_eq, mapM_ok]
  simp only [lookup_ok distinct]
  generalize keysOf text.toList = keys
  constructor
  · intro each
    induction each with
    | nil => simp
    | cons first _ ih =>
      exact ⟨List.forall_mem_cons.mpr ⟨first.1, ih.1⟩, by rw [List.map_cons, first.2, ih.2]⟩
  · rintro ⟨all, rfl⟩
    rw [List.forall₂_map_left_iff, List.forall₂_same]
    exact fun x there => ⟨all x there, rfl⟩

/-- Else the error is the first key read that no entry has. -/
theorem resolve_error {e : CatalogError} :
    c.resolve kind text = .error e ↔ ∃ key, e = .notFound kind key ∧
      key ∉ (c.entries kind).map Entry.key ∧ ∃ front behind, keysOf text.toList = front ++ key :: behind ∧
        ∀ k ∈ front, k ∈ (c.entries kind).map Entry.key := by
  rw [resolve, splitKeys_eq, mapM_error_split]
  simp only [lookup_error, lookup_found]
  constructor
  · rintro ⟨front, key, behind, read, ⟨unknown, rfl⟩, front_known⟩
    exact ⟨key, rfl, unknown, front, behind, read, front_known⟩
  · rintro ⟨key, rfl, unknown, front, behind, read, front_known⟩
    exact ⟨front, key, behind, read, ⟨unknown, rfl⟩, front_known⟩

/-- Lists of keys resolve as they are written. Where the keys of a kind are different words, the entries of
a list are resolved exactly if they are of that kind and the list writes their keys, in order and with
repetitions, with whatever blanks around them and whatever blank segments between them. Else the error is
the key of the first segment that is neither blank nor a key of the kind. -/
theorem resolve_written (words : ∀ x ∈ c.entries kind, IsWord x.key)
    (distinct : ((c.entries kind).map Entry.key).Nodup) (text : String) :
    (∀ entries, c.resolve kind text = .ok entries ↔
      (∀ x ∈ entries, x ∈ c.entries kind) ∧ Writes text.toList (entries.map Entry.key)) ∧
    ∀ e, c.resolve kind text = .error e ↔
      ∃ key, e = .notFound kind key ∧ Misses ((c.entries kind).map Entry.key) text.toList key := by
  refine ⟨fun entries => ?_, fun e => ?_⟩
  · rw [resolve_ok distinct]
    refine and_congr_right fun all => ⟨fun read => read ▸ writes_keysOf _, fun writes => ?_⟩
    exact keysOf_writes writes (List.forall_mem_map.mpr fun x there => words x (all x there))
  · rw [resolve_error]
    exact exists_congr fun key => and_congr_right fun _ => (misses_iff (List.forall_mem_map.mpr words)).symm

end Resolve

private theorem standard_words : ∀ x ∈ standard.entries .dimension, x.key ≠ "" ∧
    ∀ c ∈ x.key.toList, c.isLower = true ∨ c.isDigit = true ∨ c = '_' := by
  simp [standard, entries]

/-- An em space and a space around keys, a blank segment and an empty one, and a key that comes twice; and
a key in capitals, before one that is known. -/
theorem resolve_written_standard :
    let date : Entry := ⟨"date", "Date", "TO_CHAR(timestamp, 'YYYY-MM-DD')"⟩
    let month : Entry := ⟨"month", "Month", "TO_CHAR(timestamp, 'YYYY-MM')"⟩
    (∀ x ∈ standard.entries .dimension, IsWord x.key) ∧
      ((standard.entries .dimension).map Entry.key).Nodup ∧
      standard.resolve .dimension "\u2003date ,month, ,,date" = .ok [date, month, date] ∧
      standard.resolve .dimension ",date, DATE,month" = .error (.notFound .dimension "DATE") := by
  intro date month
  have words : ∀ x ∈ standard.entries .dimension, IsWord x.key :=
    fun x there => ⟨(standard_words x there).1, (standard_words x there).2⟩
  have distinct : ((standard.entries .dimension).map Entry.key).Nodup := by decide
  have blank (cs : List Char) (blanks : cs.all Text.isBlank = true) : Segment cs [] :=
    .blank (List.all_eq_true.mp blanks)
  have padded (before after : List Char) (key : String) (blanks : before.all Text.isBlank = true)
      (blanks' : after.all Text.isBlank = true) : Segment (before ++ key.toList ++ after) [key] :=
    .key (List.all_eq_true.mp blanks) (List.all_eq_true.mp blanks')
  have pieces : "\u2003date ,month, ,,date".toList = (['\u2003'] ++ "date".toList ++ [' ']) ++
      ',' :: (([] ++ "month".toList ++ []) ++ ',' :: ([' '] ++ ',' :: ([] ++
        ',' :: ([] ++ "date".toList ++ [])))) := by decide +kernel
  have pieces' : ",date, DATE,month".toList = [] ++ ',' :: (([] ++ "date".toList ++ []) ++
      ',' :: (([' '] ++ "DATE".toList ++ []) ++ ',' :: "month".toList)) := by decide +kernel
  refine ⟨words, distinct, ?_, ?_⟩
  · refine ((resolve_written words distinct _).1 _).mpr ⟨by decide, ?_⟩
    rw [pieces]
    exact .more (padded _ _ _ rfl rfl) (.more (padded _ _ _ rfl rfl) (.more (blank _ rfl)
      (.more (blank _ rfl) (.last (padded _ _ _ rfl rfl)))))
  · refine ((resolve_written words distinct _).2 _).mpr ⟨"DATE", rfl, ?_⟩
    rw [pieces']
    refine .later (blank _ rfl) (by decide) (.later (padded _ _ "date" rfl rfl) (by decide) ?_)
    exact .here ⟨padded _ _ _ rfl rfl, by decide +kernel, by decide, by decide +kernel, by decide⟩ _

end Clickstream.Catalog
