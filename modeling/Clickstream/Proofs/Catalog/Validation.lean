import Mathlib.Data.List.Induction
import Mathlib.Data.List.Nodup
import Clickstream.Catalog.Validation
import Clickstream.Proofs.Outcome

/-! What it means for a catalog, and for an expression in it, to be accepted. -/
namespace Clickstream
open Sql

/-- A text is accepted as one bare expression exactly if, made into a select, it is read as that
select of that expression alone, and the expression reads no relation that the check sees. -/
theorem bareExpression_ok {text : String} {e : Expr} :
    bareExpression text = .ok e ↔
      (∃ quantifier, quantifier ≠ .distinct ∧ Statement.readAll ("SELECT " ++ text) =
        some [.query (.query [] (.select (.select quantifier [.plain e] [] [])) [])]) ∧
      e.readsRelation = false := by
  constructor
  · intro accepted
    unfold bareExpression at accepted
    split at accepted
    · cases accepted
    · rename_i tables body clauses read
      split at accepted
      · cases accepted
      · rename_i bare
        simp only [Bool.or_eq_true, Bool.not_eq_eq_eq_not, Bool.not_true, not_or,
          Bool.not_eq_false, List.isEmpty_iff] at bare
        obtain ⟨rfl, rfl⟩ := bare
        split at accepted
        · split at accepted
          · rename_i quantifier items sources selectClauses item
            split at accepted
            · cases accepted
            · rename_i plain
              simp only [Bool.or_eq_true, decide_eq_true_eq, Bool.not_eq_eq_eq_not, Bool.not_true,
                not_or, Bool.not_eq_false, List.isEmpty_iff] at plain
              obtain ⟨⟨some_, rfl⟩, rfl⟩ := plain
              split at accepted
              · split at accepted
                · cases accepted
                · rename_i blind
                  cases accepted
                  exact ⟨⟨quantifier, some_, read⟩, by simpa using blind⟩
              · cases accepted
          · cases accepted
        · cases accepted
    · cases accepted
  · rintro ⟨⟨quantifier, some_, read⟩, blind⟩
    unfold bareExpression
    rw [read]
    simp [some_, blind]

/-- What an accepted text is accepted as. -/
theorem Misfit.find?_none {kind : Kind} {text : String} :
    Misfit.find? kind text = none ↔
      ∃ e, bareExpression text = .ok e ∧ (e.aggregates = true ↔ kind = .measure) := by
  unfold Misfit.find?
  cases bareExpression text with
  | error misfit => simp
  | ok e => cases kind <;> cases aggregating : e.aggregates <;> simp [aggregating]

namespace Catalog
variable {kind : Kind} {entries : List Entry}

/-- The keys of the entries differ, and every expression is fit for the kind. -/
structure Sound (kind : Kind) (entries : List Entry) : Prop where
  distinct : (entries.map Entry.key).Nodup
  fit : ∀ x ∈ entries, Misfit.find? kind x.expression = none

/-- What is wrong with an entry after others of its kind. If its key was there before, its expression
does not count. -/
inductive Faulty (kind : Kind) (before : List Entry) (x : Entry) : CatalogError → Prop
  | repeated (known : x.key ∈ before.map Entry.key) : Faulty kind before x (.duplicateKey x.key)
  | unfit {misfit : Misfit} (new : x.key ∉ before.map Entry.key)
    (found : Misfit.find? kind x.expression = some misfit) :
    Faulty kind before x (.invalidExpression x.key misfit)

/-- What is wrong with the first entry that there is something wrong with. -/
def FirstFault (kind : Kind) (entries : List Entry) (e : CatalogError) : Prop :=
  ∃ before x after, entries = before ++ x :: after ∧ Sound kind before ∧ Faulty kind before x e

/-- One more entry keeps entries sound exactly if its key is new and its expression fit. -/
theorem sound_concat {before : List Entry} {x : Entry} :
    Sound kind (before ++ [x]) ↔
      Sound kind before ∧ x.key ∉ before.map Entry.key ∧ Misfit.find? kind x.expression = none := by
  have keys : (before ++ [x]).map Entry.key = (before.map Entry.key).concat x.key := by simp
  constructor
  · rintro ⟨distinct, fit⟩
    rw [keys, List.nodup_concat] at distinct
    obtain ⟨earlier, here⟩ := List.forall_mem_append.mp fit
    exact ⟨⟨distinct.2, earlier⟩, distinct.1, here x (List.mem_singleton_self x)⟩
  · rintro ⟨⟨distinct, fit⟩, new, here⟩
    refine ⟨?_, List.forall_mem_append.mpr ⟨fit, List.forall_mem_singleton.mpr here⟩⟩
    rw [keys, List.nodup_concat]
    exact ⟨new, distinct⟩

/-- Entries are sound, or one of them is the first at fault. -/
theorem sound_or_fault (kind : Kind) (entries : List Entry) :
    Sound kind entries ∨ ∃ e, FirstFault kind entries e := by
  induction entries using List.reverseRecOn with
  | nil => exact .inl ⟨List.nodup_nil, List.forall_mem_nil _⟩
  | append_singleton before x ih =>
    rcases ih with sound | ⟨e, front, y, after, rfl, sound, faulty⟩
    · by_cases known : x.key ∈ before.map Entry.key
      · exact .inr ⟨_, before, x, [], rfl, sound, .repeated known⟩
      · cases found : Misfit.find? kind x.expression with
        | none => exact .inl (sound_concat.mpr ⟨sound, known, found⟩)
        | some misfit => exact .inr ⟨_, before, x, [], rfl, sound, .unfit known found⟩
    · exact .inr ⟨e, front, y, after ++ [x], by simp, sound, faulty⟩

/-- Sound entries are passed by, and their keys remembered. -/
theorem validateEntries_sound {before : List Entry} (sound : Sound kind before) (rest : List Entry) :
    validateEntries kind [] (before ++ rest) =
      validateEntries kind (before.map Entry.key).reverse rest := by
  induction before using List.reverseRecOn generalizing rest with
  | nil => rfl
  | append_singleton before x ih =>
    obtain ⟨earlier, new, fit⟩ := sound_concat.mp sound
    have unseen : ((before.map Entry.key).reverse.contains x.key) = false := by simpa using new
    rw [List.append_assoc, ih earlier, List.singleton_append, validateEntries, unseen, fit]
    simp

theorem validateEntries_fault {e : CatalogError} (fault : FirstFault kind entries e) :
    validateEntries kind [] entries = .error e := by
  obtain ⟨before, x, after, rfl, sound, faulty⟩ := fault
  rw [validateEntries_sound sound, validateEntries]
  cases faulty with
  | repeated known =>
    rw [if_pos (by simpa using known)]
  | unfit new found =>
    rw [if_neg (by simpa using new), found]

/-- Entries of one kind pass exactly if they are sound. -/
theorem validateEntries_ok : validateEntries kind [] entries = .ok () ↔ Sound kind entries := by
  constructor
  · intro passed
    rcases sound_or_fault kind entries with sound | ⟨e, fault⟩
    · exact sound
    · rw [validateEntries_fault fault] at passed
      cases passed
  · intro sound
    simpa [validateEntries] using validateEntries_sound sound []

/-- Else the error is that of the first at fault. -/
theorem validateEntries_error {e : CatalogError} :
    validateEntries kind [] entries = .error e ↔ FirstFault kind entries e := by
  refine ⟨fun failed => ?_, validateEntries_fault⟩
  rcases sound_or_fault kind entries with sound | ⟨e', fault⟩
  · rw [validateEntries_ok.mpr sound] at failed
    cases failed
  · rw [validateEntries_fault fault] at failed
    cases failed
    exact fault

variable {c : Catalog}

/-- A catalog is accepted exactly if its dimensions and its measures are sound, each for themselves. -/
theorem validate_ok : c.validate = .ok () ↔ ∀ kind, Sound kind (c.entries kind) := by
  rw [validate, bind_eq_ok]
  constructor
  · rintro ⟨⟨⟩, dimensions, measures⟩ kind
    cases kind with
    | dimension => exact validateEntries_ok.mp dimensions
    | measure => exact validateEntries_ok.mp measures
  · exact fun each =>
      ⟨(), validateEntries_ok.mpr (each .dimension), validateEntries_ok.mpr (each .measure)⟩

/-- Else the error is that of the first entry at fault, dimensions before measures. -/
theorem validate_error {e : CatalogError} :
    c.validate = .error e ↔ FirstFault .dimension c.dimensions e ∨
      Sound .dimension c.dimensions ∧ FirstFault .measure c.measures e := by
  rw [validate, bind_eq_error, validateEntries_error]
  refine or_congr_right ?_
  constructor
  · rintro ⟨⟨⟩, dimensions, measures⟩
    exact ⟨validateEntries_ok.mp dimensions, validateEntries_error.mp measures⟩
  · rintro ⟨sound, fault⟩
    exact ⟨(), validateEntries_ok.mpr sound, validateEntries_error.mpr fault⟩

/-- All entries of an accepted catalog are fit for their kind. -/
theorem validate_fit (valid : c.validate = .ok ()) (kind : Kind) :
    ∀ x ∈ c.entries kind, Misfit.find? kind x.expression = none :=
  (validate_ok.mp valid kind).fit

/-- What is found is an entry of the kind with this key. -/
theorem mem_of_lookup {key : String} {x : Entry} (found : c.lookup kind key = .ok x) :
    x ∈ c.entries kind ∧ x.key = key := by
  unfold lookup at found
  cases here : (c.entries kind).find? fun e => e.key == key with
  | none => simp [here] at found
  | some y =>
    simp only [here, Except.ok.injEq] at found
    subst found
    exact ⟨List.mem_of_find?_eq_some here, by simpa using List.find?_some here⟩

/-- Where the keys differ, an entry is found by its key alone. -/
theorem lookup_ok (distinct : ((c.entries kind).map Entry.key).Nodup) {key : String} {x : Entry} :
    c.lookup kind key = .ok x ↔ x ∈ c.entries kind ∧ x.key = key := by
  constructor
  · exact mem_of_lookup
  · rintro ⟨there, rfl⟩
    unfold lookup
    cases here : (c.entries kind).find? fun e => e.key == x.key with
    | none => exact absurd (List.find?_eq_none.mp here x there) (by simp)
    | some y =>
      have same : y.key = x.key := by simpa using List.find?_some here
      rw [List.inj_on_of_nodup_map distinct (List.mem_of_find?_eq_some here) there same]

private theorem absent_iff {key : String} :
    (c.entries kind).find? (fun e => e.key == key) = none ↔ key ∉ (c.entries kind).map Entry.key := by
  simp [List.find?_eq_none]

/-- Whatever the catalog, a key is not found exactly if no entry of the kind has it. -/
theorem lookup_error {key : String} {e : CatalogError} :
    c.lookup kind key = .error e ↔
      key ∉ (c.entries kind).map Entry.key ∧ e = .notFound kind key := by
  rw [← absent_iff, lookup]
  cases (c.entries kind).find? fun e => e.key == key <;> simp [eq_comm]

theorem lookup_found {key : String} :
    (∃ x, c.lookup kind key = .ok x) ↔ key ∈ (c.entries kind).map Entry.key := by
  rw [← not_iff_not, ← absent_iff, lookup]
  cases (c.entries kind).find? fun e => e.key == key <;> simp

/-- Validation is exact. It accepts a catalog exactly if its dimensions have different keys, its measures
have different keys, and every expression is fit for its kind; keys of different kinds are not compared. Else
the error is that of the first entry at fault, dimensions before measures, and a repeated key comes before
an unfit expression. In an accepted catalog every entry is found by its key, and any other key is the
error's. -/
theorem validate_exact (c : Catalog) :
    (c.validate = .ok () ↔
      ∀ kind, ((c.entries kind).map Entry.key).Nodup ∧
        ∀ x ∈ c.entries kind, Misfit.find? kind x.expression = none) ∧
    (∀ e, c.validate = .error e ↔ FirstFault .dimension c.dimensions e ∨
      Sound .dimension c.dimensions ∧ FirstFault .measure c.measures e) ∧
    (c.validate = .ok () → ∀ kind,
      (∀ x ∈ c.entries kind, c.lookup kind x.key = .ok x) ∧
      ∀ key, key ∉ (c.entries kind).map Entry.key →
        c.lookup kind key = .error (.notFound kind key)) := by
  refine ⟨?_, fun e => validate_error, fun valid kind => ⟨fun x there => ?_, fun key absent => ?_⟩⟩
  · rw [validate_ok]
    exact forall_congr' fun kind =>
      ⟨fun sound => ⟨sound.distinct, sound.fit⟩, fun sound => ⟨sound.1, sound.2⟩⟩
  · exact (lookup_ok (validate_ok.mp valid kind).distinct).mpr ⟨there, rfl⟩
  · exact lookup_error.mpr ⟨absent, rfl⟩

private theorem sharing_fit :
    Misfit.find? .dimension "name" = none ∧ Misfit.find? .measure "COUNT(*)" = none := by
  decide +kernel

/-- A dimension and a measure may have the same key; where two dimensions have it, that the second is no
expression does not count. -/
theorem validate_exact_sharing :
    let name : Entry := ⟨"k", "Name", "name"⟩
    let count : Entry := ⟨"k", "Count", "COUNT(*)"⟩
    let c : Catalog := ⟨[name], [count]⟩
    c.validate = .ok () ∧ c.lookup .dimension "k" = .ok name ∧ c.lookup .measure "k" = .ok count ∧
      c.lookup .measure "j" = .error (.notFound .measure "j") ∧
      Catalog.validate ⟨[name, ⟨"k", "Nothing", ""⟩], [count]⟩ = .error (.duplicateKey "k") := by
  intro name count c
  obtain ⟨dimension, measure⟩ := sharing_fit
  have valid : c.validate = .ok () := by
    refine (validate_exact c).1.mpr fun kind => ?_
    cases kind with
    | dimension => exact ⟨List.nodup_singleton _, List.forall_mem_singleton.mpr dimension⟩
    | measure => exact ⟨List.nodup_singleton _, List.forall_mem_singleton.mpr measure⟩
  have found := (validate_exact c).2.2 valid
  refine ⟨valid, (found .dimension).1 name (by decide), (found .measure).1 count (by decide),
    (found .measure).2 "j" (by decide), ?_⟩
  have sound : Sound .dimension [name] := ⟨List.nodup_singleton _, List.forall_mem_singleton.mpr dimension⟩
  exact ((validate_exact _).2.1 _).mpr (.inl ⟨[name], _, [], rfl, sound, .repeated (by decide)⟩)

end Catalog
end Clickstream
