import Mathlib.Data.List.Induction
import Clickstream.Proofs.Query.Statement

/-! Queries that are set part by part: what is left of the settings, and the statement of that. -/
namespace Clickstream
namespace Query

/-- The dimensions that a setting asks for, if it is one of dimensions. -/
def Setting.dimensions? : Setting → Option (List Entry)
  | .dimensions entries => some entries
  | _ => none

def Setting.measures? : Setting → Option (List Entry)
  | .measures entries => some entries
  | _ => none

def Setting.limit? : Setting → Option Nat
  | .limit rows => some rows
  | _ => none

/-- What the last setting of a part asks for, if there is one. -/
def last? {α : Type} (part? : Setting → Option α) (settings : List Setting) : Option α :=
  (settings.filterMap part?).getLast?

/-- The last dimensions that are asked for; none without a setting of them. -/
def lastDimensions (settings : List Setting) : List Entry :=
  (last? Setting.dimensions? settings).getD []

def lastMeasures (settings : List Setting) : List Entry :=
  (last? Setting.measures? settings).getD []

/-- The last limit that is asked for; zero, which is no limit, without a setting of it. -/
def lastLimit (settings : List Setting) : Nat := (last? Setting.limit? settings).getD 0

section Last
variable (settings : List Setting) (s : Setting)

/-- A setting hides the earlier ones of its part, and those alone. -/
theorem last?_concat {α : Type} (part? : Setting → Option α) :
    last? part? (settings ++ [s]) = (part? s).or (last? part? settings) := by
  rw [last?, last?, List.filterMap_append, List.getLast?_append]
  cases here : part? s <;> simp [here]

theorem ofSettings_concat : ofSettings (settings ++ [s]) = (ofSettings settings).set s := by
  rw [ofSettings, ofSettings, List.foldl_append]
  rfl

/-- Of settings one after another the last of each part is left. -/
theorem ofSettings_last : ofSettings settings =
    ⟨lastDimensions settings, lastMeasures settings,
      if lastLimit settings = 0 then none else some (lastLimit settings)⟩ := by
  induction settings using List.reverseRecOn with
  | nil => rfl
  | append_singleton settings s ih =>
    rw [ofSettings_concat, ih]
    unfold lastDimensions lastMeasures lastLimit
    simp only [last?_concat]
    cases s <;> rfl

end Last

/-- The numbers that the dimensions are grouped by. -/
def ordinals (dimensions : List Entry) : List Nat := List.range' 1 dimensions.length

/-- The ordinals pick the dimensions out of the columns, each the one of its place, and no measure. -/
theorem ordinals_pick (dimensions measures : List Entry) :
    (ordinals dimensions).map (fun i => (dimensions ++ measures)[i - 1]?) = dimensions.map some := by
  refine List.ext_getElem? fun i => ?_
  rw [ordinals, List.getElem?_map, List.getElem?_map]
  rcases Nat.lt_or_ge i dimensions.length with inside | beyond
  · rw [List.getElem?_range' inside, List.getElem?_eq_getElem inside]
    simp [List.getElem?_append_left inside]
  · rw [List.getElem?_eq_none (by simpa using beyond), List.getElem?_eq_none beyond]
    rfl

theorem groupText_eq (q : Query) : q.groupText =
    if q.dimensions ≠ [] ∧ q.measures ≠ [] then
      " GROUP BY " ++ ", ".intercalate ((ordinals q.dimensions).map toString)
    else "" := by
  rw [groupText, ordinals]
  cases q.dimensions <;> cases q.measures <;> simp

/-- What a list of settings compiles to depends on the last setting of each part alone. It is refused
exactly if the last dimensions and the last measures are both none, whatever the limit. Else the text has
the columns of the dimensions and then of the measures, `DISTINCT` exactly if there is no measure, the
numbers of the dimensions as groups exactly if there are both, and the limit exactly if it is not zero. -/
theorem compile_ofSettings (settings : List Setting) :
    let dimensions := lastDimensions settings
    let measures := lastMeasures settings
    let rows := lastLimit settings
    ofSettings settings = ⟨dimensions, measures, if rows = 0 then none else some rows⟩ ∧
    (∀ e, (ofSettings settings).compile = .error e ↔
      (dimensions = [] ∧ measures = []) ∧ e = .empty) ∧
    (∀ compiled, (ofSettings settings).compile = .ok compiled ↔
      (dimensions ≠ [] ∨ measures ≠ []) ∧ compiled.query = ofSettings settings ∧
      compiled.sql =
        "SELECT " ++ (if measures = [] then "DISTINCT " else "") ++
          ", ".intercalate (dimensions.map Entry.expression ++ measures.map Entry.expression) ++
          " FROM events" ++
          (if dimensions ≠ [] ∧ measures ≠ [] then
            " GROUP BY " ++ ", ".intercalate ((ordinals dimensions).map toString) else "") ++
          (if rows ≠ 0 then " LIMIT " ++ toString rows else "")) ∧
    (ordinals dimensions).map (fun i => (dimensions ++ measures)[i - 1]?) = dimensions.map some ∧
    ∀ others, lastDimensions others = dimensions → lastMeasures others = measures →
      lastLimit others = rows → (ofSettings others).compile = (ofSettings settings).compile := by
  intro dimensions measures rows
  have left := ofSettings_last settings
  have dimensions_ : (ofSettings settings).dimensions = dimensions := by rw [left]
  have measures_ : (ofSettings settings).measures = measures := by rw [left]
  have limited : (ofSettings settings).limitText =
      if rows ≠ 0 then " LIMIT " ++ toString rows else "" := by
    rw [left, limitText]
    by_cases none_ : rows = 0 <;> simp [rows, none_]
  have relation (text : String) : text ++ " FROM " ++ source = text ++ " FROM events" := by
    rw [String.append_assoc]
    rfl
  refine ⟨left, fun e => ?_, fun compiled => ?_, ordinals_pick dimensions measures, ?_⟩
  · rw [compile_error, Asks, dimensions_, measures_, not_or, not_not, not_not]
  · rw [compile_ok, Asks, statement_eq, selectText_eq, groupText_eq, limited, List.map_append, dimensions_,
      measures_, relation]
  · intro others dimensions' measures' rows'
    rw [ofSettings_last others, left, dimensions', measures', rows']

/-- Settings that are overwritten, repeated dimensions and a limit that is taken back compile as the
plain request does. -/
theorem compile_ofSettings_overwritten :
    let name : Entry := ⟨"event_name", "Event Name", "name"⟩
    let count : Entry := ⟨"event_count", "Event Count", "COUNT(*)"⟩
    let settings : List Setting :=
      [.limit 5, .dimensions [], .measures [count, count], .dimensions [name, name], .limit 0,
        .measures [count]]
    let others : List Setting := [.measures [count], .dimensions [name, name]]
    (ofSettings settings).compile =
        .ok ⟨⟨[name, name], [count], none⟩, "SELECT name, name, COUNT(*) FROM events GROUP BY 1, 2"⟩ ∧
      lastDimensions others = lastDimensions settings ∧ lastMeasures others = lastMeasures settings ∧
      lastLimit others = lastLimit settings ∧
      (ofSettings others).compile = (ofSettings settings).compile := by
  intro name count settings others
  obtain ⟨-, -, compiles, -, alike⟩ := compile_ofSettings settings
  exact ⟨(compiles _).mpr ⟨by decide, rfl, by decide⟩, rfl, rfl, rfl, alike others rfl rfl rfl⟩

end Query
end Clickstream
