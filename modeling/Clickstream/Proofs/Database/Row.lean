import Clickstream.Database.Column
import Clickstream.Proofs.Outcome

/-! Rows as the database sends them, made into cells: which cells cannot be read, and which of them is
the fault of its row. -/
namespace Clickstream.Database

/-- The types whose cells are numbers. -/
def numberTypes : List String := ["int2", "int4", "int8", "float4", "float8", "numeric"]

/-- The types that cells can be made of. -/
def cellTypes : List String := textTypes ++ numberTypes ++ ["bool"]

/-- What keeps a cell from being read: its column's type has no cells, even for a null; or its bytes
are none of the type's. -/
inductive CellFault (column : Column) (index : Nat) : WireCell → StoreError → Prop
  | type (cell : WireCell) (foreign : column.typeName ∉ cellTypes) :
    CellFault column index cell (.unsupportedColumnType column.name column.typeName)
  | bytes {bytes : List UInt8} {read : List UInt8 → Option Cell}
      (known : cellReader? column.typeName = some read) (refused : read bytes = none) :
    CellFault column index (some bytes) (.query (.undecodable index))

theorem cellReader?_eq_none {typeName : String} :
    cellReader? typeName = none ↔ typeName ∉ cellTypes := by
  unfold cellReader? cellTypes numberTypes
  by_cases text : typeName ∈ textTypes
  · simp [text]
  · rw [if_neg (by simpa using text)]
    split <;> simp_all

theorem readCell_error {column : Column} {index : Nat} {cell : WireCell} {e : StoreError} :
    readCell column index cell = .error e ↔ CellFault column index cell e := by
  unfold readCell
  constructor
  · cases known : cellReader? column.typeName with
    | none =>
      rintro ⟨⟩
      exact .type cell (cellReader?_eq_none.mp known)
    | some read =>
      cases cell with
      | none => rintro ⟨⟩
      | some bytes =>
        cases refused : read bytes with
        | none =>
          simp only [refused]
          rintro ⟨⟩
          exact .bytes known refused
        | some c => simp [refused]
  · rintro (⟨_, foreign⟩ | ⟨known, refused⟩)
    · rw [cellReader?_eq_none.mpr foreign]
    · simp [known, refused]

/-- The cells of a row are read together with the numbers of their columns. -/
theorem readCells_eq (index : Nat) (cells : List (Column × WireCell)) :
    readCells index cells = (cells.zipIdx index).mapM fun (p, i) => readCell p.1 i p.2 := by
  induction cells generalizing index with
  | nil => rfl
  | cons p cells ih => rw [List.zipIdx_cons, List.mapM_cons, readCells, ih]

/-- The leftmost cell that cannot be read is the fault of its row. -/
theorem readRow_error {columns : List Column} {row : List WireCell} {e : StoreError} :
    readRow columns row = .error e ↔
      ∃ (i : Nat) (column : Column) (cell : WireCell), (columns.zip row)[i]? = some (column, cell) ∧
        CellFault column i cell e ∧
        ∀ j < i, ∀ column cell, (columns.zip row)[j]? = some (column, cell) →
          ∀ e, ¬ CellFault column j cell e := by
  rw [readRow, readCells_eq, mapM_zipIdx_error]
  simp only [Nat.zero_add, ← readCell_error]
  constructor
  · rintro ⟨i, ⟨column, cell⟩, there, failed, earlier⟩
    refine ⟨i, column, cell, there, failed, fun j hj column cell there e failed => ?_⟩
    obtain ⟨_, c, here, read⟩ := earlier j hj
    obtain rfl := Option.some.inj (here.symm.trans there)
    rw [read] at failed
    cases failed
  · rintro ⟨i, column, cell, there, failed, earlier⟩
    refine ⟨i, _, there, failed, fun j hj => ?_⟩
    obtain ⟨hi, -⟩ := List.getElem?_eq_some_iff.mp there
    have here := List.getElem?_eq_getElem (Nat.lt_trans hj hi)
    cases read : readCell (columns.zip row)[j].1 j (columns.zip row)[j].2 with
    | ok c => exact ⟨_, c, here, read⟩
    | error e => exact absurd read (earlier j hj _ _ here e)

/-- A row that is read has a cell for each that was sent. -/
theorem readRow_ok {columns : List Column} {row : List WireCell} {cells : List Cell} :
    readRow columns row = .ok cells ↔
      (columns.zip row).length = cells.length ∧ ∀ (i : Nat) (column : Column) (cell : WireCell) (c : Cell),
        (columns.zip row)[i]? = some (column, cell) → cells[i]? = some c →
          readCell column i cell = .ok c := by
  rw [readRow, readCells_eq, mapM_zipIdx_ok]
  simp only [Nat.zero_add, Prod.forall]

/-- What the bytes of a cell are made into depends on its column's type. -/
theorem cellReader?_made {typeName : String} {read : List UInt8 → Option Cell} {bytes : List UInt8}
    {c : Cell} (known : cellReader? typeName = some read) (made : read bytes = some c) :
    (typeName ∈ textTypes ∧ c.typeName = "text") ∨
      (typeName ∈ numberTypes ∧ c.typeName ∈ ["int", "float", "numeric"]) ∨
      (typeName = "bool" ∧ c.typeName = "bool") := by
  unfold cellReader? at known
  split at known
  · rename_i text
    obtain rfl := Option.some.inj known
    obtain ⟨s, -, rfl⟩ := Option.map_eq_some_iff.mp made
    exact .inl ⟨by simpa using text, rfl⟩
  · split at known
    case h_8 => cases known
    case h_7 =>
      obtain rfl := Option.some.inj known
      obtain ⟨b, -, rfl⟩ := Option.map_eq_some_iff.mp made
      exact .inr (.inr ⟨rfl, rfl⟩)
    all_goals
      obtain rfl := Option.some.inj known
      obtain ⟨x, -, rfl⟩ := Option.map_eq_some_iff.mp made
      exact .inr (.inl ⟨by simp [numberTypes], by simp [Cell.typeName]⟩)

/-- A cell that is no null was sent as bytes of a type with cells of its kind. -/
theorem readCell_made {column : Column} {index : Nat} {cell : WireCell} {c : Cell}
    (read : readCell column index cell = .ok c) (some_ : c ≠ .null) :
    cell ≠ none ∧ ((column.typeName ∈ textTypes ∧ c.typeName = "text") ∨
      (column.typeName ∈ numberTypes ∧ c.typeName ∈ ["int", "float", "numeric"]) ∨
      (column.typeName = "bool" ∧ c.typeName = "bool")) := by
  unfold readCell at read
  cases known : cellReader? column.typeName with
  | none => simp [known] at read
  | some reader =>
    cases cell with
    | none =>
      simp only [known, Except.ok.injEq] at read
      exact absurd read.symm some_
    | some bytes =>
      cases made : reader bytes with
      | none => simp [known, made] at read
      | some other =>
        simp only [known, made, Except.ok.injEq] at read
        exact ⟨by simp, cellReader?_made known (made.trans (congrArg some read))⟩

end Clickstream.Database
