import Clickstream.Proofs.Outcome
import Clickstream.Report.Row

/-! Rows decoded by position: what the cells of a row are that decodes, and which fault is the error of
one that does not. -/
namespace Clickstream

/-- The cells from a column on are decoded together with their columns. -/
theorem Row.decodeFrom_eq {α : Type} (read : Nat → Cell → Except DecodeError α) (column : Nat)
    (cells : List Cell) :
    decodeFrom read column cells = (cells.zipIdx column).mapM fun (cell, i) => read i cell := by
  induction cells generalizing column with
  | nil => rfl
  | cons cell cells ih => rw [List.zipIdx_cons, List.mapM_cons, decodeFrom, ih]

theorem Cell.asText_ok {column : Nat} {c : Cell} {s : String} :
    c.asText column = .ok s ↔ c = .text s := by
  cases c <;> simp [asText]

/-- The cell holds this number. There is one for every decimal. -/
inductive Cell.Holds : Cell → Binary64 → Prop
  | int (i : Int) : Holds (.int i) (.ofInt i)
  | float (x : Binary64) : Holds (.float x) x
  | numeric (d : Decimal) : Holds (.numeric d) d.toBinary64

/-- What a column takes: a text under the dimensions, a number after them. -/
def Cell.Fits (dimensions column : Nat) (c : Cell) : Prop :=
  (column < dimensions → ∃ s, c = .text s) ∧ (dimensions ≤ column → ∃ x, c.Holds x)

/-- The error of a cell that its column does not take. -/
def Cell.fault (dimensions column : Nat) (c : Cell) : DecodeError :=
  if column < dimensions then .expectedText column c.typeName
  else .expectedNumeric column c.typeName

section Cell
variable {column dimensions : Nat} {c : Cell}

theorem Cell.asNumber_ok {x : Binary64} : c.asNumber column = .ok x ↔ c.Holds x := by
  constructor
  · intro read
    cases c <;> cases read <;> constructor
  · rintro (_ | _ | _) <;> rfl

theorem Cell.asText_error {e : DecodeError} :
    c.asText column = .error e ↔ (¬∃ s, c = .text s) ∧ e = .expectedText column c.typeName := by
  cases c <;> simp [asText, eq_comm]

theorem Cell.asNumber_error {e : DecodeError} :
    c.asNumber column = .error e ↔ (¬∃ x, c.Holds x) ∧ e = .expectedNumeric column c.typeName := by
  simp only [← @asNumber_ok column]
  cases c <;> simp [asNumber, eq_comm]

/-- Under the dimensions a cell fits exactly if it is read as a text. -/
theorem Cell.fits_text (inside : column < dimensions) :
    c.Fits dimensions column ↔ ∃ s, c.asText column = .ok s := by
  simp only [Fits, asText_ok, inside, Nat.not_le.mpr inside, true_imp_iff, false_imp_iff, and_true]

/-- After the dimensions a cell fits exactly if it is read as a number. -/
theorem Cell.fits_number (beyond : dimensions ≤ column) :
    c.Fits dimensions column ↔ ∃ x, c.asNumber column = .ok x := by
  simp only [Fits, asNumber_ok, beyond, Nat.not_lt.mpr beyond, true_imp_iff, false_imp_iff,
    true_and]

theorem Cell.fault_text (inside : column < dimensions) {e : DecodeError} :
    c.asText column = .error e ↔ ¬c.Fits dimensions column ∧ e = c.fault dimensions column := by
  simp only [asText_error, fits_text inside, asText_ok, fault, if_pos inside]

theorem Cell.fault_number (beyond : dimensions ≤ column) {e : DecodeError} :
    c.asNumber column = .error e ↔ ¬c.Fits dimensions column ∧ e = c.fault dimensions column := by
  simp only [asNumber_error, fits_number beyond, asNumber_ok, fault,
    if_neg (Nat.not_lt.mpr beyond)]

end Cell

/-- Cells read in turn fail as the first of them that does. -/
theorem Row.decodeFrom_error {α : Type} {read : Nat → Cell → Except DecodeError α} {column : Nat}
    {cells : List Cell} {e : DecodeError} :
    decodeFrom read column cells = .error e ↔
      ∃ (k : Nat) (c : Cell), cells[k]? = some c ∧ read (column + k) c = .error e ∧
        ∀ j < k, ∃ c a, cells[j]? = some c ∧ read (column + j) c = .ok a := by
  rw [decodeFrom_eq, mapM_zipIdx_error]

/-- The leftmost cell that its column does not take. -/
def Row.FirstFault (cells : List Cell) (dimensions k : Nat) (c : Cell) : Prop :=
  cells[k]? = some c ∧ ¬c.Fits dimensions k ∧
    ∀ j < k, ∀ earlier, cells[j]? = some earlier → earlier.Fits dimensions j

section Columns
variable {cells : List Cell} {dimensions measures k : Nat} {c : Cell} {e : DecodeError}

/-- Cells are read in turn if each is. -/
theorem Row.decodeFrom_succeeds {α : Type} {read : Nat → Cell → Except DecodeError α}
    {column : Nat} :
    (∃ values, decodeFrom read column cells = .ok values) ↔
      ∀ k c, cells[k]? = some c → ∃ a, read (column + k) c = .ok a := by
  cases outcome : decodeFrom read column cells with
  | ok values =>
    refine iff_of_true ⟨values, rfl⟩ fun k c there => ?_
    rw [decodeFrom_eq, mapM_zipIdx_ok] at outcome
    obtain ⟨inside, -⟩ := List.getElem?_eq_some_iff.mp there
    exact ⟨_, outcome.2 k c _ there (List.getElem?_eq_getElem (outcome.1 ▸ inside))⟩
  | error e =>
    refine iff_of_false (by simp) fun all => ?_
    obtain ⟨k, c, there, failed, -⟩ := decodeFrom_error.mp outcome
    obtain ⟨a, read_⟩ := all k c there
    rw [failed] at read_
    cases read_

private theorem take_cell :
    (cells.take dimensions)[k]? = some c ↔ k < dimensions ∧ cells[k]? = some c := by
  rw [List.getElem?_take]
  split <;> simp [*]

theorem Row.texts_succeed :
    (∃ texts, decodeFrom Cell.asText 0 (cells.take dimensions) = .ok texts) ↔
      ∀ k < dimensions, ∀ c, cells[k]? = some c → c.Fits dimensions k := by
  simp only [decodeFrom_succeeds, take_cell, Nat.zero_add]
  constructor
  · intro all k inside c there
    exact (Cell.fits_text inside).mpr (all k c ⟨inside, there⟩)
  · rintro all k c ⟨inside, there⟩
    exact (Cell.fits_text inside).mp (all k inside c there)

theorem Row.numbers_succeed :
    (∃ numbers, decodeFrom Cell.asNumber dimensions (cells.drop dimensions) = .ok numbers) ↔
      ∀ k c, cells[dimensions + k]? = some c → c.Fits dimensions (dimensions + k) := by
  simp only [decodeFrom_succeeds, List.getElem?_drop, Cell.fits_number (Nat.le_add_right _ _)]

/-- A text that cannot be read is that of the first fault. -/
theorem Row.texts_error :
    decodeFrom Cell.asText 0 (cells.take dimensions) = .error e ↔
      ∃ k c, k < dimensions ∧ FirstFault cells dimensions k c ∧ e = c.fault dimensions k := by
  simp only [decodeFrom_error, take_cell, Nat.zero_add]
  constructor
  · rintro ⟨k, c, ⟨inside, there⟩, failed, earlier⟩
    obtain ⟨misfit, rfl⟩ := (Cell.fault_text inside).mp failed
    refine ⟨k, c, inside, ⟨there, misfit, fun j before c' there' => ?_⟩, rfl⟩
    obtain ⟨_, s, ⟨inside', same⟩, read⟩ := earlier j before
    rw [there'] at same
    cases same
    exact (Cell.fits_text inside').mpr ⟨s, read⟩
  · rintro ⟨k, c, inside, ⟨there, misfit, earlier⟩, rfl⟩
    refine ⟨k, c, ⟨inside, there⟩, (Cell.fault_text inside).mpr ⟨misfit, rfl⟩, fun j before => ?_⟩
    obtain ⟨length, -⟩ := List.getElem?_eq_some_iff.mp there
    have there' := List.getElem?_eq_getElem (Nat.lt_trans before length)
    have inside' := Nat.lt_trans before inside
    obtain ⟨s, read⟩ := (Cell.fits_text inside').mp (earlier j before _ there')
    exact ⟨_, s, ⟨inside', there'⟩, read⟩

/-- If all texts are read, a number that cannot be read is that of the first fault. -/
theorem Row.numbers_error :
    (∃ texts, decodeFrom Cell.asText 0 (cells.take dimensions) = .ok texts) ∧
        decodeFrom Cell.asNumber dimensions (cells.drop dimensions) = .error e ↔
      ∃ k c, dimensions ≤ k ∧ FirstFault cells dimensions k c ∧ e = c.fault dimensions k := by
  simp only [texts_succeed, decodeFrom_error, List.getElem?_drop]
  constructor
  · rintro ⟨texts, k, c, there, failed, earlier⟩
    obtain ⟨misfit, rfl⟩ := (Cell.fault_number (Nat.le_add_right _ _)).mp failed
    refine ⟨dimensions + k, c, Nat.le_add_right _ _, ⟨there, misfit, fun j before c' there' => ?_⟩, rfl⟩
    rcases Nat.lt_or_ge j dimensions with inside | beyond
    · exact texts j inside c' there'
    · obtain ⟨i, rfl⟩ := Nat.exists_eq_add_of_le beyond
      obtain ⟨_, x, same, read⟩ := earlier i (by omega)
      rw [there'] at same
      cases same
      exact (Cell.fits_number beyond).mpr ⟨x, read⟩
  · rintro ⟨k, c, beyond, ⟨there, misfit, earlier⟩, rfl⟩
    obtain ⟨i, rfl⟩ := Nat.exists_eq_add_of_le beyond
    refine ⟨fun j inside => earlier j (by omega), i, c, there,
      (Cell.fault_number beyond).mpr ⟨misfit, rfl⟩, fun j before => ?_⟩
    obtain ⟨length, -⟩ := List.getElem?_eq_some_iff.mp there
    have there' := List.getElem?_eq_getElem (show dimensions + j < cells.length by omega)
    obtain ⟨x, read⟩ := (Cell.fits_number (Nat.le_add_right _ _)).mp
      (earlier _ (by omega) _ there')
    exact ⟨_, x, there', read⟩

/-- The count is checked before any cell is looked at. -/
theorem Row.decode_miscounted (miscounted : cells.length ≠ dimensions + measures) :
    decode cells dimensions measures = .error (.columnCount (dimensions + measures) cells.length) := by
  unfold decode
  rw [if_pos miscounted]
  rfl

/-- If the count is right the texts are read, and then the numbers. -/
theorem Row.decode_counted (count : cells.length = dimensions + measures) :
    decode cells dimensions measures =
      decodeFrom Cell.asText 0 (cells.take dimensions) >>= fun texts =>
        (decodeFrom Cell.asNumber dimensions (cells.drop dimensions)).map (Row.mk texts) := by
  unfold decode
  rw [if_neg (not_not.mpr count)]
  rfl

/-- A row decodes exactly if it has the cells that are asked for, and the first are texts and the others
numbers. -/
theorem Row.decode_ok {row : Row} :
    decode cells dimensions measures = .ok row ↔
      cells.length = dimensions + measures ∧
        decodeFrom Cell.asText 0 (cells.take dimensions) = .ok row.dimensions ∧
        decodeFrom Cell.asNumber dimensions (cells.drop dimensions) = .ok row.measures := by
  by_cases count : cells.length = dimensions + measures
  · rw [decode_counted count, bind_eq_ok]
    simp only [map_eq_ok]
    constructor
    · rintro ⟨texts, read, numbers, read', rfl⟩
      exact ⟨count, read, read'⟩
    · rintro ⟨-, read, read'⟩
      exact ⟨_, read, _, read', rfl⟩
  · simp [decode_miscounted count, count]

/-- A row of the right count fails as its leftmost cell that its column does not take. -/
theorem Row.decode_error_first (count : cells.length = dimensions + measures) :
    decode cells dimensions measures = .error e ↔
      ∃ k c, FirstFault cells dimensions k c ∧ e = c.fault dimensions k := by
  rw [decode_counted count, bind_eq_error]
  simp only [map_eq_error, exists_and_right, texts_error, numbers_error]
  constructor
  · rintro (⟨k, c, -, first, is⟩ | ⟨k, c, -, first, is⟩) <;> exact ⟨k, c, first, is⟩
  · rintro ⟨k, c, first, is⟩
    rcases Nat.lt_or_ge k dimensions with inside | beyond
    · exact .inl ⟨k, c, inside, first, is⟩
    · exact .inr ⟨k, c, beyond, first, is⟩

/-- A row decodes exactly if it has as many cells as there are columns and each column takes its cell. -/
theorem Row.decode_succeeds :
    (∃ row, decode cells dimensions measures = .ok row) ↔
      cells.length = dimensions + measures ∧
        ∀ (k : Nat) (c : Cell), cells[k]? = some c → c.Fits dimensions k := by
  constructor
  · rintro ⟨row, decoded⟩
    obtain ⟨count, texts, numbers⟩ := decode_ok.mp decoded
    refine ⟨count, fun k c there => ?_⟩
    rcases Nat.lt_or_ge k dimensions with inside | beyond
    · exact texts_succeed.mp ⟨_, texts⟩ k inside c there
    · obtain ⟨i, rfl⟩ := Nat.exists_eq_add_of_le beyond
      exact numbers_succeed.mp ⟨_, numbers⟩ i c there
  · rintro ⟨count, fits⟩
    obtain ⟨texts, read⟩ := texts_succeed.mpr fun k _ c there => fits k c there
    obtain ⟨numbers, read'⟩ := numbers_succeed.mpr fun k c there => fits (dimensions + k) c there
    exact ⟨⟨texts, numbers⟩, decode_ok.mpr ⟨count, read, read'⟩⟩

/-- The values of a row that decodes stand where their cells do. -/
theorem Row.decode_values {row : Row} :
    decode cells dimensions measures = .ok row ↔
      cells.length = dimensions + measures ∧
        row.dimensions.length = dimensions ∧ row.measures.length = measures ∧
        (∀ (i : Nat) (s : String), row.dimensions[i]? = some s → cells[i]? = some (.text s)) ∧
        ∀ (i : Nat) (x : Binary64), row.measures[i]? = some x →
          ∃ c, cells[dimensions + i]? = some c ∧ c.Holds x := by
  rw [decode_ok]
  simp only [decodeFrom_eq, mapM_zipIdx_ok, take_cell, List.getElem?_drop, Nat.zero_add,
    List.length_take, List.length_drop, Cell.asText_ok, Cell.asNumber_ok]
  constructor
  · rintro ⟨count, ⟨dcount, texts⟩, mcount, numbers⟩
    refine ⟨count, by omega, by omega, fun i s here => ?_, fun i x here => ?_⟩
    · obtain ⟨inside, -⟩ := List.getElem?_eq_some_iff.mp here
      have there := List.getElem?_eq_getElem (show i < cells.length by omega)
      rw [there, texts i _ s ⟨by omega, there⟩ here]
    · obtain ⟨inside, -⟩ := List.getElem?_eq_some_iff.mp here
      have there := List.getElem?_eq_getElem (show dimensions + i < cells.length by omega)
      exact ⟨_, there, numbers i _ x there here⟩
  · rintro ⟨count, dcount, mcount, texts, numbers⟩
    refine ⟨count, ⟨by omega, fun i c s there here => ?_⟩, by omega, fun i c x there here => ?_⟩
    · exact Option.some.inj (there.2.symm.trans (texts i s here))
    · obtain ⟨c', there', holds⟩ := numbers i x here
      rw [there] at there'
      cases there'
      exact holds

/-- A row that decodes has as many texts and numbers as are asked for. -/
theorem Row.decode_lengths {row : Row} (decoded : decode cells dimensions measures = .ok row) :
    row.dimensions.length = dimensions ∧ row.measures.length = measures := by
  obtain ⟨-, texts, numbers, -⟩ := decode_values.mp decoded
  exact ⟨texts, numbers⟩

/-- A row that decodes has the number of cells that is asked for: texts first, then numbers. -/
theorem Row.decode_cells {row : Row} (decoded : decode cells dimensions measures = .ok row) :
    cells.length = dimensions + measures ∧
      ∀ (i : Nat) (c : Cell), cells[i]? = some c →
        (i < dimensions → c.typeName = "text") ∧
        (dimensions ≤ i → c.typeName ∈ ["int", "float", "numeric"]) := by
  obtain ⟨count, fits⟩ := decode_succeeds.mp ⟨row, decoded⟩
  refine ⟨count, fun i c there => ⟨fun inside => ?_, fun beyond => ?_⟩⟩
  · obtain ⟨s, rfl⟩ := (fits i c there).1 inside
    rfl
  · obtain ⟨x, holds⟩ := (fits i c there).2 beyond
    cases holds <;> simp [Cell.typeName]

end Columns

/-- Decoding is exact. It succeeds exactly if there is a cell for each column and each column takes its
cell, a text under the dimensions and a number after them. The values of the row are then those of the
cells, place by place. Else the error is the count, whatever the cells are, or if the count is right that
of the leftmost cell that its column does not take, under its place among all columns. -/
theorem Row.decode_exact (cells : List Cell) (dimensions measures : Nat) :
    ((∃ row, decode cells dimensions measures = .ok row) ↔
      cells.length = dimensions + measures ∧
        ∀ (k : Nat) (c : Cell), cells[k]? = some c →
          (k < dimensions → ∃ s, c = .text s) ∧ (dimensions ≤ k → ∃ x, c.Holds x)) ∧
    (∀ row, decode cells dimensions measures = .ok row ↔
      cells.length = dimensions + measures ∧
        row.dimensions.length = dimensions ∧ row.measures.length = measures ∧
        (∀ (i : Nat) (s : String), row.dimensions[i]? = some s → cells[i]? = some (.text s)) ∧
        ∀ (i : Nat) (x : Binary64), row.measures[i]? = some x →
          ∃ c, cells[dimensions + i]? = some c ∧ c.Holds x) ∧
    ∀ e, decode cells dimensions measures = .error e ↔
      (cells.length ≠ dimensions + measures ∧
        e = .columnCount (dimensions + measures) cells.length) ∨
      (cells.length = dimensions + measures ∧ ∃ k c, FirstFault cells dimensions k c ∧
        e = if k < dimensions then .expectedText k c.typeName
          else .expectedNumeric k c.typeName) := by
  refine ⟨decode_succeeds, fun row => decode_values, fun e => ?_⟩
  by_cases count : cells.length = dimensions + measures
  · rw [decode_error_first count]
    simp only [Cell.fault, count, ne_eq, not_true_eq_false, false_and, false_or, true_and]
  · rw [decode_miscounted count]
    simp [count, eq_comm]

/-- The leftmost fault counts, and its column is counted from the first dimension. -/
example : Row.decode [.text "2023-01-01", .int 5, .null] 1 2 = .error (.expectedNumeric 2 "null") ∧
    Row.decode [.text "2023-01-01", .int 5, .null] 2 1 = .error (.expectedText 1 "int") :=
  ⟨rfl, rfl⟩

end Clickstream
