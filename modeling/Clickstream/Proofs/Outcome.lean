import Mathlib.Data.List.Forall2

/-! Steps that end in a value or an error: whether a changed outcome is one or the other, and what
many of them come to, one after another. -/
namespace Clickstream

section Changed
variable {α β ε ε' : Type} {outcome : Except ε α}

@[simp] theorem map_eq_ok {f : α → β} {b : β} :
    outcome.map f = .ok b ↔ ∃ a, outcome = .ok a ∧ f a = b := by
  cases outcome <;> simp [Except.map]

@[simp] theorem map_eq_error {f : α → β} {e : ε} :
    outcome.map f = .error e ↔ outcome = .error e := by
  cases outcome <;> simp [Except.map]

@[simp] theorem mapError_eq_ok {f : ε → ε'} {a : α} :
    outcome.mapError f = .ok a ↔ outcome = .ok a := by
  cases outcome <;> simp [Except.mapError]

@[simp] theorem mapError_eq_error {f : ε → ε'} {e : ε'} :
    outcome.mapError f = .error e ↔ ∃ fault, outcome = .error fault ∧ f fault = e := by
  cases outcome <;> simp [Except.mapError]

/-- A step after another is taken with its value. -/
theorem bind_eq_ok {next : α → Except ε β} {b : β} :
    outcome >>= next = .ok b ↔ ∃ a, outcome = .ok a ∧ next a = .ok b := by
  cases outcome <;> simp [bind, Except.bind]

theorem bind_eq_error {next : α → Except ε β} {e : ε} :
    outcome >>= next = .error e ↔
      outcome = .error e ∨ ∃ a, outcome = .ok a ∧ next a = .error e := by
  cases outcome <;> simp [bind, Except.bind]

end Changed

section Runs
variable {σ ε α β : Type} {reader : StateT σ (Except ε) α} {next : α → StateT σ (Except ε) β} {s s' : σ} {a : α}

/-- What is read is followed by the next reading. -/
theorem bind_of_ok (read : reader s = .ok (a, s')) : (reader >>= next) s = next a s' := by
  simp only [bind, StateT.bind, read, Except.bind]

theorem bind_of_error {e : ε} (failed : reader s = .error e) : (reader >>= next) s = .error e := by
  simp only [bind, StateT.bind, failed, Except.bind]

theorem pure_run (a : α) (s : σ) : (pure a : StateT σ (Except ε) α) s = .ok (a, s) := rfl

theorem get_run (s : σ) : (get : StateT σ (Except ε) σ) s = .ok (s, s) := rfl

theorem set_run (s s' : σ) : (set s' : StateT σ (Except ε) PUnit) s = .ok ((), s') := rfl

end Runs

/-- A list read item by item is read whole exactly if every item is. -/
theorem mapM_ok {α β ε : Type} {read : α → Except ε β} {items : List α} {values : List β} :
    items.mapM read = .ok values ↔ List.Forall₂ (fun a b => read a = .ok b) items values := by
  induction items generalizing values with
  | nil => cases values <;> simp [pure, Except.pure]
  | cons a items ih =>
    rw [List.mapM_cons]
    cases here : read a with
    | error e => cases values <;> simp [bind, Except.bind, here]
    | ok b =>
      cases later : items.mapM read with
      | error e => cases values <;> simp [bind, Except.bind, ← ih, later, here]
      | ok bs => cases values <;> simp [bind, Except.bind, pure, Except.pure, ← ih, later, here]

/-- A list read item by item fails as its first item that does. -/
theorem mapM_error {α β ε : Type} {read : α → Except ε β} {items : List α} {e : ε} :
    items.mapM read = .error e ↔
      ∃ (k : Nat) (a : α), items[k]? = some a ∧ read a = .error e ∧
        ∀ j < k, ∃ a b, items[j]? = some a ∧ read a = .ok b := by
  induction items with
  | nil => simp [pure, Except.pure]
  | cons a items ih =>
    rw [List.mapM_cons]
    cases here : read a with
    | error first =>
      simp only [bind, Except.bind, Except.error.injEq]
      constructor
      · rintro rfl
        exact ⟨0, a, rfl, here, by simp⟩
      · rintro ⟨k, a', there, failed, earlier⟩
        cases k with
        | zero =>
          cases there
          simpa [here] using failed
        | succ k =>
          obtain ⟨_, b, ⟨⟩, read_⟩ := earlier 0 (by omega)
          simp [here] at read_
    | ok b =>
      have shifted : (do let bs ← items.mapM read; pure (b :: bs)) = .error e ↔
          items.mapM read = .error e := by
        cases items.mapM read <;> simp [bind, Except.bind, pure, Except.pure]
      refine shifted.trans (ih.trans ?_)
      constructor
      · rintro ⟨k, a', there, failed, earlier⟩
        refine ⟨k + 1, a', there, failed, fun j hj => ?_⟩
        cases j with
        | zero => exact ⟨a, b, rfl, here⟩
        | succ j => exact earlier j (by omega)
      · rintro ⟨k, a', there, failed, earlier⟩
        cases k with
        | zero =>
          cases there
          simp [here] at failed
        | succ k => exact ⟨k, a', there, failed, fun j hj => earlier (j + 1) (by omega)⟩

/-- The items before the one that fails are those that do not. -/
theorem mapM_error_split {α β ε : Type} {read : α → Except ε β} {items : List α} {e : ε} :
    items.mapM read = .error e ↔ ∃ front a behind, items = front ++ a :: behind ∧
      read a = .error e ∧ ∀ a' ∈ front, ∃ b, read a' = .ok b := by
  rw [mapM_error]
  constructor
  · rintro ⟨k, a, there, failed, earlier⟩
    obtain ⟨inside, rfl⟩ := List.getElem?_eq_some_iff.mp there
    refine ⟨items.take k, _, items.drop (k + 1), ?_, failed, fun a' among => ?_⟩
    · rw [List.getElem_cons_drop, List.take_append_drop]
    · obtain ⟨j, hj, here⟩ := List.mem_take_iff_getElem.mp among
      obtain ⟨_, b, same, read_⟩ := earlier j (by omega)
      rw [List.getElem?_eq_getElem (by omega), here, Option.some.injEq] at same
      exact ⟨b, same ▸ read_⟩
  · rintro ⟨front, a, behind, rfl, failed, passed⟩
    refine ⟨front.length, a, by simp, failed, fun j hj => ?_⟩
    obtain ⟨b, read_⟩ := passed front[j] (List.getElem_mem hj)
    exact ⟨_, b, by rw [List.getElem?_append_left hj, List.getElem?_eq_getElem hj], read_⟩

section Places
variable {α β ε : Type} {read : α × Nat → Except ε β} {items : List α} {start : Nat}

/-- Items read together with their places are read whole exactly if each is. -/
theorem mapM_zipIdx_ok {values : List β} :
    (items.zipIdx start).mapM read = .ok values ↔
      items.length = values.length ∧ ∀ (k : Nat) (a : α) (b : β),
        items[k]? = some a → values[k]? = some b → read (a, start + k) = .ok b := by
  rw [mapM_ok, List.forall₂_iff_get]
  refine and_congr (by rw [List.length_zipIdx])
    ⟨fun all k a b there there' => ?_, fun all k hk hk' => ?_⟩
  · obtain ⟨hk, rfl⟩ := List.getElem?_eq_some_iff.mp there
    obtain ⟨hk', rfl⟩ := List.getElem?_eq_some_iff.mp there'
    simpa using all k (by simpa using hk) hk'
  · simpa using all k _ _ (List.getElem?_eq_getElem (by simpa using hk))
      (List.getElem?_eq_getElem hk')

/-- Items read together with their places fail as the first that does. -/
theorem mapM_zipIdx_error {e : ε} :
    (items.zipIdx start).mapM read = .error e ↔
      ∃ (k : Nat) (a : α), items[k]? = some a ∧ read (a, start + k) = .error e ∧
        ∀ j < k, ∃ a b, items[j]? = some a ∧ read (a, start + j) = .ok b := by
  have placed {k : Nat} {p : α × Nat} :
      (items.zipIdx start)[k]? = some p ↔ ∃ a, items[k]? = some a ∧ p = (a, start + k) := by
    rw [List.getElem?_zipIdx]
    cases items[k]? <;> simp [eq_comm]
  simp only [mapM_error, placed]
  constructor
  · rintro ⟨k, _, ⟨a, there, rfl⟩, failed, earlier⟩
    refine ⟨k, a, there, failed, fun j hj => ?_⟩
    obtain ⟨_, b, ⟨a, there, rfl⟩, read_⟩ := earlier j hj
    exact ⟨a, b, there, read_⟩
  · rintro ⟨k, a, there, failed, earlier⟩
    refine ⟨k, _, ⟨a, there, rfl⟩, failed, fun j hj => ?_⟩
    obtain ⟨a, b, there, read_⟩ := earlier j hj
    exact ⟨_, b, ⟨a, there, rfl⟩, read_⟩

end Places

end Clickstream
