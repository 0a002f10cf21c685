import Clickstream.Program.Ingest
import Clickstream.Proofs.Database.Insertion
import Clickstream.Proofs.Program.Run
import Clickstream.Proofs.Text.Line

/-! What lines of an input come to: one INSERT for each that has an event, one after another, as long
as the server takes them and the lines are text. -/
namespace Clickstream

instance (e : Event) : Decidable e.Storable :=
  decidable_of_iff (e.validate = .ok () ∧ (Decimal.ofBinary64? e.value).isSome) (by
    rw [Option.isSome_iff_exists]
    rfl)

namespace Program
open Log Database

/-- The event that is stored for a line, trimmed as it is: the line is not empty, it holds an event,
and the events relation can hold that event. -/
def eventOf? (line : String) : Option Event :=
  if line = "" then none
  else (Event.read line).toOption.filter fun e => e.Storable

theorem eventOf?_eq_some {line : String} {e : Event} :
    eventOf? line = some e ↔ line ≠ "" ∧ Event.read line = .ok e ∧ e.Storable := by
  unfold eventOf?
  by_cases blank : line = ""
  · simp [blank]
  · cases Event.read line <;> simp [blank, Except.toOption, Option.filter_eq_some_iff]

/-- A line without an event is counted, and nothing is sent. -/
theorem ingestText_skips {line : String} (text : line ≠ "") (none_ : eventOf? line = none)
    (tally : Tally) (t : Logged Server) :
    ((ingestText line tally).on t).1 = .ok { tally with skipped := tally.skipped + 1 } ∧
      ((ingestText line tally).on t).2.state = t.state := by
  unfold ingestText
  cases read : Event.read line with
  | error fault => simp [Run.on_map, Except.map]
  | ok e =>
    have flawed : ¬ e.Storable := fun storable => by
      simp [eventOf?_eq_some.mpr ⟨text, read, storable⟩] at none_
    obtain ⟨flaw, refused⟩ := Server.insert_flawed flawed t.state
    simp [Run.on_bind, Run.on_map, Logging.silent, StateT.run, refused, Except.map]

/-- A line with an event is sent. Only an error of the store ends the run. -/
theorem ingestText_inserts {line : String} {e : Event} (event : eventOf? line = some e)
    (tally : Tally) (t : Logged Server) :
    ((ingestText line tally).on t).1 =
        (match (Server.insert e t.state).1 with
          | .ok _ => .ok { tally with inserted := tally.inserted + 1 }
          | .error fault => .error (.store fault)) ∧
      ((ingestText line tally).on t).2.state = (Server.insert e t.state).2 := by
  obtain ⟨-, read, storable⟩ := eventOf?_eq_some.mp event
  have valid := Server.insert_valid storable t.state
  unfold ingestText
  rw [read]
  simp only [Run.on_bind, Run.on_lift, Logging.silent, StateT.run]
  generalize Server.insert e t.state = outcome at valid
  obtain ⟨fault | id, s⟩ := outcome
  · cases fault with
    | invalidEvent flaw => exact absurd rfl (valid flaw)
    | _ => simp [Run.on_bind]
  · simp [Run.on_map, Except.map]

section Lines
variable {line : String} (rest : List (Option String)) (tally : Tally)

private theorem ingestLines_cons (line : String) :
    ingestLines (some line :: rest) tally =
      (if line = "" then pure tally else ingestText line tally) >>= ingestLines rest := by
  rw [ingestLines]
  split <;> rfl

private theorem ingestLines_skip (t : Logged Server) (none_ : eventOf? line = none) :
    ∃ log, (ingestLines (some line :: rest) tally).on t =
      (ingestLines rest { tally with skipped := tally.skipped + if line = "" then 0 else 1 }).on
        ⟨t.state, log⟩ := by
  rw [ingestLines_cons]
  by_cases blank : line = ""
  · exact ⟨t.log, by simp [blank]⟩
  · obtain ⟨result, state⟩ := ingestText_skips blank none_ tally t
    simp only [blank, ↓reduceIte]
    exact ⟨_, by rw [Run.on_bind_ok result, ← state]⟩

private theorem ingestLines_insert {t : Logged Server} {e : Event} {id : Int}
    (event : eventOf? line = some e)
    (answered : (Server.insert e t.state).1 = .ok id) :
    ∃ log, (ingestLines (some line :: rest) tally).on t =
      (ingestLines rest { tally with inserted := tally.inserted + 1 }).on
        ⟨(Server.insert e t.state).2, log⟩ := by
  obtain ⟨result, state⟩ := ingestText_inserts event tally t
  rw [answered] at result
  rw [ingestLines_cons, if_neg (eventOf?_eq_some.mp event).1]
  exact ⟨_, by rw [Run.on_bind_ok result, ← state]⟩

private theorem ingestLines_fail {t : Logged Server} {e : Event} {fault : StoreError}
    (event : eventOf? line = some e)
    (failed : (Server.insert e t.state).1 = .error fault) :
    ((ingestLines (some line :: rest) tally).on t).1 = .error (.store fault) ∧
      ((ingestLines (some line :: rest) tally).on t).2.state = (Server.insert e t.state).2 := by
  obtain ⟨result, state⟩ := ingestText_inserts event tally t
  rw [failed] at result
  rw [ingestLines_cons, if_neg (eventOf?_eq_some.mp event).1, Run.on_bind_error result]
  exact ⟨rfl, state⟩

end Lines

/-- The events of the lines before the first that is no text. -/
def eventsRead (ls : List (Option String)) : List Event :=
  (ls.takeWhile Option.isSome).filterMap fun line => line.bind eventOf?

/-- How many lines are not blank and have no event. -/
def skips (ls : List (Option String)) : Nat :=
  ls.countP fun line => line ≠ some "" ∧ line.bind eventOf? = none

private theorem eventsRead_cons (line : String) (rest : List (Option String)) :
    eventsRead (some line :: rest) = (eventOf? line).toList ++ eventsRead rest := by
  cases event : eventOf? line <;> simp [eventsRead, event]

private theorem skips_cons (line : String) (rest : List (Option String)) :
    skips (some line :: rest) =
      (if line ≠ "" ∧ eventOf? line = none then 1 else 0) + skips rest := by
  rw [skips, List.countP_cons, Nat.add_comm]
  simp [skips]

/-- Where all events read are accepted they are all inserted, and only a line that is no text ends
the run before its last line. -/
theorem ingestLines_accepted (ls : List (Option String)) (tally : Tally) (t : Logged Server)
    (accepted : t.state.Accepts (eventsRead ls)) :
    ((ingestLines ls tally).on t).1 =
        (if none ∈ ls then .error .invalidText
        else .ok ⟨tally.inserted + (eventsRead ls).length, tally.skipped + skips ls⟩) ∧
      ((ingestLines ls tally).on t).2.state = t.state.insertAll (eventsRead ls) := by
  induction ls generalizing tally t with
  | nil => exact ⟨rfl, rfl⟩
  | cons line rest ih =>
    cases line with
    | none => simp [ingestLines, eventsRead]
    | some line =>
      rw [eventsRead_cons] at accepted ⊢
      rw [skips_cons]
      cases event : eventOf? line with
      | none =>
        obtain ⟨log, step⟩ := ingestLines_skip rest tally t event
        simp only [event, Option.toList_none, List.nil_append] at accepted ⊢
        obtain ⟨result, state⟩ := ih _ ⟨t.state, log⟩ accepted
        rw [step, result, state]
        by_cases blank : line = "" <;> simp [blank, Nat.add_assoc]
      | some e =>
        simp only [event, Option.toList_some, List.singleton_append] at accepted ⊢
        obtain ⟨⟨id, answered⟩, later⟩ := Server.accepts_cons.mp accepted
        obtain ⟨log, step⟩ := ingestLines_insert rest tally event answered
        obtain ⟨result, state⟩ := ih _ ⟨_, log⟩ later
        rw [step, result, state]
        simp [Nat.add_assoc, Nat.add_comm 1]

/-- The first event that is not accepted is the last that is sent, and its fault ends the run. -/
theorem ingestLines_failed (ls : List (Option String)) (tally : Tally) (t : Logged Server)
    {k : Nat} {fault : StoreError} (failed : t.state.FailsAt (eventsRead ls) k fault) :
    ((ingestLines ls tally).on t).1 = .error (.store fault) ∧
      ((ingestLines ls tally).on t).2.state = t.state.insertAll ((eventsRead ls).take (k + 1)) := by
  induction ls generalizing tally t k with
  | nil => simp [Server.FailsAt, eventsRead, Server.answers] at failed
  | cons line rest ih =>
    cases line with
    | none => simp [Server.FailsAt, eventsRead, Server.answers] at failed
    | some line =>
      rw [eventsRead_cons] at failed ⊢
      cases event : eventOf? line with
      | none =>
        obtain ⟨log, step⟩ := ingestLines_skip rest tally t event
        simp only [event, Option.toList_none, List.nil_append] at failed ⊢
        rw [step]
        exact ih _ ⟨t.state, log⟩ failed
      | some e =>
        simp only [event, Option.toList_some, List.singleton_append] at failed ⊢
        cases k with
        | zero => exact ingestLines_fail rest tally event (Server.failsAt_zero.mp failed)
        | succ k =>
          obtain ⟨⟨id, answered⟩, later⟩ := Server.failsAt_succ.mp failed
          obtain ⟨log, step⟩ := ingestLines_insert rest tally event answered
          rw [step, List.take_succ_cons, Server.insertAll_cons]
          exact ih _ ⟨_, log⟩ later

/-- The events of lines, in order. -/
def eventsOf (ls : List (Option String)) : List Event := ls.filterMap fun line => line.bind eventOf?

theorem eventsRead_eq {ls : List (Option String)} (text : none ∉ ls) :
    eventsRead ls = eventsOf ls := by
  have all : ∀ line ∈ ls, line.isSome := fun line there =>
    Option.isSome_iff_ne_none.mpr fun no => text (no ▸ there)
  rw [eventsRead, List.takeWhile_eq_self_iff.mpr all, eventsOf]

theorem eventsRead_append {before : List (Option String)} (text : none ∉ before)
    (after : List (Option String)) :
    eventsRead (before ++ none :: after) = eventsOf before := by
  have all : ∀ line ∈ before, line.isSome := fun line there =>
    Option.isSome_iff_ne_none.mpr fun no => text (no ▸ there)
  rw [eventsRead, List.takeWhile_append_of_pos all, List.takeWhile_cons_of_neg (by simp),
    List.append_nil, eventsOf]

theorem eventsOf_texts (texts : List String) :
    eventsOf (texts.map some) = texts.filterMap eventOf? := by
  rw [eventsOf, List.filterMap_map]
  rfl

/-- A line that is not blank either has an event or is skipped. -/
theorem events_add_skips (texts : List String) :
    (texts.filterMap eventOf?).length + skips (texts.map some) = texts.countP (· ≠ "") := by
  induction texts with
  | nil => rfl
  | cons line rest ih =>
    rw [List.map_cons, skips_cons, List.countP_cons, List.filterMap_cons, ← ih]
    cases event : eventOf? line with
    | none =>
      by_cases blank : line = ""
      · simp [blank]
      · simp [blank]
        omega
    | some e =>
      have solid : line ≠ "" := (eventOf?_eq_some.mp event).1
      simp [solid]
      omega

/-- The line has an event. -/
def HoldsEvent (line : String) : Bool := (eventOf? line).isSome

theorem events_holding (texts : List String) :
    (texts.filter HoldsEvent).filterMap eventOf? = texts.filterMap eventOf? := by
  rw [List.filterMap_filter]
  refine congrArg (texts.filterMap ·) (funext fun line => ?_)
  unfold HoldsEvent
  cases eventOf? line <;> rfl

/-- The lines of a text in UTF-8 are all text. -/
theorem lines_utf8 (text : String) :
    lines (Text.utf8 text) = (Text.trimmedLines text).map some := by
  have empty (cs : List Char) : (cs.flatMap String.utf8EncodeChar).isEmpty = cs.isEmpty := by
    cases cs with
    | nil => rfl
    | cons c cs => simp
  unfold lines Text.utf8 Text.trimmedLines
  simp only [Text.pieces_utf8]
  generalize Text.pieces (· == '\n') text.toList = pieces
  have last : (pieces.map fun line => line.flatMap String.utf8EncodeChar).getLast?.all
      List.isEmpty = pieces.getLast?.all List.isEmpty := by
    rw [List.getLast?_map]
    cases pieces.getLast? <;> simp [empty]
  rw [last, ← List.map_dropLast, ← apply_ite, List.map_map, List.map_map]
  refine List.map_congr_left fun cs _ => ?_
  simp [Text.fromUTF8?_utf8]

theorem ingestText_reserved (line : String) (tally : Tally) : (ingestText line tally).Reserved := by
  unfold ingestText
  cases Event.read line with
  | error fault => exact (Run.Reserved.note (by decide) _ _).bind fun _ => .pure _
  | ok e =>
    refine (Run.Reserved.silent _).bind fun answer => ?_
    cases answer with
    | ok id => exact (Run.Reserved.note (by decide) _ _).bind fun _ => .pure _
    | error fault =>
      cases fault with
      | invalidEvent flaw => exact (Run.Reserved.note (by decide) _ _).bind fun _ => .pure _
      | _ => exact (Run.Reserved.note (by decide) _ _).bind fun _ => .throw _

theorem ingestLines_reserved (ls : List (Option String)) (tally : Tally) :
    (ingestLines ls tally).Reserved := by
  induction ls generalizing tally with
  | nil => exact .pure _
  | cons line rest ih =>
    cases line with
    | none => exact .throw _
    | some line =>
      rw [ingestLines_cons]
      refine Run.Reserved.bind ?_ ih
      split
      · exact .pure _
      · exact ingestText_reserved line tally

end Program
end Clickstream
