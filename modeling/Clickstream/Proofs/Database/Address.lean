import Mathlib.Data.Bool.AllAny
import Mathlib.Algebra.Order.BigOperators.Group.List
import Mathlib.Algebra.GroupWithZero.Nat
import Mathlib.Algebra.Order.Group.Nat
import Mathlib.Data.List.DropRight
import Mathlib.Data.List.Nodup
import Mathlib.Data.List.Perm.Subperm
import Mathlib.Data.List.TakeWhile
import Clickstream.Database.Store
import Clickstream.Proofs.Number.Numeral
import Clickstream.Proofs.Text.Blank

/-! Connection strings and the configurations they are written for. Nothing in a setting is quoted, so
one is read back as it was configured exactly if it needs no quotes. -/
namespace Clickstream.Database

namespace ConnectionString

/-- A value that is read as it is written, without quotes. -/
structure Plain (value : String) : Prop where
  nonempty : value ≠ ""
  solid : ∀ c ∈ value.toList, Text.isBlank c = false ∧ c ≠ '\\'
  unquoted : value.toList.head? ≠ some '\''

instance (value : String) : Decidable (Plain value) :=
  decidable_of_iff (value ≠ "" ∧ (value.toList.all fun c => !Text.isBlank c && c != '\\') = true ∧
    value.toList.head? ≠ some '\'')
    ⟨fun ⟨a, b, c⟩ => ⟨a, by simpa using b, c⟩, fun ⟨a, b, c⟩ => ⟨a, by simpa using b, c⟩⟩

/-- The pairs that a connection string is read as. -/
def pairsOf? (text : String) : Option (List (String × String)) :=
  pairs? (text.length + 1) text.toList

/-- The value that counts for a keyword: that of its last pair. -/
def lastValue? (keyword : String) (pairs : List (String × String)) : Option String :=
  pairs.reverse.lookup keyword

/-- A pair whose value is not quoted. -/
def written (pair : String × String) : List Char := pair.1.toList ++ '=' :: pair.2.toList

/-- The characters that a pair takes at least, a blank after it included. -/
def room (pair : String × String) : Nat := pair.1.length + pair.2.length + 2

section Values
variable {cs value rest : List Char}

/-- What may follow a value without quotes: nothing, or a blank. -/
def Ends (rest : List Char) : Prop := ∀ c, rest.head? = some c → Text.isBlank c = true

/-- A value without quotes takes no fewer characters than it has. If it takes no more, none of them is a
blank or a backslash. -/
theorem simpleValue_room (cs : List Char) :
    Ends (simpleValue cs).2 ∧ (simpleValue cs).1.length + (simpleValue cs).2.length ≤ cs.length ∧
      ((simpleValue cs).1.length + (simpleValue cs).2.length = cs.length →
        cs = (simpleValue cs).1 ++ (simpleValue cs).2 ∧
          ∀ c ∈ (simpleValue cs).1, Text.isBlank c = false ∧ c ≠ '\\') := by
  fun_induction simpleValue cs with
  | case1 => simp [Ends]
  | case2 => simp [Ends]
  | case3 c rest value after read ih =>
    rw [read] at ih
    obtain ⟨ends, least, -⟩ := ih
    simp only [List.length_cons] at least ⊢
    exact ⟨ends, by omega, fun exact_ => by omega⟩
  | case4 c rest _ _ blank => exact ⟨fun _ here => by cases here; exact blank, by simp⟩
  | case5 c rest lone escape solid value after read ih =>
    rw [read] at ih
    obtain ⟨ends, least, exact_⟩ := ih
    simp only [List.length_cons] at ends least exact_ ⊢
    refine ⟨ends, by omega, fun same => ?_⟩
    obtain ⟨split, plain⟩ := exact_ (by omega)
    refine ⟨by rw [split]; rfl, List.forall_mem_cons.mpr ⟨⟨by simpa using solid, ?_⟩, plain⟩⟩
    rintro rfl
    cases rest with
    | nil => exact lone rfl rfl
    | cons d rest => exact escape d rest rfl rfl

/-- A value in quotes takes a character for the closing one. -/
theorem quotedValue?_room (read : quotedValue? cs = some (value, rest)) :
    value.length + rest.length + 1 ≤ cs.length := by
  fun_induction quotedValue? cs generalizing value rest with
  | case1 => cases read
  | case2 rest => cases read; simp
  | case3 => cases read
  | case4 c rest ih =>
    obtain ⟨⟨inner, after⟩, read', same⟩ := Option.bind_eq_some_iff.mp read
    cases same
    have := ih read'
    simp only [List.length_cons]
    omega
  | case5 c rest _ _ _ ih =>
    obtain ⟨⟨inner, after⟩, read', same⟩ := Option.bind_eq_some_iff.mp read
    cases same
    have := ih read'
    simp only [List.length_cons]
    omega

/-- A value is read as it is written, or it takes more characters than it has. In quotes it takes two more. -/
theorem value?_room (read : value? cs = some (value, rest)) :
    (Ends rest ∧ value.length + rest.length ≤ cs.length ∧
      (value.length + rest.length = cs.length → Plain (String.ofList value))) ∨
    value.length + rest.length + 2 ≤ cs.length := by
  unfold value? at read
  split at read
  · right
    have := quotedValue?_room read
    simp only [List.length_cons]
    omega
  · rename_i unquoted
    left
    obtain ⟨ends, least, exact_⟩ := simpleValue_room cs
    generalize simpleValue cs = found at read ends least exact_
    obtain ⟨inner, after⟩ := found
    simp only at read
    split at read
    · cases read
    · rename_i some_
      cases read
      refine ⟨ends, least, fun same => ?_⟩
      obtain ⟨split, solid⟩ := exact_ same
      refine ⟨by simpa using some_, by simpa using solid, ?_⟩
      rw [String.toList_ofList]
      intro quote
      obtain ⟨tail, rfl⟩ := List.head?_eq_some_iff.mp quote
      exact unquoted _ split

end Values

section Pairs
variable {cs : List Char} {pairs : List (String × String)} {fuel : Nat}

theorem pairs?_blanks (fuel : Nat) (cs : List Char) : pairs? fuel (Text.trimStart cs) = pairs? fuel cs := by
  cases fuel with
  | zero => rfl
  | succ fuel =>
    have twice : Text.trimStart (Text.trimStart cs) = Text.trimStart cs := List.dropWhile_idempotent ..
    rw [pairs?, pairs?, twice]

/-- What a pair is read from: a keyword, an equals sign and a value, around which blanks may stand. -/
theorem pairs?_cons (read : pairs? (fuel + 1) cs = some pairs) :
    pairs = [] ∨ ∃ (keyword value ahead rest : List Char) (others : List (String × String)),
      pairs = (String.ofList keyword, String.ofList value) :: others ∧
        keyword.length + 1 + ahead.length ≤ cs.length ∧ value? ahead = some (value, rest) ∧
        pairs? fuel rest = some others := by
  rw [pairs?] at read
  simp only at read
  generalize hkeyword : (Text.trimStart cs).takeWhile (fun c => !Text.isBlank c && c != '=') = keyword at read
  generalize hafter : (Text.trimStart cs).dropWhile (fun c => !Text.isBlank c && c != '=') = after at read
  split at read
  · exact .inl (Option.some.inj read).symm
  · right
    have length : keyword.length + after.length ≤ cs.length := by
      rw [← hkeyword, ← hafter, ← List.length_append, List.takeWhile_append_dropWhile]
      exact List.length_dropWhile_le ..
    have trimmed (l : List Char) : (Text.trimStart l).length ≤ l.length := List.length_dropWhile_le ..
    split at read
    · rename_i ahead equals
      obtain ⟨⟨value, rest⟩, value_, read⟩ := Option.bind_eq_some_iff.mp read
      obtain ⟨others, others_, read⟩ := Option.bind_eq_some_iff.mp read
      refine ⟨keyword, value, _, rest, others, (Option.some.inj read).symm, ?_, value_, others_⟩
      have here := trimmed after
      rw [equals, List.length_cons] at here
      have := trimmed ahead
      omega
    · cases read

/-- The pairs of a text have room in it. If they leave none, no value is quoted. -/
theorem pairs?_room (read : pairs? fuel cs = some pairs) :
    (pairs.map room).sum ≤ cs.length + 1 ∧
      ((pairs.map room).sum = cs.length + 1 → ∀ pair ∈ pairs, Plain pair.2) := by
  induction fuel generalizing cs pairs with
  | zero => cases read
  | succ fuel ih =>
    obtain rfl | ⟨keyword, value, ahead, rest, others, rfl, length, value_, others_⟩ := pairs?_cons read
    · simp
    simp only [List.map_cons, List.sum_cons, room, String.length_ofList]
    rcases value?_room value_ with ⟨ends, least, exact_⟩ | quoted
    · have later : (others.map room).sum ≤ rest.length ∧
          ((others.map room).sum = rest.length → ∀ pair ∈ others, Plain pair.2) := by
        cases rest with
        | nil =>
          cases fuel with
          | zero => cases others_
          | succ fuel =>
            cases others_
            simp
        | cons b rest =>
          have blank : Text.trimStart (b :: rest) = Text.trimStart rest :=
            List.dropWhile_cons_of_pos (ends b rfl)
          rw [← pairs?_blanks, blank, pairs?_blanks] at others_
          exact ih others_
      refine ⟨by omega, fun same => List.forall_mem_cons.mpr ⟨exact_ (by omega), later.2 (by omega)⟩⟩
    · have := (ih others_).1
      exact ⟨by omega, fun same => by omega⟩

end Pairs

section Written
variable {value rest : List Char} {pair : String × String} {others : List (String × String)} {fuel : Nat}

theorem simpleValue_append (solid : ∀ c ∈ value, Text.isBlank c = false ∧ c ≠ '\\') (ends : Ends rest) :
    simpleValue (value ++ rest) = (value, rest) := by
  induction value with
  | nil =>
    cases rest with
    | nil => rfl
    | cons c rest =>
      have blank : Text.isBlank c = true := ends c rfl
      have other : c ≠ '\\' := by
        rintro rfl
        exact absurd blank (by decide)
      rw [List.nil_append, simpleValue, if_pos blank]
      · exact fun same => absurd same other
      · exact fun _ _ same => absurd same other
  | cons c value ih =>
    obtain ⟨⟨solid_, other⟩, later⟩ := List.forall_mem_cons.mp solid
    rw [List.cons_append, simpleValue, ih later]
    · simp [solid_]
    · exact fun same => absurd same other
    · exact fun _ _ same => absurd same other

/-- A keyword that is not quoted either. -/
def IsKeyword (keyword : String) : Prop :=
  keyword ≠ "" ∧ ∀ c ∈ keyword.toList, Text.isBlank c = false ∧ c ≠ '='

theorem trimStart_solid {c : Char} (solid : Text.isBlank c = false) (cs : List Char) :
    Text.trimStart (c :: cs) = c :: cs :=
  List.dropWhile_cons_of_neg (by simp [solid])

/-- A pair that is not quoted is read as it is, before a blank and other pairs. -/
theorem pairs?_step (keyword : IsKeyword pair.1) (plain : Plain pair.2) (ends : Ends rest)
    (later : pairs? fuel rest = some others) :
    pairs? (fuel + 1) (written pair ++ rest) = some (pair :: others) := by
  obtain ⟨name, text⟩ := pair
  obtain ⟨present, solid, unquoted⟩ := plain
  obtain ⟨named, inside⟩ := keyword
  simp only at present solid unquoted named inside
  obtain ⟨k, ks, hname⟩ := List.exists_cons_of_ne_nil (String.toList_eq_nil_iff.not.mpr named)
  obtain ⟨v, vs, htext⟩ := List.exists_cons_of_ne_nil (String.toList_eq_nil_iff.not.mpr present)
  have start : Text.trimStart (written (name, text) ++ rest) = name.toList ++ ('=' :: (text.toList ++ rest)) := by
    have first : Text.isBlank k = false := (inside k (by simp [hname])).1
    rw [written, List.append_assoc, List.cons_append, hname]
    exact trimStart_solid first _
  have parts : ∀ c ∈ name.toList, (!Text.isBlank c && c != '=') = true := fun c there => by
    simp [inside c there]
  have taken : (name.toList ++ ('=' :: (text.toList ++ rest))).takeWhile (fun c => !Text.isBlank c && c != '=') =
      name.toList := by
    rw [List.takeWhile_append_of_pos parts, List.takeWhile_cons_of_neg (by simp), List.append_nil]
  have dropped : (name.toList ++ ('=' :: (text.toList ++ rest))).dropWhile (fun c => !Text.isBlank c && c != '=') =
      '=' :: (text.toList ++ rest) := by
    rw [List.dropWhile_append_of_pos parts, List.dropWhile_cons_of_neg (by simp)]
  have ahead : Text.trimStart (text.toList ++ rest) = text.toList ++ rest := by
    rw [htext]
    exact trimStart_solid (solid v (by simp [htext])).1 _
  have value : value? (text.toList ++ rest) = some (text.toList, rest) := by
    unfold value?
    split
    · rename_i same
      rw [htext] at same unquoted
      cases same
      exact absurd rfl unquoted
    · rw [simpleValue_append solid ends]
      simp [htext]
  rw [pairs?, start]
  simp only [taken, dropped, trimStart_solid (show Text.isBlank '=' = false by decide), ahead, value]
  rw [if_neg (by simp [hname]), Option.bind_eq_bind, Option.bind_some, later]
  simp

/-- Pairs that are not quoted take no more room than they need. -/
theorem room_written {pairs : List (String × String)} (some_ : pairs ≠ []) :
    (pairs.map room).sum = ([' '].intercalate (pairs.map written)).length + 1 := by
  induction pairs with
  | nil => exact absurd rfl some_
  | cons pair others ih =>
    cases others with
    | nil =>
      simp only [List.map_cons, List.map_nil, List.sum_cons, List.sum_nil, List.intercalate_singleton,
        room, written, List.length_append, List.length_cons, String.length_toList]
      omega
    | cons next others =>
      have later := ih (by simp)
      rw [List.map_cons, List.sum_cons, later, List.map_cons (l := next :: others), List.map_cons,
        List.intercalate_cons_cons]
      simp only [room, written, List.length_append, List.length_cons, List.length_nil, String.length_toList]
      omega

/-- Pairs that are not quoted are read as they are. -/
theorem pairs?_written {pairs : List (String × String)} (keywords : ∀ pair ∈ pairs, IsKeyword pair.1)
    (plain : ∀ pair ∈ pairs, Plain pair.2) (enough : pairs.length < fuel) :
    pairs? fuel ([' '].intercalate (pairs.map written)) = some pairs := by
  induction pairs generalizing fuel with
  | nil =>
    obtain ⟨fuel, rfl⟩ : ∃ k, fuel = k + 1 := ⟨fuel - 1, by simp at enough; omega⟩
    rfl
  | cons pair others ih =>
    obtain ⟨keyword, keywords⟩ := List.forall_mem_cons.mp keywords
    obtain ⟨here, plain⟩ := List.forall_mem_cons.mp plain
    obtain ⟨fuel, rfl⟩ : ∃ k, fuel = k + 1 := ⟨fuel - 1, by omega⟩
    have later : pairs? fuel ([' '].intercalate (others.map written)) = some others :=
      ih keywords plain (by simpa using enough)
    cases others with
    | nil =>
      have ends : Ends [] := by simp [Ends]
      have := pairs?_step keyword here ends later
      simpa using this
    | cons next others =>
      rw [List.map_cons, List.map_cons, List.intercalate_cons_cons]
      rw [List.append_assoc]
      refine pairs?_step keyword here (fun c first => ?_) ?_
      · cases first
        decide
      · have blank : Text.trimStart ([' '] ++ [' '].intercalate (written next :: others.map written)) =
            Text.trimStart ([' '].intercalate (written next :: others.map written)) :=
          List.dropWhile_cons_of_pos (by decide)
        rw [← pairs?_blanks, blank, pairs?_blanks]
        exact later

end Written
end ConnectionString

end Clickstream.Database

namespace Clickstream.DatabaseConfig
open Database Database.ConnectionString

/-- What a configuration says, pair by pair. -/
def settings (c : DatabaseConfig) : List (String × String) := [
  ("host", c.host), ("port", toString c.port), ("user", c.user), ("password", c.password),
  ("dbname", c.database), ("sslmode", "disable")]

/-- No setting needs quotes. -/
def Plain (c : DatabaseConfig) : Prop :=
  ConnectionString.Plain c.host ∧ ConnectionString.Plain c.user ∧ ConnectionString.Plain c.password ∧
    ConnectionString.Plain c.database

instance (c : DatabaseConfig) : Decidable c.Plain := inferInstanceAs (Decidable (_ ∧ _))

theorem connectionString_toList (c : DatabaseConfig) :
    c.connectionString.toList = [' '].intercalate (c.settings.map written) := by
  simp [connectionString, settings, written, List.intercalate]

/-- The port is written in digits, which need no quotes. -/
theorem plain_toString (n : Nat) : ConnectionString.Plain (toString n) := by
  have digit := digits_toString n
  refine ⟨?_, fun c there => ⟨Text.isBlank_of_isDigit (digit c there), ?_⟩, fun quote => ?_⟩
  · rw [ne_eq, ← String.toList_eq_nil_iff, toString_toList]
    exact Nat.toDigits_ne_nil
  · rintro rfl
    exact absurd (digit _ there) (by decide)
  · exact absurd (digit _ (List.mem_of_mem_head? quote)) (by decide)

theorem plain_settings (c : DatabaseConfig) :
    (∀ pair ∈ c.settings, ConnectionString.Plain pair.2) ↔ c.Plain := by
  have mode : ConnectionString.Plain "disable" := by decide
  simp only [settings, List.forall_mem_cons, List.not_mem_nil, false_implies, implies_true, Plain,
    plain_toString, mode, true_and, and_true]

theorem keywords_settings (c : DatabaseConfig) : (c.settings.map Prod.fst).Nodup := by
  simp [settings]

/-- A configuration whose settings are the last of their keywords in what is read needs no quotes: else
there would not be room for all of them. -/
theorem plain_of_read {c : DatabaseConfig} {pairs : List (String × String)}
    (read : pairsOf? c.connectionString = some pairs)
    (faithful : ∀ pair ∈ c.settings, lastValue? pair.1 pairs = some pair.2) : c.Plain := by
  have among : c.settings ⊆ pairs := by
    intro pair there
    obtain ⟨before, after, split, -⟩ := List.lookup_eq_some_iff.mp (faithful pair there)
    exact List.mem_reverse.mp (split ▸ by simp)
  obtain ⟨most, exact_⟩ := pairs?_room read
  obtain ⟨found, permuted, sub⟩ :=
    List.subperm_of_subset (List.Nodup.of_map Prod.fst c.keywords_settings) among
  have least : (c.settings.map room).sum ≤ (pairs.map room).sum := by
    rw [← (permuted.map room).sum_eq]
    exact (sub.map room).sum_le_sum (by simp)
  rw [room_written (by simp [settings]), ← connectionString_toList] at least
  exact c.plain_settings.mp fun pair there => exact_ (by omega) pair (among there)

/-- Settings without quotes are read as they are. -/
theorem read_of_plain {c : DatabaseConfig} (plain : c.Plain) :
    pairsOf? c.connectionString = some c.settings := by
  have keywords : ∀ pair ∈ c.settings, IsKeyword pair.1 := by
    simp only [settings, List.forall_mem_cons, List.not_mem_nil, false_implies, implies_true, and_true]
    refine ⟨?_, ?_, ?_, ?_, ?_, ?_⟩ <;> exact ⟨by decide, List.all_iff_forall_prop.mp (by decide)⟩
  have some_ : c.settings ≠ [] := by simp [settings]
  have room_ := room_written some_
  have least : 2 * c.settings.length ≤ (c.settings.map room).sum := by
    simp only [settings, List.map_cons, List.map_nil, List.sum_cons, List.sum_nil, List.length_cons,
      List.length_nil, room]
    omega
  unfold pairsOf?
  rw [connectionString_toList]
  refine pairs?_written keywords (c.plain_settings.mpr plain) ?_
  rw [← String.length_toList, connectionString_toList]
  have : c.settings.length = 6 := rfl
  omega

/-- The last values of a list with distinct keywords are its values. -/
theorem lastValue?_settings (c : DatabaseConfig) :
    ∀ pair ∈ c.settings, lastValue? pair.1 c.settings = some pair.2 := by
  simp [settings, lastValue?, List.lookup_cons]

theorem settings_injective {c c' : DatabaseConfig} (same : c.settings = c'.settings) : c = c' := by
  obtain ⟨host, port, user, password, database⟩ := c
  obtain ⟨host', port', user', password', database'⟩ := c'
  simp only [settings, List.cons.injEq, Prod.mk.injEq, true_and, and_true] at same
  obtain ⟨rfl, digits, rfl, rfl, rfl⟩ := same
  have ports : Nat.toDigits 10 port = Nat.toDigits 10 port' := by
    rw [← toString_toList, digits, toString_toList]
  rw [← digitsValue_toDigits port, ports, digitsValue_toDigits]

/-- The address that a configuration means. -/
def address (c : DatabaseConfig) : Address where
  hosts := [c.host]
  ports := [c.port]
  settings := [("sslmode", "disable"), ("dbname", c.database), ("password", c.password), ("user", c.user)]

theorem address_of_plain {c : DatabaseConfig} (plain : c.Plain) (port : c.port ≤ 65535)
    (single : ',' ∉ c.host.toList) : Address.read? c.connectionString = some c.address := by
  have read : pairs? (c.connectionString.length + 1) c.connectionString.toList = some c.settings :=
    read_of_plain plain
  have hosts : Text.splitAt ',' c.host = [c.host] := Text.splitAt_solid single
  have ports : Text.splitAt ',' (toString c.port) = [toString c.port] :=
    Text.splitAt_solid fun there => absurd (digits_toString c.port _ there) (by decide)
  have usual : Address.port? (toString c.port) = some c.port := by
    rw [Address.port?, if_neg (plain_toString c.port).nonempty, whole?_toString port]
  unfold Address.read?
  rw [read]
  unfold settings address
  generalize toString c.port = digits at ports usual
  simp [Address.addPair, hosts, ports, usual, accepted, texts, choices, numbers]

/-- A configuration is what the last values of its connection string say exactly if no setting needs quotes.
Then nothing else is read, no other such configuration has the same text, and the address is the one of
the configuration, unless there is a comma in the host, which separates hosts. -/
theorem connectionString_faithful_iff (c : DatabaseConfig) :
    ((∃ pairs, pairsOf? c.connectionString = some pairs ∧
        ∀ pair ∈ c.settings, lastValue? pair.1 pairs = some pair.2) ↔ c.Plain) ∧
      (c.Plain → pairsOf? c.connectionString = some c.settings ∧
        (∀ c' : DatabaseConfig, c'.Plain → c'.connectionString = c.connectionString → c' = c) ∧
        (c.port ≤ 65535 → ',' ∉ c.host.toList →
          Address.read? c.connectionString = some c.address)) := by
  refine ⟨⟨fun ⟨pairs, read, faithful⟩ => plain_of_read read faithful, fun plain => ?_⟩, fun plain => ?_⟩
  · exact ⟨c.settings, read_of_plain plain, c.lastValue?_settings⟩
  · refine ⟨read_of_plain plain, fun c' plain' same => ?_, address_of_plain plain⟩
    have read := read_of_plain plain'
    rw [same, read_of_plain plain] at read
    exact settings_injective (Option.some.inj read).symm

/-- The configuration where no variable is set. -/
def usual : DatabaseConfig := ⟨"localhost", 5432, "postgres", "postgres", "pixel"⟩

/-- The usual configuration is read back. A password with a blank is not, nor is one that is empty, and
two configurations can have the same text. -/
theorem connectionString_faithful_usual :
    (usual.Plain ∧ usual.port ≤ 65535 ∧ ',' ∉ usual.host.toList ∧
      Address.read? usual.connectionString = some usual.address) ∧
    (∀ password ∈ ["two words", ""], ¬ ∃ pairs,
      pairsOf? ({ usual with password }).connectionString = some pairs ∧
        ∀ pair ∈ ({ usual with password }).settings, lastValue? pair.1 pairs = some pair.2) ∧
    ({ usual with user := "a password=b", password := "c" }).connectionString =
      ({ usual with user := "a", password := "b password=c" }).connectionString := by
  have plain : usual.Plain := by decide
  have single : ',' ∉ usual.host.toList := by decide
  refine ⟨⟨plain, by decide, single, ?_⟩, fun password there => ?_, by decide⟩
  · exact ((connectionString_faithful_iff usual).2 plain).2.2 (by decide) single
  · rw [(connectionString_faithful_iff _).1]
    revert password
    decide

end Clickstream.DatabaseConfig
