import ResourceServer.Number.Reading
import ResourceServer.Proofs.Statements

/-! The counter of serial columns: which runs of insertions compute only numbers that can be stored. -/

namespace ResourceServer.Store

open ResourceServer.Number

/-! Insertions whose arithmetic stops where a sum cannot be stored. -/

def successor? (number : Int) : Option Int :=
  if isStorable (number + 1) then some (number + 1) else none

/-- The value of a column once it is numbered, and the next number, one operation after another. -/
def numberCell? (definition : ColumnDefinition) (value : Cell) (next : Int) : Option (Cell × Int) :=
  if definition.type = .serial then
    match value with
    | .null => (successor? next).map fun later => (.integer next, later)
    | .integer given => (successor? given).map fun later => (.integer given, max next later)
    | value => some (value, next)
  else some (value, next)

namespace Table

def fillSerials? : List ColumnDefinition → Row → Int → Option (Row × Int)
  | definition :: definitions, value :: row, next => do
    let (value, next) ← numberCell? definition value next
    let (row, next) ← fillSerials? definitions row next
    some (value :: row, next)
  | _, row, next => some (row, next)

def completeRows? (table : Table) (positions : List Nat) :
    List (List Cell) → Int → Option (Except StoreError (List Row × Int))
  | [], next => some (.ok ([], next))
  | values :: rest, next =>
    if values.length ≠ positions.length then
      some (.error (.wrongWidth table.name values.length positions.length))
    else do
      let row := placeValues table.columns.length positions values
      let (row, next) ← fillSerials? table.columns row next
      let completed ← completeRows? table positions rest next
      some (completed.map fun (rows, next) => (row :: rows, next))

def insert? (table : Table) (statement : Insert) : Option (Except StoreError (List Cell × Table)) :=
  match statement.columns.mapM table.position, statement.returning.mapM table.position with
  | .ok positions, .ok returned => do
    let completed ← table.completeRows? positions statement.rows table.nextSerial
    some do
      let (added, next) ← completed
      let all := table.rows ++ added
      table.checkUnique all
      let values := match returned with
        | some position => added.map fun row => row.getD position .null
        | none => []
      .ok (values, { table with rows := all, nextSerial := next })
  | .ok _, .error error => some (.error error)
  | .error error, _ => some (.error error)

/-- The table that an insertion leaves, which is the one before if it fails. -/
def left (table : Table) (result : Except StoreError (List Cell × Table)) : Table :=
  match result with
  | .ok (_, after) => after
  | .error _ => table

def after (table : Table) (statement : Insert) : Table :=
  table.left (table.insert statement.columns statement.rows statement.returning)

def after? (table : Table) (statement : Insert) : Option Table :=
  (table.insert? statement).map table.left

/-- A table after some insertions, one after another. -/
def insertAll (table : Table) (statements : List Insert) : Table :=
  statements.foldl after table

def insertAll? (table : Table) (statements : List Insert) : Option Table :=
  statements.foldlM after? table

end Table

/-! What the counter is moved by: numbers to be generated, and numbers that are given. -/

/-- What a value brings to its column if that is serial: a number that is given, or none where one is to be
generated. -/
def cellEntries (definition : ColumnDefinition) (value : Cell) : List (Option Int) :=
  if definition.type = .serial then
    match value with
    | .null => [none]
    | .integer given => [some given]
    | _ => []
  else []

def serialEntries (columns : List ColumnDefinition) (row : Row) : List (Option Int) :=
  (columns.zip row).flatMap fun (definition, value) => cellEntries definition value

def advance (next : Int) : Option Int → Int
  | none => next + 1
  | some given => max next (given + 1)

def counter (next : Int) (entries : List (Option Int)) : Int :=
  entries.foldl advance next

def generated (entries : List (Option Int)) : Int :=
  entries.count none

/-- There are numbers left for some entries: from the next one on for all that are generated, and above each that is
given for those that are generated after it. -/
structure Room (next : Int) (entries : List (Option Int)) : Prop where
  start : next + generated entries ≤ maxInteger
  given : ∀ number later, some number :: later <:+ entries → number + 1 + generated later ≤ maxInteger

namespace Table

/-- What rows bring to the serial columns, up to the first that is not as wide as it should be. -/
def rowEntries (table : Table) (positions : List Nat) (rows : List (List Cell)) : List (Option Int) :=
  (rows.takeWhile fun values => values.length = positions.length).flatMap fun values =>
    serialEntries table.columns (placeValues table.columns.length positions values)

/-- What a statement brings to the serial columns. It brings nothing if it names a column that is not there. -/
def entries (table : Table) (statement : Insert) : List (Option Int) :=
  match statement.columns.mapM table.position, statement.returning.mapM table.position with
  | .ok positions, .ok _ => table.rowEntries positions statement.rows
  | _, _ => []

def keptEntries (table : Table) (statement : Insert) : List (Option Int) :=
  match table.insert statement.columns statement.rows statement.returning with
  | .ok _ => table.entries statement
  | .error _ => []

/-- What the counter passes up to the end of each statement of a run: all that was kept of the statements before, and
what this one brings, be it kept or not. -/
def tries (table : Table) : List Insert → List (List (Option Int))
  | [] => []
  | statement :: rest =>
    table.entries statement ::
      ((table.after statement).tries rest).map fun tried => table.keptEntries statement ++ tried

end Table

def Cell.fits : Cell → Bool
  | .integer number => isStorable number
  | _ => true

def Insert.Fits (statement : Insert) : Prop :=
  ∀ values ∈ statement.rows, ∀ value ∈ values, value.fits

instance (statement : Insert) : Decidable statement.Fits :=
  inferInstanceAs (Decidable (∀ values ∈ statement.rows, ∀ value ∈ values, value.fits))

/-! The closed form of the counter. -/

theorem counter_append (next : Int) (first second : List (Option Int)) :
    counter next (first ++ second) = counter (counter next first) second :=
  List.foldl_append

theorem le_advance (next : Int) (entry : Option Int) : next ≤ advance next entry := by
  cases entry with
  | none => exact Int.le_add_one (le_refl next)
  | some given => exact le_max_left next (given + 1)

theorem le_counter (next : Int) (entries : List (Option Int)) : next ≤ counter next entries := by
  induction entries generalizing next with
  | nil => exact le_refl next
  | cons entry rest ih => exact le_trans (le_advance next entry) (ih (advance next entry))

theorem room_cons {next : Int} {entry : Option Int} {rest : List (Option Int)} :
    Room next (entry :: rest) ↔ Room (advance next entry) rest := by
  have first : advance next entry + generated rest ≤ maxInteger ↔
      next + generated (entry :: rest) ≤ maxInteger ∧
        ∀ given ∈ entry, given + 1 + generated rest ≤ maxInteger := by
    cases entry with
    | none =>
        simp [generated, advance]
        omega
    | some given =>
        simp [generated, advance]
        omega
  constructor
  · intro room
    constructor
    · apply first.mpr
      refine ⟨room.start, fun given same => ?_⟩
      cases same
      exact room.given given rest (List.suffix_refl _)
    · intro number later among
      exact room.given number later (among.trans (List.suffix_cons entry rest))
  · intro room
    obtain ⟨start, above⟩ := first.mp room.start
    refine ⟨start, fun number later among => ?_⟩
    rcases List.suffix_cons_iff.mp among with same | among
    · cases same
      exact above number rfl
    · exact room.given number later among

theorem room_iff {next : Int} {entries : List (Option Int)} :
    Room next entries ↔ counter next entries ≤ maxInteger := by
  induction entries generalizing next with
  | nil =>
      constructor
      · intro room
        simpa [generated, counter] using room.start
      · intro small
        exact ⟨by simpa [generated, counter] using small, by simp⟩
  | cons entry rest ih => exact room_cons.trans ih

theorem room_append {next : Int} {first second : List (Option Int)} :
    Room next (first ++ second) ↔ Room (counter next first) second := by
  rw [room_iff, room_iff, counter_append]

/-! Where the arithmetic does not stop, it does what it does without bounds. -/

def within {α : Type} (number : Int) (value : α) : Option α :=
  if number ≤ maxInteger then some value else none

section

variable {α β : Type} {number last : Int}

theorem within_map (number : Int) (change : α → β) (value : α) :
    (within number value).map change = within number (change value) := by
  unfold within
  split <;> rfl

theorem some_within (small : number ≤ maxInteger) (value : α) : some value = within number value :=
  (if_pos small).symm

theorem within_bind {value : α} {next : α → Option β} {result : β} (above : number ≤ last)
    (follows : number ≤ maxInteger → next value = within last result) :
    (within number value >>= next) = within last result := by
  by_cases small : number ≤ maxInteger
  · rw [within, if_pos small]
    exact follows small
  · rw [within, if_neg small, within, if_neg fun least => small (le_trans above least)]
    rfl

theorem storable_small (storable : isStorable number) : number ≤ maxInteger := by
  simp only [isStorable, Bool.and_eq_true, decide_eq_true_eq] at storable
  exact storable.2

theorem storable_between (start : isStorable number) (above : number ≤ last) (small : last ≤ maxInteger) :
    isStorable last := by
  simp only [isStorable, Bool.and_eq_true, decide_eq_true_eq] at start ⊢
  omega

theorem successor?_eq (start : isStorable number) : successor? number = within (number + 1) (number + 1) := by
  have same : isStorable (number + 1) = true ↔ number + 1 ≤ maxInteger := by
    simp only [isStorable, Bool.and_eq_true, decide_eq_true_eq] at start ⊢
    omega
  simp only [successor?, within, same]

end

/-! From one value to a run of statements: the counter after each is that of its entries, and the arithmetic stops
where that is out of bounds. -/

theorem numberCell_counter (definition : ColumnDefinition) (value : Cell) (next : Int) :
    (numberCell definition value next).2 = counter next (cellEntries definition value) := by
  unfold numberCell cellEntries
  split
  · cases value <;> rfl
  · rfl

theorem numberCell?_eq {next : Int} (start : isStorable next) (definition : ColumnDefinition) {value : Cell}
    (fit : value.fits) :
    numberCell? definition value next =
      within (counter next (cellEntries definition value)) (numberCell definition value next) := by
  have still : ∀ result : Cell × Int, some result = within next result := some_within (storable_small start)
  unfold numberCell? numberCell cellEntries
  split
  · cases value with
    | null =>
        dsimp only
        rw [successor?_eq start, within_map]
        rfl
    | integer given =>
        have small := storable_small start
        have same : max next (given + 1) ≤ maxInteger ↔ given + 1 ≤ maxInteger := by omega
        dsimp only
        rw [successor?_eq fit, within_map]
        simp only [within, counter, List.foldl_cons, List.foldl_nil, advance, same]
    | _ => exact still _
  · exact still _

theorem serialEntries_cons (definition : ColumnDefinition) (definitions : List ColumnDefinition) (value : Cell)
    (row : Row) :
    serialEntries (definition :: definitions) (value :: row) =
      cellEntries definition value ++ serialEntries definitions row := by
  simp [serialEntries]

theorem fillSerials_counter (columns : List ColumnDefinition) (row : Row) (next : Int) :
    (Table.fillSerials columns row next).2 = counter next (serialEntries columns row) := by
  induction columns generalizing row next with
  | nil => rfl
  | cons definition rest ih =>
      cases row with
      | nil => rfl
      | cons value values =>
          rw [serialEntries_cons, counter_append, ← numberCell_counter]
          exact ih values _

theorem fillSerials?_eq {next : Int} (start : isStorable next) (columns : List ColumnDefinition) {row : Row}
    (fit : ∀ value ∈ row, value.fits) :
    Table.fillSerials? columns row next =
      within (counter next (serialEntries columns row)) (Table.fillSerials columns row next) := by
  induction columns generalizing row next with
  | nil => exact some_within (storable_small start) _
  | cons definition rest ih =>
      cases row with
      | nil => exact some_within (storable_small start) _
      | cons value values =>
          have own : value.fits := fit value List.mem_cons_self
          have others : ∀ other ∈ values, other.fits := fun other among => fit other (List.mem_cons_of_mem _ among)
          rw [serialEntries_cons, counter_append, Table.fillSerials?, numberCell?_eq start definition own]
          apply within_bind (le_counter _ _)
          intro small
          have between := storable_between start (le_counter next (cellEntries definition value)) small
          rw [← numberCell_counter] at between small ⊢
          dsimp only
          rw [ih between others]
          exact within_bind (le_refl _) fun small => some_within small _

theorem mem_placeValues {width : Nat} {positions : List Nat} {values : List Cell} {value : Cell}
    (among : value ∈ Table.placeValues width positions values) : value = .null ∨ value ∈ values := by
  unfold Table.placeValues at among
  have each : ∀ (entries : List (Nat × Cell)) (row : Row),
      value ∈ entries.foldl (fun row entry => row.set entry.1 entry.2) row →
        value ∈ row ∨ value ∈ entries.map (·.2) := by
    intro entries
    induction entries with
    | nil => exact fun row among => .inl among
    | cons entry rest ih =>
        intro row among
        rcases ih _ among with placed | later
        · rcases List.mem_or_eq_of_mem_set placed with before | rfl
          · exact .inl before
          · exact .inr List.mem_cons_self
        · exact .inr (List.mem_cons_of_mem _ later)
  rcases each _ _ among with blank | given
  · exact .inl (List.eq_of_mem_replicate blank)
  · obtain ⟨entry, paired, rfl⟩ := List.mem_map.mp given
    exact .inr (List.of_mem_zip paired).2

section

variable {table : Table} {positions : List Nat}

theorem rowEntries_cons {values : List Cell} (rest : List (List Cell)) (wide : values.length = positions.length) :
    table.rowEntries positions (values :: rest) =
      serialEntries table.columns (Table.placeValues table.columns.length positions values) ++
        table.rowEntries positions rest := by
  unfold Table.rowEntries
  rw [List.takeWhile_cons_of_pos (by simpa using wide), List.flatMap_cons]

theorem rowEntries_narrow {values : List Cell} (rest : List (List Cell)) (narrow : values.length ≠ positions.length) :
    table.rowEntries positions (values :: rest) = [] := by
  unfold Table.rowEntries
  rw [List.takeWhile_cons_of_neg (by simpa using narrow), List.flatMap_nil]

theorem completeRows_counter {rows : List (List Cell)} {added : List Row} {next last : Int}
    (done : table.completeRows positions rows next = .ok (added, last)) :
    last = counter next (table.rowEntries positions rows) := by
  induction rows generalizing added next with
  | nil =>
      cases done
      rfl
  | cons values rest ih =>
      unfold Table.completeRows at done
      split at done
      · cases done
      rename_i wide
      obtain ⟨⟨others, final⟩, run, same⟩ := bind_ok done
      cases same
      rw [rowEntries_cons rest (not_not.mp wide), counter_append, ← fillSerials_counter]
      exact ih run

theorem completeRows?_eq {rows : List (List Cell)} {next : Int} (start : isStorable next)
    (fit : ∀ values ∈ rows, ∀ value ∈ values, value.fits) :
    table.completeRows? positions rows next =
      within (counter next (table.rowEntries positions rows)) (table.completeRows positions rows next) := by
  induction rows generalizing next with
  | nil => exact some_within (storable_small start) _
  | cons values rest ih =>
      unfold Table.completeRows? Table.completeRows
      by_cases wide : values.length = positions.length
      · have placed : ∀ value ∈ Table.placeValues table.columns.length positions values, value.fits := by
          intro value among
          rcases mem_placeValues among with rfl | given
          · rfl
          · exact fit values List.mem_cons_self value given
        have others : ∀ other ∈ rest, ∀ value ∈ other, value.fits := fun other among =>
          fit other (List.mem_cons_of_mem _ among)
        rw [if_neg (not_not.mpr wide), if_neg (not_not.mpr wide), rowEntries_cons rest wide, counter_append]
        dsimp only
        rw [fillSerials?_eq start table.columns placed]
        apply within_bind (le_counter _ _)
        intro small
        have between := storable_between start (le_counter next _) small
        rw [← fillSerials_counter] at between ⊢
        rw [ih between others]
        apply within_bind (le_refl _)
        intro small
        rw [← some_within small]
        cases table.completeRows positions rest _ <;> rfl
      · rw [if_pos wide, if_pos wide, rowEntries_narrow rest wide]
        exact some_within (storable_small start) _

end

section

variable {table : Table} {statement : Insert}

theorem insert?_eq (counted : table.isCounted) (fit : statement.Fits) :
    table.insert? statement = within (counter table.nextSerial (table.entries statement))
      (table.insert statement.columns statement.rows statement.returning) := by
  have small := storable_small counted
  unfold Table.insert? Table.insert Table.entries
  cases statement.columns.mapM table.position with
  | error error => exact some_within small _
  | ok positions =>
      cases statement.returning.mapM table.position with
      | error error => exact some_within small _
      | ok returned =>
          dsimp only
          rw [completeRows?_eq counted fit]
          exact within_bind (le_refl _) fun small => some_within small _

theorem after?_eq (counted : table.isCounted) (fit : statement.Fits) :
    table.after? statement =
      within (counter table.nextSerial (table.entries statement)) (table.after statement) := by
  unfold Table.after?
  rw [insert?_eq counted fit, within_map]
  rfl

theorem after_nextSerial (table : Table) (statement : Insert) :
    (table.after statement).nextSerial = counter table.nextSerial (table.keptEntries statement) := by
  unfold Table.after Table.keptEntries
  cases done : table.insert statement.columns statement.rows statement.returning with
  | error error => rfl
  | ok result =>
      obtain ⟨positions, placed, done⟩ := bind_ok done
      obtain ⟨returned, located, done⟩ := bind_ok done
      obtain ⟨⟨added, next⟩, completed, done⟩ := bind_ok done
      obtain ⟨_, _, done⟩ := bind_ok done
      cases done
      simp only [Table.left, Table.entries, placed, located]
      exact completeRows_counter completed

theorem keptEntries_cases (table : Table) (statement : Insert) :
    table.keptEntries statement = table.entries statement ∨ table.keptEntries statement = [] := by
  unfold Table.keptEntries
  split
  · exact .inl rfl
  · exact .inr rfl

end

theorem after_counted {table : Table} {statement : Insert} (counted : table.isCounted)
    (small : counter table.nextSerial (table.entries statement) ≤ maxInteger) :
    (table.after statement).isCounted := by
  have kept : isStorable (counter table.nextSerial (table.keptEntries statement)) := by
    rcases keptEntries_cases table statement with all | none
    · rw [all]
      exact storable_between counted (le_counter _ _) small
    · rw [none]
      exact counted
  rwa [← after_nextSerial] at kept

theorem rooms_cons {table : Table} {statement : Insert} {rest : List Insert} :
    (∀ tried ∈ table.tries (statement :: rest), Room table.nextSerial tried) ↔
      Room table.nextSerial (table.entries statement) ∧
        ∀ tried ∈ (table.after statement).tries rest, Room (table.after statement).nextSerial tried := by
  simp only [Table.tries, List.forall_mem_cons, List.forall_mem_map, room_append, after_nextSerial]

/-- A run of insertions computes a next number that cannot be stored exactly if one of its statements finds no room:
counting the numbers that are generated and given by it, and before it by those that were not undone. A run that finds
room does just what it would do if no number was out of bounds. -/
theorem insertions_bounded_iff {table : Table} {statements : List Insert} (counted : table.isCounted)
    (fit : ∀ statement ∈ statements, statement.Fits) :
    ((∀ tried ∈ table.tries statements, Room table.nextSerial tried) →
      table.insertAll? statements = some (table.insertAll statements) ∧
        (table.insertAll statements).isCounted) ∧
    ((¬∀ tried ∈ table.tries statements, Room table.nextSerial tried) →
      table.insertAll? statements = none) := by
  induction statements generalizing table with
  | nil => exact ⟨fun _ => ⟨rfl, counted⟩, fun none => absurd nofun none⟩
  | cons statement rest ih =>
      have own : statement.Fits := fit statement List.mem_cons_self
      have others : ∀ other ∈ rest, other.Fits := fun other among => fit other (List.mem_cons_of_mem _ among)
      have first : table.insertAll? (statement :: rest) =
          table.after? statement >>= fun after => after.insertAll? rest := List.foldlM_cons
      rw [rooms_cons, room_iff, first, after?_eq counted own, within]
      by_cases small : counter table.nextSerial (table.entries statement) ≤ maxInteger
      · rw [if_pos small]
        simp only [small, true_and]
        exact ih (after_counted counted small) others
      · rw [if_neg small]
        simp [small]

/-! Visitors, who are numbered unless they bring numbers of their own. -/

namespace Visitors

def table : Table :=
  ⟨"visitor", [⟨"id", .serial⟩, ⟨"name", .text⟩], [[0]], [], 1⟩

def statements : List Insert :=
  [⟨"visitor", ["id", "name"], [[.integer 5, .text "Ann"]], none⟩,
    ⟨"visitor", ["name"], [[.text "Bob"], [.text "Cid"]], some "id"⟩,
    ⟨"visitor", ["id"], [[.integer (maxInteger - 1)], [.integer 6]], none⟩,
    ⟨"visitor", ["name"], [[.text "Dot"]], some "id"⟩]

def extreme : Insert :=
  ⟨"visitor", ["id"], [[.integer maxInteger]], none⟩

end Visitors

theorem visitors_numbered :
    Visitors.table.isCounted ∧ (∀ statement ∈ Visitors.statements, statement.Fits) ∧
      (∀ tried ∈ Visitors.table.tries Visitors.statements, Room Visitors.table.nextSerial tried) ∧
      Visitors.table.insertAll? Visitors.statements = some (Visitors.table.insertAll Visitors.statements) ∧
      (Visitors.table.insertAll Visitors.statements).nextSerial = 9 := by
  have counted : Visitors.table.isCounted := by decide
  have fit : ∀ statement ∈ Visitors.statements, statement.Fits := by decide
  have bounded : ∀ tried ∈ Visitors.table.tries Visitors.statements,
      counter Visitors.table.nextSerial tried ≤ maxInteger := by decide +kernel
  have rooms : ∀ tried ∈ Visitors.table.tries Visitors.statements, Room Visitors.table.nextSerial tried :=
    fun tried among => room_iff.mpr (bounded tried among)
  exact ⟨counted, fit, rooms, ((insertions_bounded_iff counted fit).1 rooms).1, by decide +kernel⟩

/-- Nothing can be computed after the largest number, though it can be stored. -/
theorem largest_number_has_no_next :
    Visitors.table.isCounted ∧ Visitors.extreme.Fits ∧
      Visitors.table.insertAll? [Visitors.extreme] = none ∧
      (Visitors.table.insertAll [Visitors.extreme]).nextSerial = maxInteger + 1 := by
  refine ⟨by decide, by decide, by decide +kernel, by decide +kernel⟩

end ResourceServer.Store
