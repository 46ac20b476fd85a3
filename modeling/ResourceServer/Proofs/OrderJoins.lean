import ResourceServer.Proofs.Cardinality
import ResourceServer.Proofs.Following

/-! The joins that an order brings in: where they follow relationships that lead to one target, each row is kept
once, beside the rows of what it leads to. -/

namespace ResourceServer

open ResourceServer.Store ResourceServer.Mapping

namespace Store

def Scope.Lacks (scope : Scope) (name : String) : Prop :=
  ∀ entry ∈ scope, entry.1.table ≠ some name

theorem get_front {scope : Scope} {column : Column} {cell : Cell} (found : scope.get column = .ok cell)
    (rest : Scope) : Scope.get (scope ++ rest) column = .ok cell := by
  unfold Scope.get at found ⊢
  rw [List.find?_append]
  split at found
  · rename_i entry here
    rw [here, Option.some_or]
    exact found
  · cases found

theorem binds_front {scope : Scope} {name : String} {table : Table} {record : Record}
    (bound : scope.Binds name table record) (rest : Scope) :
    Scope.Binds (scope ++ rest) name table record :=
  fun column present => get_front (bound column present) rest

theorem binds_lacking {scope rest : Scope} {name : String} {table : Table} {record : Record}
    (lacks : scope.Lacks name) (bound : rest.Binds name table record) :
    Scope.Binds (scope ++ rest) name table record := by
  intro column present
  have hidden : scope.find? (fun entry => isMeant (.ofTable name column) entry.1) = none := by
    rw [List.find?_eq_none]
    intro entry member meant
    have same : entry.1 = .ofTable name column := of_decide_eq_true meant
    exact lacks entry member (by rw [same]; rfl)
  have found := bound column present
  unfold Scope.get at found ⊢
  rw [List.find?_append, hidden, Option.none_or]
  exact found

theorem scope_named (table : Table) (name : String) (row : Row) :
    ∀ entry ∈ table.scope name row, entry.1.table = some name := by
  intro entry member
  have inside : entry.1 ∈ _ ∧ entry.2 ∈ row := List.of_mem_zip member
  obtain ⟨definition, _, same⟩ := List.mem_map.mp inside.1
  rw [← same]
  rfl

def Scope.Stands (scope : Scope) (database : Database) (name table : String) (record : Record) : Prop :=
  ∃ found, database.table? table = some found ∧ scope.Binds name found record ∧
    (record ∈ database.records table ∨ record = Record.blank)

def Scope.Grows (names : List String) (scope grown : Scope) : Prop :=
  ∃ rest, grown = scope ++ rest ∧ ∀ entry ∈ rest, ∃ name ∈ names, entry.1.table = some name

theorem Scope.Grows.stands {names : List String} {scope grown : Scope} (grows : scope.Grows names grown)
    {database : Database} {name table : String} {record : Record}
    (stands : scope.Stands database name table record) :
    grown.Stands database name table record := by
  obtain ⟨rest, rfl, _⟩ := grows
  obtain ⟨found, here, bound, stored⟩ := stands
  exact ⟨found, here, binds_front bound rest, stored⟩

section

variable {database : Database} {scopes : List Scope}

theorem extend_left {scope : Scope} {joined : Table} {column : String} {value : Cell} (join : Join)
    (kind : join.kind = .left) (equal : join.operator = "=")
    (own : join.left = .ofTable join.rename column) (has : joined.Has column)
    (given : scope.get join.right = .ok value) (wide : joined.Wide) (lacks : scope.Lacks join.rename)
    (few : (joined.records.filter fun record => (record column).agrees value).length ≤ 1) :
    ∃ row, join.extend joined scope = .ok [scope ++ joined.scope join.rename row] ∧
      row.length = joined.columns.length ∧
      joined.record row =
        (joined.records.find? fun record => (record column).agrees value).getD Record.blank := by
  have lefts : ∀ row ∈ joined.rows, Scope.get (scope ++ joined.scope join.rename row) join.left =
      .ok (joined.record row column) := by
    intro row member
    have bound := scope_binds joined join.rename row [] (wide row member)
    rw [List.append_nil] at bound
    rw [own]
    exact binds_lacking lacks bound column has
  have matched := matching_eq (fun row => joined.record row column) (fun _ => value) equal lefts
    fun row _ => get_front given _
  rw [← List.head?_filter]
  rw [Table.records, List.filter_map] at few ⊢
  rw [List.length_map] at few
  change (joined.rows.filter fun row => (joined.record row column).agrees value).length ≤ 1 at few
  change ∃ row, _ ∧ _ ∧ _ = ((List.map joined.record
    (joined.rows.filter fun row => (joined.record row column).agrees value)).head?).getD _
  unfold Join.extend
  rw [matched]
  generalize found : joined.rows.filter (fun row => (joined.record row column).agrees value) = rows
    at few matched ⊢
  cases rows with
  | nil =>
      refine ⟨List.replicate joined.columns.length .null, ?_, List.length_replicate,
        recordOf_nulls joined.columns⟩
      exact bind_of_ok rfl (if_pos ⟨rfl, kind⟩)
  | cons row rest =>
      obtain rfl : rest = [] := by simpa using few
      have kept : row ∈ joined.rows.filter fun row => (joined.record row column).agrees value := by
        rw [found]
        exact List.mem_cons_self
      have member := (List.mem_filter.mp kept).1
      refine ⟨row, bind_of_ok rfl (if_neg ?_), wide row member, rfl⟩
      exact fun both => absurd both.1 (by simp)

theorem apply_singles {α : Type} {join : Join} {joined : Table} {before after : α → Scope → Prop}
    {items : List α} (found : database.table? join.table = some joined)
    (rows : List.Forall₂ before items scopes)
    (each : ∀ item scope, before item scope →
      ∃ grown, join.extend joined scope = .ok [grown] ∧ after item grown) :
    ∃ grown, join.apply database scopes = .ok grown ∧ List.Forall₂ after items grown := by
  have all : ∃ grown : List Scope,
      scopes.mapM (join.extend joined) = .ok (grown.map fun scope => [scope]) ∧
        List.Forall₂ after items grown := by
    induction rows with
    | nil => exact ⟨[], rfl, .nil⟩
    | @cons item scope _ _ one _ ih =>
        obtain ⟨first, extended, related⟩ := each item scope one
        obtain ⟨others, mapped, later⟩ := ih
        refine ⟨first :: others, ?_, .cons related later⟩
        rw [List.mapM_cons, extended, mapped]
        rfl
  obtain ⟨grown, mapped, related⟩ := all
  refine ⟨grown, ?_, related⟩
  unfold Join.apply
  refine bind_of_ok (table_ok found) (bind_of_ok mapped ?_)
  rw [← List.flatMap_def, List.flatMap_singleton']

end

end Store

section

variable {schema : Schema} {database : Database} {type target : EntityType}
  {relationship : Relationship} {scope : Scope}

def matching (database : Database) (table column : String) (value : Cell) : Record :=
  ((database.records table).find? fun record => (record column).agrees value).getD Record.blank

theorem matching_stored (database : Database) (table column : String) (value : Cell) :
    matching database table column value ∈ database.records table ∨
      matching database table column value = Record.blank := by
  unfold matching
  cases found : (database.records table).find? fun record => (record column).agrees value with
  | none => exact .inr rfl
  | some record => exact .inl (List.mem_of_find?_eq_some found)

theorem extend_key {name table next added column own : String} {record : Record} {joined : Table}
    (stands : scope.Stands database name table record)
    (holds : ∀ found, database.table? table = some found → found.Has own)
    (reached : database.table? added = some joined) (wide : joined.Wide) (has : joined.Has column)
    (few : ((database.records added).filter fun other =>
      (other column).agrees (record own)).length ≤ 1) (lacks : scope.Lacks next) :
    ∃ grown, Join.extend ⟨.left, added, next, .ofTable next column, "=", .ofTable name own⟩ joined
        scope = .ok [grown] ∧
      scope.Grows [next] grown ∧
        grown.Stands database next added (matching database added column (record own)) := by
  obtain ⟨found, here, bound, stored⟩ := stands
  rw [records_of_table reached] at few
  obtain ⟨row, extended, fits, matched⟩ := extend_left
    ⟨.left, added, next, .ofTable next column, "=", .ofTable name own⟩ rfl rfl rfl has
    (bound own (holds found here)) wide lacks few
  have named := scope_named joined next row
  have same : joined.record row = matching database added column (record own) := by
    unfold matching
    rw [records_of_table reached]
    exact matched
  refine ⟨_, extended, ⟨_, rfl, fun entry member => ⟨next, List.mem_singleton_self _, named entry member⟩⟩,
    joined, reached, ?_, matching_stored ..⟩
  rw [← same]
  have bound := scope_binds joined next row [] fits
  rw [List.append_nil] at bound
  exact binds_lacking lacks bound

/-- A name for the rows that are joined in to lead to others. -/
def linkName (next : String) : String :=
  next ++ "_link"

theorem linkName_ne (next : String) : linkName next ≠ next := by
  intro same
  have lengths := congrArg String.length same
  unfold linkName at lengths
  rw [String.length_append] at lengths
  have : "_link".length = 5 := by decide
  omega

theorem Store.Scope.Grows.lacks {names : List String} {grown : Scope} {name : String}
    (grows : scope.Grows names grown) (lacks : scope.Lacks name) (apart : name ∉ names) :
    grown.Lacks name := by
  obtain ⟨rest, rfl, named⟩ := grows
  intro entry member same
  rcases List.mem_append.mp member with old | new
  · exact lacks entry old same
  · obtain ⟨other, among, here⟩ := named entry new
    cases same.symm.trans here
    exact apart among

theorem Store.Scope.Grows.trans {names : List String} {middle grown : Scope}
    (first : scope.Grows names middle) (second : middle.Grows names grown) :
    scope.Grows names grown := by
  obtain ⟨rest, rfl, named⟩ := first
  obtain ⟨more, rfl, named'⟩ := second
  refine ⟨rest ++ more, List.append_assoc .., fun entry member => ?_⟩
  rcases List.mem_append.mp member with old | new
  · exact named entry old
  · exact named' entry new

theorem Store.Scope.Grows.weaken {names others : List String} {grown : Scope}
    (grows : scope.Grows names grown) (among : names ⊆ others) : scope.Grows others grown := by
  obtain ⟨rest, rfl, named⟩ := grows
  exact ⟨rest, rfl, fun entry member =>
    (named entry member).imp fun name both => ⟨among both.1, both.2⟩⟩

def Leads (database : Database) (type target : EntityType) (storage : Storage) (next : String)
    (record : Record) (scope grown : Scope) : Prop :=
  scope.Grows [linkName next, next] grown ∧
    grown.Stands database next (tableName target)
      ((target? database type target storage record).getD Record.blank)

theorem agrees_comm (left right : Cell) : left.agrees right = right.agrees left :=
  Bool.eq_iff_iff.mpr ⟨Cell.agrees_symm, Cell.agrees_symm⟩

theorem paired_target {pairs ownerColumn targetColumn : String} {record : Record}
    (few : ((database.records pairs).filter fun pair =>
      (pair ownerColumn).agrees (record (idName type))).length ≤ 1) :
    (target? database type target (.joinTable pairs ownerColumn targetColumn) record).getD
        Record.blank =
      matching database (tableName target) (idName target)
        (matching database pairs ownerColumn (record (idName type)) targetColumn) := by
  have link (other : Record) : linked database type target (.joinTable pairs ownerColumn targetColumn)
      record other = ((database.records pairs).filter fun pair =>
        (pair ownerColumn).agrees (record (idName type))).any fun pair =>
          (pair targetColumn).agrees (other (idName target)) := by
    rw [List.any_filter]
    exact congrArg _ (funext fun pair => Bool.and_comm _ _)
  have first : (database.records pairs).find? (fun pair =>
      (pair ownerColumn).agrees (record (idName type))) = ((database.records pairs).filter fun pair =>
        (pair ownerColumn).agrees (record (idName type))).head? := List.head?_filter.symm
  unfold target? matching
  rw [first]
  generalize (database.records pairs).filter (fun pair =>
    (pair ownerColumn).agrees (record (idName type))) = found at few link ⊢
  refine congrArg (Option.getD · Record.blank) (congrArg (List.find? · _) (funext fun other => ?_))
  rw [link other]
  cases found with
  | nil => exact (Cell.agrees_null _).symm
  | cons pair rest =>
      obtain rfl : rest = [] := by simpa using few
      rw [List.any_cons, List.any_nil, Bool.or_false]
      exact agrees_comm _ _

theorem stepJoins_apply (shaped : Shaped schema database) (distinct : schema.ColumnsDistinct)
    (relates : schema.Relates type relationship target)
    (found : Mapping.findRelationship schema type relationship.name = .ok (relationship, target))
    {name next : String} {α : Type} {items : List α} (place : α → Record) {before : α → Scope → Prop}
    {scopes : List Scope} (rows : List.Forall₂ before items scopes)
    (standing : ∀ item scope, before item scope →
      scope.Stands database name (tableName type) (place item) ∧
        LinksOne database type target relationship.storage (place item) ∧
          scope.Lacks next ∧ scope.Lacks (linkName next)) :
    ∃ grown, (stepJoins type target relationship.storage name next).foldlM
        (fun scopes join => join.apply database scopes) scopes = .ok grown ∧
      List.Forall₂ (fun item grown => ∃ scope, before item scope ∧
        Leads database type target relationship.storage next (place item) scope grown) items grown := by
  obtain ⟨_, leads, _, named⟩ := findRelationship_ok found
  obtain ⟨table, here, laid, _⟩ := shaped.entities type relates.known
  obtain ⟨joined, reached, laid', wide⟩ := shaped.entities target relates.known'
  have owned : ∀ found, database.table? (tableName type) = some found → found.Has (idName type) := by
    intro found there
    cases here.symm.trans there
    exact ⟨_, field_column laid (distinct type relates.known) List.mem_cons_self, rfl⟩
  have present : joined.Has (idName target) :=
    ⟨_, field_column laid' (distinct target relates.known') List.mem_cons_self, rfl⟩
  have single {scope grown : Scope} (grows : scope.Grows [next] grown) :
      scope.Grows [linkName next, next] grown := grows.weaken (by simp)
  cases storage : relationship.storage with
  | ownerKey column =>
      rw [storage] at standing
      unfold stepJoins
      simp only [List.foldlM_cons, List.foldlM_nil, bind_pure]
      refine apply_singles reached rows fun item scope start => ?_
      obtain ⟨stands, one, lacks, _⟩ := standing item scope start
      obtain ⟨grown, extended, grows, led⟩ := extend_key stands
        (fun found there => by
          cases here.symm.trans there
          exact ownerKey_column laid relates.own storage leads) reached wide present one lacks
      exact ⟨grown, extended, scope, start, single grows, led⟩
  | targetKey column =>
      rw [storage] at standing
      unfold stepJoins
      simp only [List.foldlM_cons, List.foldlM_nil, bind_pure]
      refine apply_singles reached rows fun item scope start => ?_
      obtain ⟨stands, one, lacks, _⟩ := standing item scope start
      obtain ⟨grown, extended, grows, led⟩ := extend_key stands owned reached wide
        (targetKey_column laid' relates.known relates.own storage named) one lacks
      exact ⟨grown, extended, scope, start, single grows, led⟩
  | joinTable pairs ownerColumn targetColumn =>
      rw [storage] at standing
      obtain ⟨links, paired, owns, targets, narrow⟩ :=
        shaped.pairs type relates.known relationship relates.own _ _ _ storage
      have holds : ∀ found, database.table? pairs = some found → found.Has targetColumn := by
        intro found there
        cases paired.symm.trans there
        exact targets
      unfold stepJoins
      simp only [List.foldlM_cons, List.foldlM_nil, bind_pure]
      -- The first join finds the link, the second one the target that the link holds.
      have first : ∃ middle, Join.apply ⟨.left, pairs, linkName next,
          .ofTable (linkName next) ownerColumn, "=", idColumn type name⟩ database scopes = .ok middle ∧
          List.Forall₂ (fun item middle => ∃ scope, before item scope ∧
            scope.Grows [linkName next] middle ∧ middle.Stands database (linkName next) pairs
              (matching database pairs ownerColumn (place item (idName type)))) items middle := by
        refine apply_singles paired rows fun item scope start => ?_
        obtain ⟨stands, one, _, lacks⟩ := standing item scope start
        obtain ⟨middle, extended, grows, led⟩ := extend_key stands owned paired narrow owns one.1 lacks
        exact ⟨middle, extended, scope, start, grows, led⟩
      obtain ⟨middle, applied, linked⟩ := first
      have second : ∃ grown, Join.apply ⟨.left, tableName target, next, idColumn target next, "=",
          .ofTable (linkName next) targetColumn⟩ database middle = .ok grown ∧
          List.Forall₂ (fun item grown => ∃ scope, before item scope ∧
            Leads database type target (.joinTable pairs ownerColumn targetColumn) next (place item)
              scope grown) items grown := by
        refine apply_singles reached linked fun item scope ⟨start, origin, grows, stands⟩ => ?_
        obtain ⟨_, one, lacks, _⟩ := standing item start origin
        have few : ((database.records (tableName target)).filter fun other =>
            (other (idName target)).agrees
              (matching database pairs ownerColumn (place item (idName type)) targetColumn)).length
                ≤ 1 := by
          unfold matching
          cases found : (database.records pairs).find? fun pair =>
              (pair ownerColumn).agrees (place item (idName type)) with
          | none => exact null_matches_none ..
          | some pair =>
              exact one.2 pair (List.mem_of_find?_eq_some found) (by simpa using List.find?_some found)
        obtain ⟨grown, extended, grows', led⟩ := extend_key stands holds reached wide present few
          (grows.lacks lacks (by simpa using (linkName_ne next).symm))
        rw [← paired_target one.1] at led
        exact ⟨grown, extended, start, origin, (grows.weaken (by simp)).trans (single grows'), led⟩
      obtain ⟨grown, applied', led⟩ := second
      exact ⟨grown, bind_of_ok applied applied', led⟩

end

/-! The names that joined tables go by. -/

/-- A name that no table is given which is joined as the one of some number or later. -/
def Unsorted (name : String) (next : Nat) : Prop :=
  ∀ number, next ≤ number → name ≠ s!"sort_{number}" ∧ name ≠ linkName s!"sort_{number}"

theorem Unsorted.later {name : String} {next after : Nat} (unsorted : Unsorted name next)
    (later : next ≤ after) : Unsorted name after :=
  fun number above => unsorted number (later.trans above)

theorem sort_injective {left right : Nat} (same : s!"sort_{left}" = s!"sort_{right}") :
    left = right :=
  numeral_injective ((String.append_right_inj _).mp same)

theorem sort_ne_link (left right : Nat) : s!"sort_{left}" ≠ linkName s!"sort_{right}" := by
  intro same
  have marked : 'k' ∈ (linkName s!"sort_{right}").toList := by
    unfold linkName
    rw [String.toList_append]
    exact List.mem_append_right _ (by decide)
  rw [← same] at marked
  rcases List.mem_append.mp (String.toList_append ▸ marked) with here | here
  · exact absurd here (by decide)
  · exact absurd (Number.digits_isDigit left 'k' (Nat.toList_repr ▸ here)) (by decide)

theorem unsorted_of_head {name : String} (head : name.toList.head? ≠ some 's') (next : Nat) :
    Unsorted name next := by
  intro number _
  have begins : s!"sort_{number}".toList.head? = some 's' := by
    rw [String.toList_append]
    rfl
  constructor
  · rintro rfl
    exact head begins
  · rintro rfl
    refine head ?_
    unfold linkName
    rw [String.toList_append, List.head?_append, begins]
    rfl

theorem unsorted_sort (number : Nat) : Unsorted s!"sort_{number}" (number + 1) := by
  intro other above
  refine ⟨fun same => ?_, sort_ne_link number other⟩
  have equal := sort_injective same
  omega

theorem unsorted_link (number : Nat) : Unsorted (linkName s!"sort_{number}") (number + 1) := by
  intro other above
  refine ⟨fun same => sort_ne_link other number same.symm, fun same => ?_⟩
  have equal := sort_injective ((String.append_left_inj _).mp same)
  omega

/-- A path of relationships that lead to one target each. -/
inductive Schema.LeadsAlong (schema : Schema) : EntityType → List String → Prop
  | done (type : EntityType) : schema.LeadsAlong type []
  | step {type target : EntityType} {relationship : Relationship} {rest : List String}
      (one : schema.LeadsToOne type relationship target) (later : schema.LeadsAlong target rest) :
      schema.LeadsAlong type (relationship.name :: rest)

def Mapping.OrderJoins.Holds (joined : OrderJoins) (base : EntityType) (path : List String)
    (table : String) (type : EntityType) : Prop :=
  path = [] ∧ table = tableName base ∧ type = base ∨ ⟨path, table, type⟩ ∈ joined.paths

theorem Mapping.OrderJoins.Holds.later {joined after : OrderJoins} {base type : EntityType}
    {path : List String} {table : String} (holds : joined.Holds base path table type)
    (more : joined.paths ⊆ after.paths) : after.Holds base path table type :=
  holds.imp_right fun member => more member

/-- A row of a type's table in scope, before the rows of what it leads to along the joined paths. -/
structure Widened (schema : Schema) (database : Database) (base : EntityType) (table : Table)
    (joined : OrderJoins) (row : Row) (scope : Scope) : Prop where
  front : ∃ rest, scope = table.scope (tableName base) row ++ rest
  paths : ∀ entry ∈ joined.paths, scope.Stands database entry.table (tableName entry.type)
    (recordAt schema database base (table.record row) entry.path)
  names : ∀ entry ∈ scope, ∃ name, entry.1.table = some name ∧
    Unsorted name (joined.paths.length + 1)

/-- The joins so far keep each row of a type's table once. -/
structure KeepsEach (schema : Schema) (database : Database) (base : EntityType) (table : Table)
    (joined : OrderJoins) (scopes : List Scope) : Prop where
  found : database.table? (tableName base) = some table
  wide : table.Wide
  scanned : database.scan (tableName base) (tableName base) joined.joins = .ok scopes
  rows : List.Forall₂ (Widened schema database base table joined) table.rows scopes
  typed : ∀ entry ∈ joined.paths, typeAlong schema base entry.path = some entry.type

section

variable {schema : Schema} {database : Database} {base : EntityType} {table : Table}

theorem scan_append (name rename : String) (joins more : List Join) :
    database.scan name rename (joins ++ more) =
      database.scan name rename joins >>=
        more.foldlM fun scopes join => join.apply database scopes := by
  unfold Database.scan
  cases database.table name with
  | error error => rfl
  | ok table => exact List.foldlM_append ..

theorem keepsEach_alone (found : database.table? (tableName base) = some table) (wide : table.Wide)
    (unsorted : Unsorted (tableName base) 1) : KeepsEach schema database base table ⟨[], []⟩
      (table.rows.map (table.scope (tableName base))) := by
  refine ⟨found, wide, scan_alone (tableName base) found, ?_, nofun⟩
  rw [List.forall₂_map_right_iff]
  refine List.forall₂_same.mpr fun row _ => ⟨⟨[], (List.append_nil _).symm⟩, nofun, ?_⟩
  exact fun entry inside => ⟨_, scope_named table _ row entry inside, unsorted⟩

section

variable {joined : OrderJoins} {row : Row} {scope : Scope}
  (widened : Widened schema database base table joined row scope)
include widened

theorem Widened.lacks : scope.Lacks s!"sort_{joined.paths.length + 1}" ∧
    scope.Lacks (linkName s!"sort_{joined.paths.length + 1}") := by
  constructor
  all_goals
    intro entry member same
    obtain ⟨name, here, unsorted⟩ := widened.names entry member
    cases here.symm.trans same
  · exact (unsorted _ (Nat.le_refl _)).1 rfl
  · exact (unsorted _ (Nat.le_refl _)).2 rfl

theorem Widened.binds (fits : row.length = table.columns.length) :
    scope.Binds (tableName base) table (table.record row) := by
  obtain ⟨rest, rfl⟩ := widened.front
  exact scope_binds table (tableName base) row rest fits

theorem Widened.stands (found : database.table? (tableName base) = some table) (wide : table.Wide)
    (member : row ∈ table.rows) {path : List String} {name : String} {type : EntityType}
    (holds : joined.Holds base path name type) : scope.Stands database name (tableName type)
      (recordAt schema database base (table.record row) path) := by
  rcases holds with ⟨rfl, rfl, rfl⟩ | joined
  · refine ⟨table, found, widened.binds (wide row member), .inl ?_⟩
    rw [records_of_table found]
    exact List.mem_map_of_mem member
  · exact widened.paths _ joined

theorem Widened.led {grown : Scope} {type target : EntityType} {relationship : Relationship}
    {followed : List String} (along : typeAlong schema base followed = some type)
    (found : findRelationship schema type relationship.name = .ok (relationship, target))
    (leads : Leads database type target relationship.storage s!"sort_{joined.paths.length + 1}"
      (recordAt schema database base (table.record row) followed) scope grown) (joins : List Join) :
    Widened schema database base table
      ⟨joins, joined.paths ++
        [⟨followed ++ [relationship.name], s!"sort_{joined.paths.length + 1}", target⟩]⟩
      row grown := by
  obtain ⟨grows, stands⟩ := leads
  rw [← recordAt_next along found] at stands
  refine ⟨?_, fun entry member => ?_, fun entry member => ?_⟩
  · obtain ⟨before, rfl⟩ := widened.front
    obtain ⟨rest, rfl, _⟩ := grows
    exact ⟨before ++ rest, List.append_assoc ..⟩
  · rcases List.mem_append.mp member with old | new
    · exact grows.stands (widened.paths entry old)
    · rw [List.mem_singleton.mp new]
      exact stands
  · obtain ⟨rest, rfl, named⟩ := grows
    rw [List.length_append, List.length_singleton]
    rcases List.mem_append.mp member with old | new
    · obtain ⟨name, here, unsorted⟩ := widened.names entry old
      exact ⟨name, here, unsorted.later (Nat.le_succ _)⟩
    · obtain ⟨name, among, here⟩ := named entry new
      simp only [List.mem_cons, List.not_mem_nil, or_false] at among
      rcases among with rfl | rfl
      · exact ⟨_, here, unsorted_link _⟩
      · exact ⟨_, here, unsorted_sort _⟩

end

variable (formed : schema.Formed) (distinct : schema.ColumnsDistinct) (shaped : Shaped schema database)
include formed distinct shaped

theorem KeepsEach.step {joined : OrderJoins} {scopes : List Scope}
    (keeps : KeepsEach schema database base table joined scopes) {type target : EntityType}
    {relationship : Relationship} (relates : schema.Relates type relationship target)
    (one : ∀ record ∈ database.records (tableName type),
      LinksOne database type target relationship.storage record)
    {name : String} {followed : List String} (along : typeAlong schema base followed = some type)
    (holds : joined.Holds base followed name type) :
    ∃ grown, KeepsEach schema database base table
      ⟨joined.joins ++ stepJoins type target relationship.storage name
          s!"sort_{joined.paths.length + 1}",
        joined.paths ++
          [⟨followed ++ [relationship.name], s!"sort_{joined.paths.length + 1}", target⟩]⟩ grown := by
  have found := relates.found formed
  have stored : List.Forall₂ (fun row scope => row ∈ table.rows ∧
      Widened schema database base table joined row scope) table.rows scopes :=
    (List.forall₂_and_left _ _).mpr ⟨fun _ member => member, keeps.rows⟩
  obtain ⟨grown, applied, led⟩ := stepJoins_apply shaped distinct relates found
    (fun row => recordAt schema database base (table.record row) followed) stored
    fun row scope ⟨member, widened⟩ =>
      ⟨widened.stands keeps.found keeps.wide member holds, by
        have inside : table.record row ∈ database.records (tableName base) := by
          rw [records_of_table keeps.found]
          exact List.mem_map_of_mem member
        rcases recordAt_stored inside along with stored | blank
        · exact one _ stored
        · rw [blank]
          exact linksOne_blank _, widened.lacks⟩
  refine ⟨grown, keeps.found, keeps.wide, ?_, led.imp fun row grown ⟨scope, ⟨_, widened⟩, leads⟩ =>
    widened.led along found leads _, fun entry member => ?_⟩
  · rw [scan_append]
    exact bind_of_ok keeps.scanned applied
  · rcases List.mem_append.mp member with old | new
    · exact keeps.typed entry old
    · rw [List.mem_singleton.mp new]
      exact typeAlong_next along found

theorem KeepsEach.follow {path : List String} {joined after : OrderJoins} {scopes : List Scope}
    (keeps : KeepsEach schema database base table joined scopes) {type last : EntityType}
    (leads : LeadsOne schema database type path) {name next : String} {followed : List String}
    (along : typeAlong schema base followed = some type)
    (holds : joined.Holds base followed name type)
    (run : followPath schema joined type name followed path = .ok (after, last, next)) :
    (∃ grown, KeepsEach schema database base table after grown) ∧
      after.Holds base (followed ++ path) next last ∧ joined.paths ⊆ after.paths := by
  induction leads generalizing joined scopes name followed with
  | done type =>
      cases run
      rw [List.append_nil]
      exact ⟨⟨scopes, keeps⟩, holds, List.Subset.refl _⟩
  | @step type target relationship rest relates toOne one later ih =>
      have found := relates.found formed
      have along' := typeAlong_next along found
      unfold followPath at run
      dsimp only at run
      rw [List.append_cons]
      split at run
      · rename_i entry listed
        have member := List.mem_of_find?_eq_some listed
        have same : entry.path = followed ++ [relationship.name] := by
          simpa using List.find?_some listed
        have typed := keeps.typed entry member
        rw [same] at typed
        obtain rfl : target = entry.type := Option.some.inj (along'.symm.trans typed)
        exact ih keeps along' (.inr (same ▸ member)) run
      · rw [found] at run
        obtain ⟨_, same, run⟩ := bind_ok run
        cases same
        dsimp only at run
        rw [toOne, if_neg Bool.false_ne_true] at run
        obtain ⟨grown, kept⟩ := keeps.step formed distinct shaped relates one along holds
        obtain ⟨widened, holds', more⟩ := ih kept along'
          (.inr (List.mem_append_right _ (List.mem_singleton_self _))) run
        exact ⟨widened, holds', List.Subset.trans (List.subset_append_left _ _) more⟩

def Sorts (base : EntityType) (joined : OrderJoins) (key : Sorting.OrderKey) (sort : SortColumn) : Prop :=
  sort.descending = key.descending ∧ ∃ table last, joined.Holds base key.path table last ∧
    (last.field? key.field).isSome ∧ sort.column = fieldColumn table key.field

/-- The joins of an order along relationships that lead to one keep each row once, with all that its keys ask for. -/
theorem KeepsEach.order {keys : List Sorting.OrderKey}
    (leads : ∀ key ∈ keys, LeadsOne schema database base key.path) {joined after : OrderJoins}
    {scopes : List Scope} (keeps : KeepsEach schema database base table joined scopes)
    {order : List SortColumn} (run : sortColumns schema base joined keys = .ok (after, order)) :
    (∃ grown, KeepsEach schema database base table after grown) ∧
      List.Forall₂ (Sorts base after) keys order ∧ joined.paths ⊆ after.paths := by
  induction keys generalizing joined scopes order with
  | nil =>
      cases run
      exact ⟨⟨scopes, keeps⟩, .nil, List.Subset.refl _⟩
  | cons key rest ih =>
      obtain ⟨⟨middle, last, name⟩, followed, run⟩ := bind_ok run
      obtain ⟨⟨grown, kept⟩, holds, more⟩ := keeps.follow formed distinct shaped
        (leads key List.mem_cons_self) rfl (.inl ⟨rfl, rfl, rfl⟩) followed
      dsimp only at run
      split at run
      · cases run
      · rename_i present
        obtain ⟨⟨later, others⟩, sorted, same⟩ := bind_ok run
        cases same
        obtain ⟨widened, aligned, more'⟩ :=
          ih (fun other member => leads other (List.mem_cons_of_mem _ member)) kept sorted
        refine ⟨widened, .cons ⟨rfl, name, last, holds.later more', ?_, rfl⟩ aligned,
          List.Subset.trans more more'⟩
        exact Option.isSome_iff_ne_none.mpr fun none => present (Option.isNone_iff_eq_none.mpr none)

end

/-- A database where every relationship that leads to one is kept so. -/
structure Tidy (schema : Schema) (database : Database) : Prop where
  formed : schema.Formed
  tables : schema.TablesDistinct
  columns : schema.ColumnsDistinct
  shaped : Shaped schema database
  sole : ∀ type relationship target, schema.LeadsToOne type relationship target →
    Sole schema type relationship target database

section

variable {schema : Schema} {database : Database} {base : EntityType}

theorem Sole.linksOne {type target : EntityType} {relationship : Relationship}
    (sole : Sole schema type relationship target database) (tables : schema.TablesDistinct)
    (one : schema.LeadsToOne type relationship target) :
    ∀ record ∈ database.records (tableName type),
      LinksOne database type target relationship.storage record := by
  intro record member
  obtain ⟨relates, _, targets, _⟩ := one
  have keys := sole.references.keys relates
  have owner := sole.typed.identities relates.known record member
  have identities := sole.housed.identities sole.typed tables relates.known' targets
  have identified := sole.typed.identities relates.known'
  have once := sole.once
  unfold KeysTyped at keys
  unfold OwnersOnce at once
  unfold LinksOne
  cases storage : relationship.storage with
  | ownerKey column =>
      rw [storage] at keys
      exact identities.few identified (keys record member)
  | targetKey column =>
      rw [storage] at keys once
      exact once.few keys owner
  | joinTable pairs ownerColumn targetColumn =>
      rw [storage] at keys once
      refine ⟨once.few (fun pair inside => (keys pair inside).1) owner, fun pair inside _ => ?_⟩
      exact identities.few identified (keys pair inside).2

theorem Tidy.leadsOne (tidy : Tidy schema database) {type : EntityType} {path : List String}
    (leads : schema.LeadsAlong type path) : LeadsOne schema database type path := by
  induction leads with
  | done type => exact .done type
  | step one _ later =>
      exact .step one.relates one.toOne ((tidy.sole _ _ _ one).linksOne tidy.tables one) later

theorem subperm_forall₂ {α β : Type} {relation : α → β → Prop} {items : List α} {values kept : List β}
    (all : List.Forall₂ relation items values) (among : kept.Subperm values) :
    ∃ chosen : List α, chosen.Subperm items ∧ List.Forall₂ relation chosen kept := by
  obtain ⟨ordered, permuted, sub⟩ := among
  have chosen : ∃ chosen : List α, chosen.Sublist items ∧ List.Forall₂ relation chosen ordered := by
    clear permuted
    induction sub generalizing items with
    | slnil => exact ⟨[], List.nil_sublist _, .nil⟩
    | cons value _ ih =>
        cases all with
        | @cons item _ _ _ _ rest =>
            obtain ⟨chosen, inside, related⟩ := ih rest
            exact ⟨chosen, inside.cons item, related⟩
    | cons_cons value _ ih =>
        cases all with
        | @cons item _ _ _ one rest =>
            obtain ⟨chosen, inside, related⟩ := ih rest
            exact ⟨item :: chosen, inside.cons_cons item, .cons one related⟩
  obtain ⟨chosen, inside, related⟩ := chosen
  obtain ⟨permuted', related', same⟩ := List.perm_comp_forall₂ permuted.symm related.flip
  exact ⟨permuted', same.subperm.trans inside.subperm, related'.flip⟩

/-- A query in an order along relationships that lead to one returns each stored resource once at most. -/
theorem ordered_query_keeps (tidy : Tidy schema database) (known : base ∈ schema.types)
    (unsorted : Unsorted (tableName base) 1) {query : Query}
    (leads : ∀ key ∈ query.ordering, schema.LeadsAlong base key.path) {connection after : Connection}
    (here : connection.database = database) {resources : List Instance}
    (run : execute (Mapping.query schema base query) connection = (.ok resources, after)) :
    ∃ records : List Record, records.Subperm (database.records (tableName base)) ∧
      records.mapM (readRecord base) = .ok resources := by
  subst here
  obtain ⟨select, reached, selected, run⟩ := execute_bind_ok run
  rw [execute_ofExcept] at selected
  obtain ⟨⟩ := congrArg Prod.snd selected
  have compiled : selectOf schema base query = .ok select := congrArg Prod.fst selected
  obtain ⟨rows, reached, listed, run⟩ := execute_bind_ok run
  rw [execute_ofExcept] at run
  have read : rows.mapM (readRow base) = .ok resources := congrArg Prod.fst run
  obtain ⟨filter, _, compiled⟩ := bind_ok compiled
  obtain ⟨⟨joins, order⟩, ordered, same⟩ := bind_ok compiled
  obtain ⟨⟨joined, order'⟩, sorted, same'⟩ := bind_ok ordered
  cases same'
  cases same
  have ran := execute_selectAll_ok listed
  obtain ⟨scopes, kept, scanned, among, _, projected⟩ :=
    run_kept (by unfold fieldColumns EntityType.fields; simp) ran
  obtain ⟨table, found, laid, wide⟩ := tidy.shaped.entities base known
  have alone : KeepsEach schema connection.database base table ⟨[], []⟩ _ :=
    keepsEach_alone found wide unsorted
  obtain ⟨⟨grown, keeps⟩, _⟩ := alone.order tidy.formed tidy.columns tidy.shaped
    (fun key member => tidy.leadsOne (leads key member)) sorted
  cases keeps.scanned.symm.trans scanned
  obtain ⟨chosen, stored, widened⟩ := subperm_forall₂
    ((List.forall₂_and_left _ _).mpr ⟨wide, keeps.rows⟩) among
  have fields : (chosen.map table.record).map (fieldRow base) = rows := by
    refine List.map_injective_iff.mpr (fun left right => Except.ok.inj) (.trans ?_ projected.symm)
    rw [← List.forall₂_eq_eq_eq, List.map_map, List.map_map, List.forall₂_map_left_iff,
      List.forall₂_map_right_iff]
    refine widened.imp fun row scope ⟨fits, widened⟩ => ?_
    have present : ∀ field ∈ base.fields, table.Has (columnName field.name) := fun field member =>
      ⟨_, field_column laid (tidy.columns base known) member, rfl⟩
    exact (project_fields (widened.binds fits) present []).symm
  refine ⟨chosen.map table.record, ?_, ?_⟩
  · rw [records_of_table found]
    obtain ⟨ordered, permuted, sub⟩ := stored
    exact ⟨ordered.map table.record, permuted.map _, sub.map _⟩
  · rw [← read, ← fields, List.mapM_map, List.map_map, List.mapM_map]
    rfl

end

end ResourceServer
