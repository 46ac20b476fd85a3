import ResourceServer.Proofs.Acceptance
import ResourceServer.Proofs.OrderKeys
import ResourceServer.Proofs.Scoping

/-! What predicates and orders compile to: all that is accepted compiles, and what comes of it names only columns
of the tables that a schema is laid out in. -/

namespace ResourceServer

open ResourceServer.Store ResourceServer.Mapping
open ResourceServer.Filter (Predicate)
open ResourceServer.Sorting (OrderKey SortKey SortRequest)

/-- A layout has the columns of all fields of a schema, and of all references to resources. -/
structure Store.Layout.Serves (layout : Layout) (schema : Schema) : Prop where
  fields : ∀ type ∈ schema.types, ∀ field ∈ type.fields,
    layout.Names (tableName type) (columnName field.name)
  keys : ∀ table column target, Refers schema table column target → layout.Names table column

theorem laid_serves {schema : Schema} {database : Database} (formed : schema.Formed)
    (laid : Laid schema database) (paired : Paired schema database) :
    Layout.Serves database.columns? schema := by
  constructor
  · intro type known field own
    obtain ⟨columns, found, columns_eq⟩ := laid.entities type known
    exact ⟨columns, found, field_named columns_eq own⟩
  · intro table column target refers
    cases refers with
    | @ownerKey type _ relationship _ known own storage leads =>
        obtain ⟨columns, found, columns_eq⟩ := laid.entities type known
        obtain ⟨_, _, _, reached, _⟩ := formed.target known own
        exact ⟨columns, found, ownerKey_column columns_eq own storage reached⟩
    | @targetKey type other relationship _ known own storage leads =>
        obtain ⟨columns, found, columns_eq⟩ := laid.entities other (List.mem_of_find?_eq_some leads)
        have named : other.name = relationship.target := by simpa using List.find?_some leads
        exact ⟨columns, found, targetKey_column columns_eq known own storage named.symm⟩
    | ownerPair known own storage =>
        obtain ⟨columns, found, owner, _⟩ := paired _ known _ own _ _ _ storage
        exact ⟨columns, found, owner⟩
    | targetPair known own storage leads =>
        obtain ⟨columns, found, _, target⟩ := paired _ known _ own _ _ _ storage
        exact ⟨columns, found, target⟩

section

variable {layout : Layout} {schema : Schema} {type target : EntityType} {relationship : Relationship}
  {offered : Set Column}

theorem Store.Layout.Serves.field (serves : layout.Serves schema) (known : type ∈ schema.types)
    {field : Field} (own : field ∈ type.fields) (rename : String) :
    fieldColumn rename field.name ∈ layout.under (tableName type) rename :=
  Layout.under_names (serves.fields type known field own)

theorem Store.Layout.Serves.identity (serves : layout.Serves schema) (known : type ∈ schema.types)
    (rename : String) : idColumn type rename ∈ layout.under (tableName type) rename :=
  serves.field known List.mem_cons_self rename

theorem Store.Layout.Serves.table (serves : layout.Serves schema) (known : type ∈ schema.types) :
    (layout (tableName type)).isSome :=
  (serves.fields type known type.identity List.mem_cons_self).known

theorem Store.Layout.Serves.key (serves : layout.Serves schema) {table column : String}
    (refers : Refers schema table column target) (rename : String) :
    Column.ofTable rename column ∈ layout.under table rename :=
  Layout.under_names (serves.keys table column target refers)

theorem Schema.Relates.target_known (relates : schema.Relates type relationship target) :
    target ∈ schema.types :=
  List.mem_of_find?_eq_some relates.leads

/-! Predicates. -/

theorem memberColumn_named (serves : layout.Serves schema) (known : type ∈ schema.types)
    {name field : String} {column : Column} (run : memberColumn type name field = .ok column) :
    column ∈ layout.under (tableName type) name := by
  unfold memberColumn at run
  split at run
  · cases run
  · rename_i present
    cases run
    obtain ⟨found, here⟩ := Option.ne_none_iff_exists'.mp fun none =>
      present (Option.isNone_iff_eq_none.mpr none)
    obtain ⟨own, rfl⟩ := field_known here
    exact serves.field known own name

theorem membership_closed {clauses : List Clause}
    (closed : ∀ clause ∈ clauses, clause.Closed layout offered) {column : Column}
    (member : column ∈ (clauses.filterMap equality?).map (·.1)) :
    (membership clauses column).Closed layout offered := by
  obtain ⟨⟨_, value⟩, inside, rfl⟩ := List.mem_map.mp member
  obtain ⟨clause, given, equal⟩ := mem_equalities.mp inside
  have one := closed clause given
  rw [equality_shape equal] at one
  refine .condition fun other among => ?_
  rw [List.mem_singleton.mp among]
  cases one with
  | condition named => exact named _ List.mem_cons_self

theorem anyClause_closed {clauses : List Clause}
    (closed : ∀ clause ∈ clauses, clause.Closed layout offered) :
    (anyClause clauses).Closed layout offered := by
  have each : ∀ clause ∈ mergeEqualities clauses, clause.Closed layout offered := by
    intro clause member
    rcases mem_mergeEqualities member with ⟨given, _⟩ | ⟨column, among, rfl⟩
    · exact closed clause given
    · exact membership_closed closed among
  unfold anyClause Clause.anyOf
  split
  · rename_i clause alone
    exact each clause (alone ▸ List.mem_cons_self)
  · exact .any each

theorem tie_closed (serves : layout.Serves schema) (relates : schema.Relates type relationship target)
    {name : String} (within : layout.under (tableName type) name ⊆ offered) (sub : String)
    (next : Nat) {tied : Tie} (made : tie type target relationship.storage name sub next = tied) :
    layout.JoinsClosed (layout.under (tableName target) sub) tied.joins ∧
      ∀ column ∈ tied.condition.mentions,
        column ∈ layout.joined (layout.under (tableName target) sub) tied.joins ∪ offered := by
  obtain ⟨known, own, leads⟩ := relates
  have known' : target ∈ schema.types := List.mem_of_find?_eq_some leads
  have ownerId := within (serves.identity known name)
  have targetId := serves.identity known' sub
  subst made
  cases storage : relationship.storage with
  | ownerKey column =>
      refine ⟨trivial, List.forall_mem_cons.mpr ⟨.inl targetId, List.forall_mem_singleton.mpr (.inr ?_)⟩⟩
      exact within (serves.key (.ownerKey known own storage leads) name)
  | targetKey column =>
      refine ⟨trivial, List.forall_mem_cons.mpr ⟨.inl ?_, List.forall_mem_singleton.mpr (.inr ownerId)⟩⟩
      exact serves.key (.targetKey known own storage leads) sub
  | joinTable pairs ownerColumn targetColumn =>
      have owner := serves.key (.ownerPair known own storage) s!"link_{next}"
      have other := serves.key (.targetPair known own storage leads) s!"link_{next}"
      refine ⟨⟨(serves.keys _ _ _ (.ownerPair known own storage)).known, .inr other, .inl targetId,
        trivial⟩, ?_⟩
      exact List.forall_mem_cons.mpr ⟨.inl (.inr owner), List.forall_mem_singleton.mpr (.inr ownerId)⟩

mutual

theorem clauseOf_closed (serves : layout.Serves schema) :
    ∀ (predicate : Predicate) {type : EntityType} (_ : type ∈ schema.types) {name : String}
      {next after : Nat} {offered : Set Column} {clause : Clause},
      layout.under (tableName type) name ⊆ offered →
      clauseOf schema type name next predicate = .ok (clause, after) → clause.Closed layout offered
  | .all predicates, type, known, name, next, after, offered, clause, within, run => by
      rw [clauseOf] at run
      obtain ⟨⟨clauses, last⟩, each, same⟩ := map_ok run
      cases same
      exact .all (clausesOf_closed serves predicates known within each)
  | .any predicates, type, known, name, next, after, offered, clause, within, run => by
      rw [clauseOf] at run
      obtain ⟨⟨clauses, last⟩, each, same⟩ := map_ok run
      cases same
      exact anyClause_closed (clausesOf_closed serves predicates known within each)
  | .not predicate, type, known, name, next, after, offered, clause, within, run => by
      rw [clauseOf] at run
      obtain ⟨⟨inner, last⟩, one, same⟩ := map_ok run
      cases same
      exact .not (clauseOf_closed serves predicate known within one)
  | .compare field comparison right, type, known, name, next, after, offered, clause, within, run => by
      rw [clauseOf] at run
      obtain ⟨column, first, run⟩ := bind_ok run
      have here := within (memberColumn_named serves known first)
      cases right with
      | value value =>
          cases run
          exact .condition (List.forall_mem_singleton.mpr here)
      | field other =>
          obtain ⟨operand, second, same⟩ := bind_ok run
          obtain ⟨column', found, rfl⟩ := map_ok second
          cases same
          exact .condition (List.forall_mem_cons.mpr ⟨here, List.forall_mem_singleton.mpr
            (within (memberColumn_named serves known found))⟩)
  | .oneOf field values, type, known, name, next, after, offered, clause, within, run => by
      rw [clauseOf] at run
      obtain ⟨column, found, same⟩ := bind_ok run
      cases same
      exact .condition (List.forall_mem_singleton.mpr (within (memberColumn_named serves known found)))
  | .like field pattern ignoreCase, type, known, name, next, after, offered, clause, within, run => by
      rw [clauseOf] at run
      obtain ⟨column, found, same⟩ := bind_ok run
      cases same
      exact .condition (List.forall_mem_singleton.mpr (within (memberColumn_named serves known found)))
  | .isNull field, type, known, name, next, after, offered, clause, within, run => by
      rw [clauseOf] at run
      obtain ⟨column, found, same⟩ := bind_ok run
      cases same
      exact .condition (List.forall_mem_singleton.mpr (within (memberColumn_named serves known found)))
  | .search field query plain, type, known, name, next, after, offered, clause, within, run => by
      rw [clauseOf] at run
      obtain ⟨column, found, same⟩ := bind_ok run
      cases same
      exact .condition (List.forall_mem_singleton.mpr (within (memberColumn_named serves known found)))
  | .related relation predicate, type, known, name, next, after, offered, clause, within, run => by
      rw [clauseOf] at run
      obtain ⟨⟨relationship, target⟩, reached, run⟩ := bind_ok run
      obtain ⟨⟨filter, last⟩, inner, same⟩ := bind_ok run
      cases same
      have relates := (findRelationship_relates known reached).1
      obtain ⟨joins, condition⟩ := tie_closed serves relates within s!"sub_{next}" (next + 1) rfl
      refine .existing (serves.table relates.target_known) joins (.all ?_)
      refine List.forall_mem_cons.mpr ⟨.condition condition, List.forall_mem_singleton.mpr ?_⟩
      exact clauseOf_closed serves predicate relates.target_known
        (fun _ member => .inl (Layout.offered_joined _ member)) inner

theorem clausesOf_closed (serves : layout.Serves schema) :
    ∀ (predicates : List Predicate) {type : EntityType} (_ : type ∈ schema.types) {name : String}
      {next after : Nat} {offered : Set Column} {clauses : List Clause},
      layout.under (tableName type) name ⊆ offered →
      clausesOf schema type name next predicates = .ok (clauses, after) →
        ∀ clause ∈ clauses, clause.Closed layout offered
  | [], type, known, name, next, after, offered, clauses, within, run => by
      rw [clausesOf] at run
      cases run
      nofun
  | predicate :: rest, type, known, name, next, after, offered, clauses, within, run => by
      rw [clausesOf] at run
      obtain ⟨⟨first, middle⟩, one, run⟩ := bind_ok run
      obtain ⟨⟨others, last⟩, each, same⟩ := bind_ok run
      cases same
      exact List.forall_mem_cons.mpr ⟨clauseOf_closed serves predicate known within one,
        clausesOf_closed serves rest known within each⟩

end

theorem filterClause_closed (serves : layout.Serves schema) (known : type ∈ schema.types)
    {predicate : Predicate} {clause : Clause} (run : filterClause schema type predicate = .ok clause) :
    clause.Closed layout (layout.under (tableName type) (tableName type)) := by
  obtain ⟨⟨_, last⟩, compiled, rfl⟩ := map_ok run
  exact clauseOf_closed serves predicate known subset_rfl compiled

/-! Orders. -/

/-- The joins of an order are closed, and offer the columns of all that their paths lead to. -/
structure Mapping.OrderJoins.Closed (layout : Layout) (schema : Schema) (base : EntityType)
    (joined : OrderJoins) : Prop where
  joins : layout.JoinsClosed (layout.under (tableName base) (tableName base)) joined.joins
  paths : ∀ entry ∈ joined.paths, entry.type ∈ schema.types ∧
    layout.under (tableName entry.type) entry.table ⊆
      layout.joined (layout.under (tableName base) (tableName base)) joined.joins

theorem stepJoins_closed (serves : layout.Serves schema)
    (relates : schema.Relates type relationship target) {name : String}
    (within : layout.under (tableName type) name ⊆ offered) (next : String) :
    layout.JoinsClosed offered (stepJoins type target relationship.storage name next) ∧
      layout.under (tableName target) next ⊆
        layout.joined offered (stepJoins type target relationship.storage name next) := by
  obtain ⟨known, own, leads⟩ := relates
  have known' : target ∈ schema.types := List.mem_of_find?_eq_some leads
  have ownerId := within (serves.identity known name)
  have targetId := serves.identity known' next
  have present := serves.table known'
  cases storage : relationship.storage with
  | ownerKey column =>
      have key := within (serves.key (.ownerKey known own storage leads) name)
      exact ⟨⟨present, .inr targetId, .inl key, trivial⟩, fun _ member => .inr member⟩
  | targetKey column =>
      have key := serves.key (.targetKey known own storage leads) next
      exact ⟨⟨present, .inr key, .inl ownerId, trivial⟩, fun _ member => .inr member⟩
  | joinTable pairs ownerColumn targetColumn =>
      have owner := serves.key (.ownerPair known own storage) (next ++ "_link")
      have other := serves.key (.targetPair known own storage leads) (next ++ "_link")
      exact ⟨⟨(serves.keys _ _ _ (.ownerPair known own storage)).known, .inr owner, .inl ownerId,
        present, .inr targetId, .inl (.inr other), trivial⟩, fun _ member => .inr member⟩

theorem followPath_closed (serves : layout.Serves schema) {base : EntityType} {path : List String}
    {joined after : OrderJoins} {last : EntityType} {name final : String} {followed : List String}
    (closed : joined.Closed layout schema base) (known : type ∈ schema.types)
    (within : layout.under (tableName type) name ⊆
      layout.joined (layout.under (tableName base) (tableName base)) joined.joins)
    (run : followPath schema joined type name followed path = .ok (after, last, final)) :
    after.Closed layout schema base ∧ last ∈ schema.types ∧
      (∃ more, after.joins = joined.joins ++ more) ∧
      layout.under (tableName last) final ⊆
        layout.joined (layout.under (tableName base) (tableName base)) after.joins := by
  induction path generalizing joined type name followed with
  | nil =>
      cases run
      exact ⟨closed, known, ⟨[], (List.append_nil _).symm⟩, within⟩
  | cons step rest ih =>
      unfold followPath at run
      dsimp only at run
      split at run
      · rename_i entry listed
        obtain ⟨known', within'⟩ := closed.paths entry (List.mem_of_find?_eq_some listed)
        exact ih closed known' within' run
      · obtain ⟨⟨relationship, target⟩, found, run⟩ := bind_ok run
        dsimp only at run
        split at run
        · cases run
        · have relates := (findRelationship_relates known found).1
          obtain ⟨joins, reached⟩ :=
            stepJoins_closed serves relates within s!"sort_{joined.paths.length + 1}"
          have closed' : OrderJoins.Closed layout schema base
              ⟨joined.joins ++ stepJoins type target relationship.storage name
                s!"sort_{joined.paths.length + 1}",
                joined.paths ++ [⟨followed ++ [step], s!"sort_{joined.paths.length + 1}", target⟩]⟩ := by
            refine ⟨Layout.joinsClosed_append.mpr ⟨closed.joins, joins⟩, fun entry member => ?_⟩
            rw [Layout.joined_append]
            rcases List.mem_append.mp member with before | new
            · obtain ⟨known', within'⟩ := closed.paths entry before
              exact ⟨known', within'.trans (Layout.offered_joined _)⟩
            · rw [List.mem_singleton.mp new]
              exact ⟨relates.target_known, reached⟩
          obtain ⟨last_closed, known', ⟨more, same⟩, within'⟩ := ih closed' relates.target_known
            (by rw [Layout.joined_append]; exact reached) run
          exact ⟨last_closed, known', ⟨_, same.trans (List.append_assoc _ _ _)⟩, within'⟩

theorem sortColumns_closed (serves : layout.Serves schema) (known : type ∈ schema.types)
    {keys : List OrderKey} {joined after : OrderJoins} {order : List SortColumn}
    (closed : joined.Closed layout schema type)
    (run : sortColumns schema type joined keys = .ok (after, order)) :
    after.Closed layout schema type ∧ (∃ more, after.joins = joined.joins ++ more) ∧
      ∀ sort ∈ order, sort.column ∈
        layout.joined (layout.under (tableName type) (tableName type)) after.joins := by
  induction keys generalizing joined order with
  | nil =>
      cases run
      exact ⟨closed, ⟨[], (List.append_nil _).symm⟩, nofun⟩
  | cons key rest ih =>
      obtain ⟨⟨middle, last, name⟩, followed, run⟩ := bind_ok run
      dsimp only at run
      split at run
      · cases run
      · rename_i present
        obtain ⟨⟨later, others⟩, sorted, same⟩ := bind_ok run
        cases same
        obtain ⟨closed', known', ⟨more, first⟩, within⟩ :=
          followPath_closed serves closed known (Layout.offered_joined _) followed
        obtain ⟨closed'', ⟨more', second⟩, offered⟩ := ih closed' sorted
        obtain ⟨field, found⟩ := Option.ne_none_iff_exists'.mp fun none =>
          present (Option.isNone_iff_eq_none.mpr none)
        obtain ⟨own, named⟩ := field_known found
        refine ⟨closed'', ⟨more ++ more', by rw [second, first, List.append_assoc]⟩,
          List.forall_mem_cons.mpr ⟨?_, offered⟩⟩
        rw [second, Layout.joined_append]
        exact Layout.offered_joined _ (within (named ▸ serves.field known' own name))

theorem orderClauses_closed (serves : layout.Serves schema) (known : type ∈ schema.types)
    {ordering : List OrderKey} {joins : List Join} {order : List SortColumn}
    (run : orderClauses schema type ordering = .ok (joins, order)) :
    layout.JoinsClosed (layout.under (tableName type) (tableName type)) joins ∧
      ∀ sort ∈ order, sort.column ∈
        layout.joined (layout.under (tableName type) (tableName type)) joins := by
  obtain ⟨⟨joined, _⟩, sorted, same⟩ := bind_ok run
  cases same
  have start : OrderJoins.Closed layout schema type ⟨[], []⟩ := ⟨trivial, nofun⟩
  obtain ⟨closed, _, offered⟩ := sortColumns_closed serves known start sorted
  exact ⟨closed.joins, offered⟩

/-! Whole queries. -/

theorem fieldColumns_named (serves : layout.Serves schema) (known : type ∈ schema.types)
    {name : String} {column : Column} (member : .column column ∈ fieldColumns type name) :
    column ∈ layout.under (tableName type) name := by
  obtain ⟨field, own, same⟩ := List.mem_map.mp member
  cases same
  exact serves.field known own name

theorem selectOf_closed (serves : layout.Serves schema) (known : type ∈ schema.types)
    {query : Query} {select : Select} (run : selectOf schema type query = .ok select) :
    select.Closed layout := by
  obtain ⟨filter, compiled, run⟩ := bind_ok run
  obtain ⟨⟨joins, order⟩, ordered, same⟩ := bind_ok run
  cases same
  obtain ⟨closed, sorted⟩ := orderClauses_closed serves known ordered
  refine ⟨serves.table known, closed, List.forall_mem_singleton.mpr ?_, sorted,
    fun column member => ?_⟩
  · exact (filterClause_closed serves known compiled).mono (Layout.offered_joined _)
  · exact Layout.offered_joined _ (fieldColumns_named serves known member)

/-! What is accepted compiles. -/

theorem clauses_compiled {predicates : List Predicate}
    (each : ∀ predicate ∈ predicates, ∀ name next,
      ∃ result, clauseOf schema type name next predicate = .ok result) (name : String) (next : Nat) :
    ∃ result, clausesOf schema type name next predicates = .ok result := by
  induction predicates generalizing next with
  | nil => exact ⟨([], next), rfl⟩
  | cons predicate rest ih =>
      obtain ⟨first, others⟩ := List.forall_mem_cons.mp each
      obtain ⟨⟨clause, middle⟩, one⟩ := first name next
      obtain ⟨⟨clauses, after⟩, all⟩ := ih others middle
      refine ⟨(clause :: clauses, after), ?_⟩
      rw [clausesOf]
      exact bind_of_ok one (bind_of_ok all rfl)

theorem accepted_compiled {predicate : Predicate} (accepted : predicate.Accepted schema type)
    (name : String) (next : Nat) : ∃ result, clauseOf schema type name next predicate = .ok result := by
  induction accepted generalizing name next with
  | all _ ih =>
      obtain ⟨result, compiled⟩ := clauses_compiled ih name next
      exact ⟨_, by rw [clauseOf, compiled]; rfl⟩
  | any _ ih =>
      obtain ⟨result, compiled⟩ := clauses_compiled ih name next
      exact ⟨_, by rw [clauseOf, compiled]; rfl⟩
  | not _ ih =>
      obtain ⟨result, compiled⟩ := ih name next
      exact ⟨_, by rw [clauseOf, compiled]; rfl⟩
  | compareValue comparison value known => exact ⟨_, by rw [clauseOf, memberColumn_ok known]; rfl⟩
  | @compareField type field other _ _ comparison known known' =>
      refine ⟨(.condition (.compare (fieldColumn name field) comparison.symbol
        (.column (fieldColumn name other))), next), ?_⟩
      rw [clauseOf]
      exact bind_of_ok (memberColumn_ok known name) (bind_of_ok
        (congrArg (Except.map Operand.column) (memberColumn_ok known' name)) rfl)
  | oneOf values known => exact ⟨_, by rw [clauseOf, memberColumn_ok known]; rfl⟩
  | like pattern ignoreCase known => exact ⟨_, by rw [clauseOf, memberColumn_ok known]; rfl⟩
  | isNull known => exact ⟨_, by rw [clauseOf, memberColumn_ok known]; rfl⟩
  | search query plain known => exact ⟨_, by rw [clauseOf, memberColumn_ok known]; rfl⟩
  | @related type target _ relationship _ found _ ih =>
      let tied := tie type target relationship.storage name s!"sub_{next}" (next + 1)
      obtain ⟨⟨filter, after⟩, compiled⟩ := ih s!"sub_{next}" tied.next
      refine ⟨(.existing (tableName target) s!"sub_{next}" tied.joins
        (.allOf [.condition tied.condition, filter]), after), ?_⟩
      rw [clauseOf]
      exact bind_of_ok found (bind_of_ok compiled rfl)

def Sorting.OrderKey.Followed (schema : Schema) (type : EntityType) (key : OrderKey) : Prop :=
  ∃ last, Sorting.follow schema type key.path = .ok last ∧ (last.field? key.field).isSome

theorem resolve_followed (named : schema.KeysNamed) (known : type ∈ schema.types)
    {request : SortRequest} {ordering : List OrderKey}
    (run : Sorting.resolve schema type request = .ok ordering) :
    ∀ key ∈ ordering, key.Followed schema type := by
  intro key member
  cases request with
  | byPrimaryKey =>
      cases run
      obtain ⟨name, inside, rfl⟩ := List.mem_map.mp member
      obtain ⟨field, own, rfl⟩ := named type known name inside
      exact ⟨type, rfl, List.find?_isSome.mpr ⟨field, own, decide_eq_true rfl⟩⟩
  | unsorted =>
      cases run
      cases member
  | byKeys keys =>
      obtain ⟨asked, _, read⟩ := mem_of_forall₂ (mapM_forall₂ run).flip member
      unfold Sorting.resolveKey at read
      split at read
      · cases read
      · obtain ⟨last, followed, read⟩ := bind_ok read
        split at read
        · cases read
        · rename_i present
          cases read
          exact ⟨last, followed, Option.isSome_iff_ne_none.mpr fun none =>
            present (Option.isNone_iff_eq_none.mpr none)⟩

def Mapping.OrderJoins.Typed (schema : Schema) (base : EntityType) (joined : OrderJoins) : Prop :=
  ∀ entry ∈ joined.paths, typeAlong schema base entry.path = some entry.type

theorem followPath_succeeds {base last : EntityType} {path followed : List String} {joined : OrderJoins}
    {name : String} (typed : joined.Typed schema base)
    (along : typeAlong schema base followed = some type)
    (follows : Sorting.follow schema type path = .ok last) :
    ∃ after final, followPath schema joined type name followed path = .ok (after, last, final) ∧
      after.Typed schema base := by
  induction path generalizing joined type name followed with
  | nil =>
      cases follows
      exact ⟨joined, name, rfl, typed⟩
  | cons step rest ih =>
      unfold Sorting.follow at follows
      split at follows
      · cases follows
      · rename_i relationship named
        split at follows
        · cases follows
        · rename_i toOne
          split at follows
          · cases follows
          · rename_i target leads
            obtain rfl := relationship?_name named
            have found : findRelationship schema type relationship.name = .ok (relationship, target) := by
              simp only [findRelationship, named, findType, leads, Except.map]
            have along' := typeAlong_next along found
            unfold followPath
            dsimp only
            split
            · rename_i entry listed
              have same : entry.path = followed ++ [relationship.name] := by
                simpa using List.find?_some listed
              have there := typed entry (List.mem_of_find?_eq_some listed)
              rw [same, along'] at there
              cases there
              exact ih typed along' follows
            · rw [found]
              simp only [bind, Except.bind, if_neg toOne]
              refine ih (fun entry member => ?_) along' follows
              rcases List.mem_append.mp member with before | new
              · exact typed entry before
              · rw [List.mem_singleton.mp new]
                exact along'

theorem sortColumns_succeeds {keys : List OrderKey} {joined : OrderJoins}
    (followed : ∀ key ∈ keys, key.Followed schema type) (typed : joined.Typed schema type) :
    ∃ result, sortColumns schema type joined keys = .ok result := by
  induction keys generalizing joined with
  | nil => exact ⟨_, rfl⟩
  | cons key rest ih =>
      obtain ⟨⟨last, follows, present⟩, others⟩ := List.forall_mem_cons.mp followed
      have along : typeAlong schema type [] = some type := rfl
      obtain ⟨after, name, one, typed'⟩ := followPath_succeeds typed along follows
      obtain ⟨⟨later, order⟩, all⟩ := ih others typed'
      refine ⟨(later, ⟨fieldColumn name key.field, key.descending⟩ :: order), ?_⟩
      unfold sortColumns
      rw [one]
      have absent : ¬(last.field? key.field).isNone = true := by
        rw [Option.isNone_iff_eq_none]
        exact Option.isSome_iff_ne_none.mp present
      simp only [bind, Except.bind, if_neg absent, all]

end

end ResourceServer
