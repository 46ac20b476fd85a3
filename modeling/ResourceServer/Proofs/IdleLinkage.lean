import ResourceServer.Proofs.StoredFields
import ResourceServer.Proofs.TieRequests
import ResourceServer.Proofs.ToManyRequests

/-! Changes after which the same links are held leave everything that can be read: the tables of types hold the same
records, and the tables of pairs the same pairs. -/

namespace ResourceServer

open ResourceServer.Store ResourceServer.Mapping ResourceServer.Relinking ResourceServer.Api

/-- Nothing that can be read is different between two databases. -/
structure Unaltered (schema : Schema) (before after : Database) : Prop where
  housed : Housed schema after
  records : ∀ type ∈ schema.types, after.records (tableName type) = before.records (tableName type)
  keys : ∀ {type target : EntityType} {relationship : Relationship},
    schema.Relates type relationship target → KeysTyped after type target relationship.storage
  links : ∀ {type target : EntityType} {relationship : Relationship},
    schema.Relates type relationship target → ∀ owner other, owner ≠ .null → other ≠ .null →
      (Holds after type target relationship.storage owner other ↔
        Holds before type target relationship.storage owner other)

def Storage.table (type target : EntityType) : Storage → String
  | .ownerKey _ => tableName type
  | .targetKey _ => tableName target
  | .joinTable pairs _ _ => pairs

section

variable {schema : Schema} {before middle after : Database} {type target : EntityType}
  {relationship : Relationship}

theorem holds_same {storage : Storage}
    (same : after.records (storage.table type target) = before.records (storage.table type target)) :
    (KeysTyped after type target storage ↔ KeysTyped before type target storage) ∧
      ∀ owner other, Holds after type target storage owner other ↔
        Holds before type target storage owner other := by
  cases storage <;>
    (simp only [Storage.table] at same
     exact ⟨by rw [KeysTyped, KeysTyped, same], fun _ _ => by rw [Holds, Holds, same]⟩)

theorem Unaltered.of_records (housed : Housed schema after)
    (keys : ∀ {type target : EntityType} {relationship : Relationship},
      schema.Relates type relationship target → KeysTyped before type target relationship.storage)
    (same : ∀ name, after.records name = before.records name) : Unaltered schema before after where
  housed := housed
  records _ _ := same _
  keys relates := (holds_same (same _)).1.mpr (keys relates)
  links _ owner other _ _ := (holds_same (same _)).2 owner other

theorem Unaltered.trans (first : Unaltered schema before middle)
    (second : Unaltered schema middle after) : Unaltered schema before after where
  housed := second.housed
  records type known := (second.records type known).trans (first.records type known)
  keys := second.keys
  links relates owner other given given' :=
    (second.links relates owner other given given').trans (first.links relates owner other given given')

theorem Unaltered.stocked (unaltered : Unaltered schema before after)
    (stocked : Stocked schema before) : Stocked schema after where
  housed := unaltered.housed
  typed type known := (unaltered.records type known).symm ▸ stocked.typed type known
  identified type known := (unaltered.records type known).symm ▸ stocked.identified type known
  distinct type known := (unaltered.records type known).symm ▸ stocked.distinct type known

theorem records_of_held {records others : List Record} {id column : String} (apart : id ≠ column)
    (alike : List.Forall₂ (fun old new : Record => ∀ other, other ≠ column → new other = old other)
      records others)
    (distinct : (records.map fun record => record id).Nodup) (given : ∀ record ∈ records, record id ≠ .null)
    (held : ∀ one other, one ≠ .null → other ≠ .null →
      (HeldIn others id column one other ↔ HeldIn records id column one other)) :
    others = records := by
  have distinct' : (others.map fun record => record id).Nodup := by
    rw [forall₂_map_eq alike fun old new same => same id apart]
    exact distinct
  obtain ⟨length, each⟩ := List.forall₂_iff_zip.mp alike
  refine Eq.symm (List.forall₂_eq_eq_eq ▸ List.forall₂_iff_zip.mpr ⟨length, fun {old new} paired => ?_⟩)
  have same := each paired
  obtain ⟨member, member'⟩ := List.of_mem_zip paired
  have identity : new id = old id := same id apart
  funext other
  by_cases here : other = column
  · subst here
    by_cases empty : new other = .null
    · by_contra differs
      have filled : old other ≠ .null := fun none => differs (none.trans empty.symm)
      obtain ⟨record, inside, named, holds⟩ :=
        (held _ _ (given old member) filled).mpr ⟨old, member, rfl, rfl⟩
      obtain rfl := List.inj_on_of_nodup_map distinct' inside member' (named.trans identity.symm)
      exact differs holds.symm
    · obtain ⟨record, inside, named, holds⟩ :=
        (held _ _ (identity ▸ given old member) empty).mp ⟨new, member', rfl, rfl⟩
      obtain rfl := List.inj_on_of_nodup_map distinct inside member (named.trans identity)
      exact holds
  · exact (same other here).symm

theorem Changed.records_same (linkable : Linkable schema before type relationship target)
    {links : Cell → Cell → Prop}
    (changed : Changed schema type target relationship.storage before after links)
    (same : ∀ owner other, owner ≠ .null → other ≠ .null →
      (links owner other ↔ Holds before type target relationship.storage owner other))
    {name : String} (outside : relationship.storage.place type target ≠ .pairs name) :
    after.records name = before.records name := by
  have ⟨separate, stocked, relates, _⟩ := linkable
  have alike := changed.refilled.confined name outside
  have held := fun owner other given given' =>
    (changed.holds owner other given given').trans (same owner other given given')
  by_cases here : ∃ column, relationship.storage.place type target = .column name column
  · obtain ⟨column, here⟩ := here
    rw [here] at alike
    have others := alike.imp fun old new (same : AlikeBut _ _ _ _) other (apart : other ≠ column) =>
      same other fun place => apart (Place.column.inj place).2.symm
    cases storage : relationship.storage with
    | ownerKey key =>
        rw [storage] at here held
        cases here
        exact records_of_held (ownerKey_place stocked.housed separate relates storage).apart others
          (stocked.distinct type relates.known) (stocked.identified type relates.known) held
    | targetKey key =>
        rw [storage] at here held
        cases here
        exact records_of_held (targetKey_place stocked.housed separate relates storage).apart others
          (stocked.distinct target relates.known') (stocked.identified target relates.known')
          fun one other given given' => held other one given' given
    | joinTable _ _ _ =>
        rw [storage] at here
        cases here
  · refine Eq.symm (List.forall₂_eq_eq_eq ▸ alike.imp fun old new same => ?_)
    funext column
    exact (same column fun place => here ⟨column, place⟩).symm

theorem Changed.unaltered (linkable : Linkable schema before type relationship target)
    (agree : schema.KeysAgree)
    (keys : ∀ {type target : EntityType} {relationship : Relationship},
      schema.Relates type relationship target → KeysTyped before type target relationship.storage)
    {links : Cell → Cell → Prop}
    (changed : Changed schema type target relationship.storage before after links)
    (same : ∀ owner other, owner ≠ .null → other ≠ .null →
      (links owner other ↔ Holds before type target relationship.storage owner other)) :
    Unaltered schema before after := by
  have ⟨separate, _, relates, _⟩ := linkable
  have kept {name : String} (outside : relationship.storage.place type target ≠ .pairs name) :
      after.records name = before.records name := changed.records_same linkable same outside
  have both {type' target' : EntityType} {relationship' : Relationship}
      (relates' : schema.Relates type' relationship' target') :
      KeysTyped after type' target' relationship'.storage ∧
        ∀ owner other, owner ≠ .null → other ≠ .null →
          (Holds after type' target' relationship'.storage owner other ↔
            Holds before type' target' relationship'.storage owner other) := by
    by_cases elsewhere : relationship.storage.place type target ≠
        .pairs (relationship'.storage.table type' target')
    · have alike := holds_same (kept elsewhere)
      exact ⟨alike.1.mpr (keys relates'), fun owner other _ _ => alike.2 owner other⟩
    · rw [not_not] at elsewhere
      have free {holder : EntityType} (known : holder ∈ schema.types) :=
        (place_free separate relates known).1
      cases storage' : relationship'.storage with
      | ownerKey _ =>
          rw [storage'] at elsewhere
          exact absurd elsewhere (free relates'.known)
      | targetKey _ =>
          rw [storage'] at elsewhere
          exact absurd elsewhere (free relates'.known')
      | joinTable pairs ownerColumn' targetColumn' =>
          rw [storage', Storage.table] at elsewhere
          have alike := changed.keys
          have held := fun owner other given given' =>
            (changed.holds owner other given given').trans (same owner other given given')
          obtain ⟨ownerColumn, targetColumn, storage⟩ := pairs_place elsewhere
          rw [storage] at alike held
          have ⟨known, own, leads⟩ := relates
          have ⟨known', own', leads'⟩ := relates'
          -- The columns are the same or the other way round, and so are the types that they refer to.
          rcases separate.shared type known relationship own type' known' relationship' own' _ _ _ _ _
            storage storage' with ⟨rfl, rfl⟩ | ⟨rfl, rfl⟩
          · obtain rfl := agree _ _ _ _ (.ownerPair known own storage) (.ownerPair known' own' storage')
            obtain rfl := agree _ _ _ _ (.targetPair known own storage leads)
              (.targetPair known' own' storage' leads')
            exact ⟨alike, held⟩
          · obtain rfl := agree _ _ _ _ (.ownerPair known own storage)
              (.targetPair known' own' storage' leads')
            obtain rfl := agree _ _ _ _ (.targetPair known own storage leads)
              (.ownerPair known' own' storage')
            refine ⟨fun pair member => (alike pair member).symm, fun owner other given given' => ?_⟩
            unfold Holds at held ⊢
            simpa only [and_comm] using held other owner given' given
  exact ⟨changed.refilled.housed, fun type' known => kept (place_free separate relates known).1,
    fun relates' => (both relates').1, fun relates' => (both relates').2⟩

end

/-! Replacing links by themselves succeeds, and leaves everything that can be read. -/

/-- Resources in stock with links of their types, which are to resources in stock. -/
structure Coherent (schema : Schema) (database : Database) : Prop where
  stocked : Stocked schema database
  keys : ∀ {type target : EntityType} {relationship : Relationship},
    schema.Relates type relationship target → KeysTyped database type target relationship.storage
  present : ∀ {type target : EntityType} {relationship : Relationship},
    schema.Relates type relationship target → ∀ owner other, owner ≠ .null → other ≠ .null →
      Holds database type target relationship.storage owner other →
        ∃ record ∈ database.records (tableName target), record (idName target) = other

section

variable {schema : Schema} {before after database : Database} {type target : EntityType}
  {relationship : Relationship}

theorem Unaltered.coherent (unaltered : Unaltered schema before after) (coherent : Coherent schema before) :
    Coherent schema after where
  stocked := unaltered.stocked coherent.stocked
  keys := unaltered.keys
  present {_ target _} relates owner other given given' held := by
    rw [unaltered.records target relates.known']
    exact coherent.present relates owner other given given'
      ((unaltered.links relates owner other given given').mp held)

theorem Coherent.linkable (coherent : Coherent schema database) (separate : schema.Separate)
    (relates : schema.Relates type relationship target) :
    Linkable schema database type relationship target :=
  ⟨separate, coherent.stocked, relates, coherent.keys relates⟩

theorem Unaltered.isStored (unaltered : Unaltered schema before after) (known : type ∈ schema.types)
    {id : String} : IsStored after type id ↔ IsStored before type id := by
  unfold IsStored
  rw [unaltered.records type known]

theorem Unaltered.loads (separate : schema.Separate) {connection next : Connection}
    (unaltered : Unaltered schema connection.database next.database)
    (coherent : Coherent schema connection.database) (relates : schema.Relates type relationship target)
    {owner : String} (stored : IsStored connection.database type owner) (id : String) :
    Loads schema type relationship next owner id ↔ Loads schema type relationship connection owner id := by
  obtain ⟨record, inside, named⟩ :=
    (coherent.stocked.isStored_iff separate relates.known).mp stored
  have linkable' := (unaltered.coherent coherent).linkable separate relates
  rw [(loads_iff (coherent.linkable separate relates) named).2 id, (loads_iff linkable' named).2 id,
    unaltered.records target relates.known']
  refine exists_congr fun other => and_congr_right fun member => and_congr_right fun named' => ?_
  exact unaltered.links relates _ _ named.given named'.given

def Linkage.isToMany : Linkage → Bool
  | .toOne _ => false
  | .toMany _ => true

/-- Linkage of a relationship that names the targets that are loaded for an owner. -/
structure ShowsLinks (schema : Schema) (type : EntityType) (relationship : Relationship)
    (connection : Connection) (owner : String) (linkage : Linkage) : Prop where
  kind : linkage.isToMany = relationship.isToMany
  types : ∀ target ∈ linkage.identifiers, target.type = relationship.target
  loads : ∀ id, Loads schema type relationship connection owner id ↔
    id ∈ linkage.identifiers.map Identifier.id

variable {connection : Connection}

theorem ShowsLinks.unaltered {next : Connection} {owner : String} {linkage : Linkage}
    (shows : ShowsLinks schema type relationship connection owner linkage) (separate : schema.Separate)
    (unaltered : Unaltered schema connection.database next.database)
    (coherent : Coherent schema connection.database) (relates : schema.Relates type relationship target)
    (stored : IsStored connection.database type owner) :
    ShowsLinks schema type relationship next owner linkage :=
  ⟨shows.kind, shows.types, fun id =>
    (unaltered.loads separate coherent relates stored id).trans (shows.loads id)⟩

theorem held_of_loaded (separate : schema.Separate) (coherent : Coherent schema connection.database)
    (relates : schema.Relates type relationship target) {owner : String} {cell : Cell}
    (named : type.Names owner cell) {chosen : Option String}
    (loads : ∀ id, Loads schema type relationship connection owner id ↔ id ∈ chosen) :
    ∃ value : Option Cell, Option.Rel target.Names chosen value ∧
      (∀ id ∈ value, ∃ record ∈ connection.database.records (tableName target),
        record (idName target) = id) ∧
      ∀ other, other ≠ .null → (Holds connection.database type target relationship.storage cell other ↔
        other ∈ value) := by
  have linkable := coherent.linkable separate relates
  have loaded := (loads_iff linkable named).2
  -- What is held is stored, so it is named by a text that is loaded.
  have shown {other : Cell} (given : other ≠ .null)
      (held : Holds connection.database type target relationship.storage cell other) :
      ∃ id ∈ chosen, target.Names id other := by
    obtain ⟨record, inside, rfl⟩ := coherent.present relates cell other named.given given held
    obtain ⟨resource, read⟩ := coherent.stocked.readable relates.known' inside
    have text := coherent.stocked.names separate relates.known' inside read
    exact ⟨_, (loads _).mp ((loaded _).mpr ⟨record, inside, text, held⟩), text⟩
  cases chosen with
  | none =>
      refine ⟨none, .none, fun _ => (absurd · (Option.not_mem_none _)), fun other given => ?_⟩
      refine iff_of_false (fun held => ?_) (Option.not_mem_none _)
      obtain ⟨_, none, _⟩ := shown given held
      cases none
  | some id =>
      obtain ⟨record, inside, text, held⟩ := (loaded id).mp ((loads id).mpr rfl)
      refine ⟨some (record (idName target)), .some text, ?_, fun other given => ⟨fun held' => ?_, ?_⟩⟩
      · rintro _ ⟨⟩
        exact ⟨record, inside, rfl⟩
      · obtain ⟨_, chosen, text'⟩ := shown given held'
        cases chosen
        exact congrArg some (text.cell_eq text')
      · rintro ⟨⟩
        exact held

theorem setToOne_idle (separate : schema.Separate) (agree : schema.KeysAgree)
    (coherent : Coherent schema connection.database) (relates : schema.Relates type relationship target)
    (toOne : relationship.isToMany = false) {owner : String}
    (stored : IsStored connection.database type owner) {chosen : Option String}
    (loads : ∀ id, Loads schema type relationship connection owner id ↔ id ∈ chosen) :
    ∃ after, execute (setToOne schema type relationship owner chosen) connection = (.ok (), after) ∧
      Unaltered schema connection.database after.database := by
  have linkable := coherent.linkable separate relates
  obtain ⟨record, inside, named⟩ :=
    (coherent.stocked.isStored_iff separate relates.known).mp stored
  obtain ⟨value, names, presents, held⟩ := held_of_loaded separate coherent relates named loads
  obtain ⟨after, done, changed⟩ :=
    setToOne_done linkable toOne named ⟨record, inside, rfl⟩ names presents
  refine ⟨after, done, changed.unaltered linkable agree coherent.keys fun other id given given' => ?_⟩
  unfold LinkChange.links
  by_cases same : other = record (idName type)
  · subst same
    simp [held id given']
  · have alone (linked : Holds connection.database type target relationship.storage other id) :
        ¬(relationship.storage.Single ∧ id ∈ value) := fun ⟨single, chosen⟩ =>
      same (held_single linkable single ((held id given').mpr chosen) linked)
    simp only [same, false_and, not_false_iff, true_and, false_or, ne_eq]
    exact and_iff_left_of_imp alone

theorem Coherent.unaltered (coherent : Coherent schema database) (same : after = database) :
    Unaltered schema database after := by
  subst same
  exact .of_records coherent.stocked.housed coherent.keys fun _ => rfl

theorem requireTargets_shown (separate : schema.Separate)
    (coherent : Coherent schema connection.database) (relates : schema.Relates type relationship target)
    {owner : String} (stored : IsStored connection.database type owner) {linkage : Linkage}
    (shows : ShowsLinks schema type relationship connection owner linkage) :
    ∃ after, execute (requireTargets schema relationship linkage.identifiers) connection =
        (.ok (distinctIds [] (linkage.identifiers.map Identifier.id)), after) ∧
      after.database = connection.database := by
  obtain ⟨record, inside, named⟩ :=
    (coherent.stocked.isStored_iff separate relates.known).mp stored
  have loaded := (loads_iff (coherent.linkable separate relates) named).2
  obtain ⟨missing, after, left, kept, run⟩ := requireTargets_right separate coherent.stocked relates
    fun given member => (shows.types given member).trans relates.named.symm
  have none : missing = [] := List.eq_nil_iff_forall_not_mem.mpr fun id member => by
    obtain ⟨asked, absent⟩ := (left.members id).mp member
    obtain ⟨other, stored, text, _⟩ := (loaded id).mp ((shows.loads id).mpr asked)
    exact absent ((coherent.stocked.isStored_iff separate relates.known').mpr ⟨other, stored, text⟩)
  rw [if_pos none] at run
  exact ⟨after, run, congrArg Prod.fst kept⟩

theorem no_targets_done (separate : schema.Separate) (relates : schema.Relates type relationship target)
    {owner : String} {cell : Cell} (spelled : idCell type owner = .ok cell) (connection : Connection) :
    execute (removeFromMany schema type relationship owner []) connection = (.ok (), connection) ∧
      execute (addToMany schema type relationship owner []) connection = (.ok (), connection) := by
  have found := relates.found separate.formed
  constructor
  · unfold Mapping.removeFromMany
    rw [execute_bind, execute_ofExcept, found]
    dsimp only
    rw [execute_bind, execute_ofExcept, spelled]
    rfl
  · unfold Mapping.addToMany
    rw [execute_bind, execute_ofExcept, found]
    dsimp only
    rw [execute_bind, execute_ofExcept, spelled]
    rfl

theorem writeLinkage_idle (separate : schema.Separate) (agree : schema.KeysAgree)
    (coherent : Coherent schema connection.database) (relates : schema.Relates type relationship target)
    {owner : String} (stored : IsStored connection.database type owner) {linkage : Linkage}
    (shows : ShowsLinks schema type relationship connection owner linkage) :
    ∃ after, execute (writeLinkage schema type relationship owner linkage true) connection =
        (.ok (), after) ∧ Unaltered schema connection.database after.database := by
  obtain ⟨middle, found, here⟩ := requireTargets_shown separate coherent relates stored shows
  have loads (id : String) : Loads schema type relationship middle owner id ↔
      id ∈ linkage.identifiers.map Identifier.id := by
    rw [loads_same (coherent.linkable separate relates) here]
    exact shows.loads id
  have unchanged := coherent.unaltered here
  have coherent' := unchanged.coherent coherent
  have stored' := (unchanged.isStored relates.known).mpr stored
  cases linkage with
  | toOne chosen =>
      have toOne : relationship.isToMany = false := shows.kind.symm
      unfold writeLinkage replaceToOne
      dsimp only
      rw [toOne, if_neg Bool.false_ne_true]
      cases chosen with
      | none =>
          obtain ⟨after, done, unaltered⟩ := setToOne_idle separate agree coherent relates toOne stored
            (fun id => (shows.loads id).trans (by simp [Linkage.identifiers]) :
              ∀ id, Loads schema type relationship connection owner id ↔ id ∈ (none : Option String))
          refine ⟨after, ?_, unaltered⟩
          exact execute_writing_done done
      | some given =>
          obtain ⟨after, done, unaltered⟩ := setToOne_idle separate agree coherent' relates toOne stored'
            (fun id => (loads id).trans (by simp [Linkage.identifiers, eq_comm]) :
              ∀ id, Loads schema type relationship middle owner id ↔ id ∈ some given.id)
          refine ⟨after, ?_, unchanged.trans unaltered⟩
          refine (execute_bind _ _ _).trans ?_
          change execute (requireTargets schema relationship [given]) connection = _ at found
          rw [found]
          exact execute_writing_done done
  | toMany targets =>
      have toMany : relationship.isToMany = true := shows.kind.symm
      change execute (requireTargets schema relationship targets) connection = _ at found
      generalize wanted_eq : distinctIds [] ((Linkage.toMany targets).identifiers.map Identifier.id) =
        wanted at found
      obtain ⟨current, reached, loaded, kept, members⟩ :=
        currentTargets_done (coherent'.linkable separate relates) stored'
      have there : reached.database = middle.database := congrArg Prod.fst kept
      have same (id : String) : id ∈ current ↔ id ∈ wanted := by
        rw [members, loads, ← wanted_eq, mem_distinctIds]
        simp
      have stale : current.filter (fun id => !wanted.contains id) = [] := by
        simp [List.filter_eq_nil_iff, same]
      have fresh : wanted.filter (fun id => !current.contains id) = [] := by
        simp [List.filter_eq_nil_iff, same]
      obtain ⟨record, inside, named⟩ :=
        (coherent.stocked.isStored_iff separate relates.known).mp stored
      obtain ⟨removed, added⟩ := no_targets_done separate relates (idCell_names named) reached
      refine ⟨reached, ?_, unchanged.trans (coherent'.unaltered there)⟩
      unfold writeLinkage replaceToMany
      refine (execute_requireToMany toMany "replace" _).trans ?_
      rw [execute_bind, found]
      dsimp only
      rw [execute_bind, loaded]
      dsimp only
      rw [stale, fresh, execute_bind, execute_writing_done removed]
      exact execute_writing_done added

theorem writeLinkages_idle (separate : schema.Separate) (agree : schema.KeysAgree)
    (coherent : Coherent schema connection.database) (known : type ∈ schema.types) {owner : String}
    (stored : IsStored connection.database type owner) {linkages : List (Relationship × Linkage)}
    (own : ∀ entry ∈ linkages, entry.1 ∈ type.relationships)
    (shown : ∀ entry ∈ linkages, ShowsLinks schema type entry.1 connection owner entry.2) :
    ∃ after, execute (writeLinkages schema type owner linkages true) connection = (.ok (), after) ∧
      Unaltered schema connection.database after.database := by
  induction linkages generalizing connection with
  | nil => exact ⟨connection, rfl, coherent.unaltered rfl⟩
  | cons entry rest ih =>
      obtain ⟨target, _, leads, _⟩ := separate.formed.target known (own entry List.mem_cons_self)
      obtain ⟨middle, done, unaltered⟩ := writeLinkage_idle separate agree coherent
        ⟨known, own entry List.mem_cons_self, leads⟩ stored (shown entry List.mem_cons_self)
      have later : ∀ entry ∈ rest, ShowsLinks schema type entry.1 middle owner entry.2 := by
        intro entry member
        obtain ⟨target, _, leads, _⟩ :=
          separate.formed.target known (own entry (List.mem_cons_of_mem _ member))
        exact (shown entry (List.mem_cons_of_mem _ member)).unaltered separate unaltered coherent
          ⟨known, own entry (List.mem_cons_of_mem _ member), leads⟩ stored
      obtain ⟨after, finished, unaltered'⟩ := ih (unaltered.coherent coherent)
        ((unaltered.isStored known).mpr stored)
        (fun entry member => own entry (List.mem_cons_of_mem _ member)) later
      refine ⟨after, ?_, unaltered.trans unaltered'⟩
      refine (execute_bind _ _ _).trans ?_
      rw [done]
      exact finished

theorem coherent_of_integral (separate : schema.Separate) (stocked : Stocked schema database)
    (typed : ReferencesTyped schema database) (integral : Integral schema database) :
    Coherent schema database where
  stocked := stocked
  keys := typed.keys
  present {type target relationship} relates owner other _ given held := by
    have referred {table column : String} (refers : Refers schema table column target) {record : Record}
        (member : record ∈ database.records table) (same : record column = other) :
        ∃ stored ∈ database.records (tableName target), stored (idName target) = other := by
      subst same
      rcases integral _ _ _ refers record member with none | ⟨stored, inside, agrees⟩
      · exact absurd none given
      · have taken : (keyType target).takes (stored (idName target)) := FieldType.stores_takes
          (stocked.typed target relates.known' stored inside target.identity List.mem_cons_self)
        have kind := taken.resolve_left (stocked.identified target relates.known' stored inside)
        exact ⟨stored, inside, ((agrees_iff_eq (separate.exact target relates.known')
          (typed _ _ _ refers record member) kind).mp agrees).symm⟩
    obtain ⟨known, own, leads⟩ := relates
    unfold Holds at held
    split at held
    · rename_i storage
      obtain ⟨record, member, _, same⟩ := held
      exact referred (.ownerKey known own storage leads) member same
    · obtain ⟨record, member, same, _⟩ := held
      exact ⟨record, member, same⟩
    · rename_i storage
      obtain ⟨record, member, _, same⟩ := held
      exact referred (.targetPair known own storage leads) member same

/-- After any requests resources are in stock, with links to others in stock. -/
theorem reachable_coherent {api : Api} (separate : api.schema.Separate) (agree : api.schema.KeysAgree)
    (reachable : Reachable api (fun _ => True) database) (unique : IdsUnique api.schema database) :
    Coherent api.schema database := by
  have ⟨_, tables, shared, apart, columns, keys, _, exact⟩ := separate
  have orderly : api.schema.Orderly := ⟨separate.formed, tables, shared, apart, columns, keys, agree⟩
  have stable (request : Request) : StableIds api.schema request :=
    fun endpoint known _ _ _ _ temporal => absurd temporal (exact _ known).notDuration
  obtain ⟨_, _, integral⟩ := reachable_invariant
    (reference_invariant separate.formed tables columns keys agree) (fun _ request _ => stable request)
    (fun _ done => vacant_references (registered_columns done).1) reachable
  exact coherent_of_integral separate (reachable_stocked separate reachable unique)
    (reachable_references_typed orderly reachable).2 integral

end

end ResourceServer
