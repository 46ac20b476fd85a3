import ResourceServer.Api.Dispatch
import ResourceServer.Proofs.Columns
import ResourceServer.Proofs.Filtering

/-! Types that are registered more than once: they are served as they were registered last, but for how they are
written. -/

namespace ResourceServer

namespace Keyed

variable {α β : Type}

def lasts : List (String × α) → List (String × α)
  | [] => []
  | entry :: rest => if entry.1 ∈ rest.map (·.1) then lasts rest else entry :: lasts rest

theorem lookup_ofList_reverse (entries : List (String × α)) (name : String) :
    (ofList entries).lookup name = entries.reverse.lookup name := by
  induction entries using List.reverseRecOn with
  | nil => rfl
  | append_singleton before entry ih =>
      rw [ofList_concat, lookup_put, ih, List.reverse_concat, List.lookup_cons]
      by_cases same : name = entry.1
      · simp [same]
      · simp [same, beq_eq_false_iff_ne.mpr same]

theorem lookup_lasts (entries : List (String × α)) (name : String) :
    (lasts entries).reverse.lookup name = entries.reverse.lookup name := by
  induction entries with
  | nil => rfl
  | cons entry rest ih =>
      unfold lasts
      split
      · rename_i again
        rw [ih, List.reverse_cons, List.lookup_append]
        by_cases same : name = entry.1
        · -- the later entry of the name hides this one
          obtain ⟨later, among, named⟩ := List.mem_map.mp again
          cases found : rest.reverse.lookup name with
          | some value => rfl
          | none =>
              have differs := List.lookup_eq_none_iff.mp found later (List.mem_reverse.mpr among)
              simp [same, named] at differs
        · rw [List.lookup_cons, beq_eq_false_iff_ne.mpr same]
          simp
      · rw [List.reverse_cons, List.reverse_cons, List.lookup_append, List.lookup_append, ih]

theorem ofList_lasts (entries : List (String × α)) : ofList (lasts entries) = ofList entries := by
  apply Ordered.ext (ordered_ofList _) (ordered_ofList _)
  intro name
  rw [lookup_ofList_reverse, lookup_ofList_reverse, lookup_lasts]

theorem lasts_map (change : String × α → β) (entries : List (String × α)) :
    lasts (entries.map fun entry => (entry.1, change entry)) =
      (lasts entries).map fun entry => (entry.1, change entry) := by
  induction entries with
  | nil => rfl
  | cons entry rest ih =>
      have names : (rest.map fun entry => (entry.1, change entry)).map (·.1) = rest.map (·.1) := by
        simp
      rw [List.map_cons, lasts, lasts, names, ih]
      split <;> rfl

theorem ofList_map_lasts (change : String × α → β) (entries : List (String × α)) :
    ofList ((lasts entries).map fun entry => (entry.1, change entry)) =
      ofList (entries.map fun entry => (entry.1, change entry)) := by
  rw [← lasts_map, ofList_lasts]

theorem lasts_sublist (entries : List (String × α)) : (lasts entries).Sublist entries := by
  induction entries with
  | nil => exact .refl _
  | cons entry rest ih =>
      unfold lasts
      split
      · exact ih.cons entry
      · exact ih.cons_cons entry

theorem lasts_distinct (entries : List (String × α)) : ((lasts entries).map (·.1)).Nodup := by
  induction entries with
  | nil => exact List.nodup_nil
  | cons entry rest ih =>
      unfold lasts
      split
      · exact ih
      · rename_i fresh
        rw [List.map_cons, List.nodup_cons]
        refine ⟨?_, ih⟩
        intro again
        exact fresh (((lasts_sublist rest).map _).subset again)

theorem mem_lasts {entries : List (String × α)} {name : String} {value : α} :
    (name, value) ∈ lasts entries ↔ entries.reverse.lookup name = some value := by
  rw [← lookup_ofList (lasts_distinct entries), ofList_lasts, lookup_ofList_reverse]

end Keyed

namespace Api

def registerAll (api : Api) (entries : List (String × ResourceConfig)) : Except RequestError Api :=
  entries.foldlM (fun api entry => api.register entry.1 entry.2) api

def ResourceConfig.shown (settings : ResourceConfig) : Visibility :=
  settings.visibility.toOption.getD .all

def Registrable (schema : Schema) (entry : String × ResourceConfig) : Prop :=
  (schema.type? entry.1).isSome ∧ ∃ visibility, entry.2.visibility = .ok visibility

def givenSerializers (entries : List (String × ResourceConfig)) : List (String × Serializer) :=
  entries.filterMap fun entry => entry.2.serializer.map fun serializer => (entry.1, serializer)

theorem givenSerializers_concat (entries : List (String × ResourceConfig)) (entry : String × ResourceConfig) :
    givenSerializers (entries ++ [entry]) =
      givenSerializers entries ++ (entry.2.serializer.map fun serializer => (entry.1, serializer)).toList := by
  unfold givenSerializers
  rw [List.filterMap_append]
  cases written : entry.2.serializer <;> simp [written]

/-- An API with a type under new settings. The serializer that the type had stays unless they give another. -/
def revised (api : Api) (type : String) (settings : ResourceConfig) : Api :=
  { api with
    resources := api.resources.put type settings
    assembler :=
      { api.assembler with
        collectionUrls := api.assembler.collectionUrls.put type
          (Text.trimEnd '/' (collectionUrl api.config type settings))
        serializers := match settings.serializer with
          | some serializer => api.assembler.serializers.put type serializer
          | none => api.assembler.serializers
        visibilities := api.assembler.visibilities.put type settings.shown } }

theorem register_iff {api next : Api} {type : String} {settings : ResourceConfig} :
    api.register type settings = .ok next ↔
      Registrable api.schema (type, settings) ∧ next = api.revised type settings := by
  constructor
  · intro done
    unfold register at done
    dsimp only at done
    split at done
    · cases done
    rename_i known
    obtain ⟨visibility, chosen, done⟩ := bind_ok done
    have shown : settings.shown = visibility := by simp [ResourceConfig.shown, chosen, Except.toOption]
    refine ⟨⟨?_, visibility, chosen⟩, ?_⟩
    · exact Option.isSome_iff_ne_none.mpr (by simpa using known)
    · unfold revised
      rw [shown]
      cases given : settings.serializer with
      | none =>
          rw [given] at done
          exact (Except.ok.inj done).symm
      | some serializer =>
          rw [given] at done
          exact (Except.ok.inj done).symm
  · rintro ⟨⟨known, visibility, chosen⟩, rfl⟩
    have shown : settings.shown = visibility := by simp [ResourceConfig.shown, chosen, Except.toOption]
    obtain ⟨found, same⟩ := Option.isSome_iff_exists.mp known
    unfold register revised
    dsimp only at same ⊢
    rw [same, chosen, shown]
    cases settings.serializer with
    | none => rfl
    | some serializer => rfl

def serving (schema : Schema) (config : ApiConfig) (entries : List (String × ResourceConfig))
    (serializers : Keyed Serializer) : Api where
  schema := schema
  config := config
  resources := .ofList entries
  assembler :=
    { Assembler.below (config.baseUrl ++ config.urlPath) with
      collectionUrls := .ofList (entries.map fun entry =>
        (entry.1, Text.trimEnd '/' (collectionUrl config entry.1 entry.2)))
      serializers := serializers
      visibilities := .ofList (entries.map fun entry => (entry.1, entry.2.shown)) }

section

variable {schema : Schema} {config : ApiConfig} {entries : List (String × ResourceConfig)} {api : Api}

theorem revised_serving (entry : String × ResourceConfig) :
    (serving schema config entries (.ofList (givenSerializers entries))).revised entry.1 entry.2 =
      serving schema config (entries ++ [entry]) (.ofList (givenSerializers (entries ++ [entry]))) := by
  unfold serving revised
  rw [List.map_append, List.map_append, givenSerializers_concat]
  simp only [List.map_cons, List.map_nil, Keyed.ofList_concat]
  cases entry.2.serializer with
  | none => simp
  | some serializer => simp [Keyed.ofList_concat]

/-- Types of the schema whose settings do not contradict themselves are registered, and served under the last settings
of each by the last serializer of each. -/
theorem registerAll_iff :
    (ofSchema schema config).registerAll entries = .ok api ↔
      (∀ entry ∈ entries, Registrable schema entry) ∧
        api = serving schema config entries (.ofList (givenSerializers entries)) := by
  induction entries using List.reverseRecOn generalizing api with
  | nil =>
      constructor
      · intro done
        cases done
        exact ⟨nofun, rfl⟩
      · rintro ⟨_, rfl⟩
        rfl
  | append_singleton before entry ih =>
      have last : (ofSchema schema config).registerAll (before ++ [entry]) =
          (ofSchema schema config).registerAll before >>= fun api => api.register entry.1 entry.2 := by
        simp [registerAll, List.foldlM_append]
      rw [last, ← revised_serving, List.forall_mem_append, List.forall_mem_singleton]
      constructor
      · intro done
        obtain ⟨between, first, last⟩ := bind_ok done
        obtain ⟨each, rfl⟩ := ih.mp first
        obtain ⟨own, rfl⟩ := register_iff.mp last
        exact ⟨⟨each, own⟩, rfl⟩
      · rintro ⟨⟨each, own⟩, rfl⟩
        exact bind_of_ok (ih.mpr ⟨each, rfl⟩) (register_iff.mpr ⟨own, rfl⟩)

def lastSerializer? (entries : List (String × ResourceConfig)) (type : String) : Option Serializer :=
  entries.reverse.findSome? fun entry => if entry.1 = type then entry.2.serializer else none

theorem lookup_givenSerializers (entries : List (String × ResourceConfig)) (type : String) :
    (Keyed.ofList (givenSerializers entries)).lookup type = lastSerializer? entries type := by
  induction entries using List.reverseRecOn with
  | nil => rfl
  | append_singleton before entry ih =>
      unfold lastSerializer? at ih ⊢
      rw [givenSerializers_concat, List.reverse_concat, List.findSome?_cons]
      cases written : entry.2.serializer with
      | none => simp [ih]
      | some serializer =>
          by_cases same : entry.1 = type
          · simp [Keyed.ofList_concat, Keyed.lookup_put, same]
          · simp [Keyed.ofList_concat, Keyed.lookup_put, same, Ne.symm same, ih]

theorem lastSerializer_given {type : String} {settings : ResourceConfig} {serializer : Serializer}
    (last : entries.reverse.lookup type = some settings) (given : settings.serializer = some serializer) :
    lastSerializer? entries type = some serializer := by
  unfold lastSerializer?
  generalize entries.reverse = backwards at last
  induction backwards with
  | nil => cases last
  | cons entry rest ih =>
      rw [List.lookup_cons] at last
      rw [List.findSome?_cons]
      by_cases same : type = entry.1
      · rw [beq_iff_eq.mpr same] at last
        cases last
        simp [same, given]
      · rw [beq_eq_false_iff_ne.mpr same] at last
        simp [Ne.symm same, ih last]

theorem lastSerializer_none_iff {type : String} :
    lastSerializer? entries type = none ↔
      ∀ settings, (type, settings) ∈ entries → settings.serializer = none := by
  unfold lastSerializer?
  rw [List.findSome?_eq_none_iff]
  constructor
  · intro never settings among
    simpa using never (type, settings) (List.mem_reverse.mpr among)
  · intro never entry among
    split
    · rename_i same
      exact never entry.2 (same ▸ List.mem_reverse.mp among)
    · rfl

/-- A type that was given a serializer is given one by the last of its registrations. -/
def SerializersReplaced (entries : List (String × ResourceConfig)) : Prop :=
  ∀ type settings, (type, settings) ∈ Keyed.lasts entries → settings.serializer = none →
    ∀ earlier, (type, earlier) ∈ entries → earlier.serializer = none

theorem lastSerializer_lasts {type : String} {settings : ResourceConfig}
    (last : (type, settings) ∈ Keyed.lasts entries) :
    lastSerializer? (Keyed.lasts entries) type = settings.serializer := by
  have found : (Keyed.lasts entries).reverse.lookup type = some settings := by
    rw [Keyed.lookup_lasts]
    exact Keyed.mem_lasts.mp last
  cases given : settings.serializer with
  | some serializer => exact lastSerializer_given found given
  | none =>
      apply lastSerializer_none_iff.mpr
      intro other among
      have same := (Keyed.mem_lasts.mp last).symm.trans (Keyed.mem_lasts.mp among)
      cases same
      exact given

theorem serializers_lasts_iff :
    Keyed.ofList (givenSerializers entries) = Keyed.ofList (givenSerializers (Keyed.lasts entries)) ↔
      SerializersReplaced entries := by
  constructor
  · intro same type settings last absent
    apply lastSerializer_none_iff.mp
    rw [← lookup_givenSerializers, same, lookup_givenSerializers, lastSerializer_lasts last, absent]
  · intro replaced
    apply Keyed.Ordered.ext (Keyed.ordered_ofList _) (Keyed.ordered_ofList _)
    intro type
    rw [lookup_givenSerializers, lookup_givenSerializers]
    cases last : entries.reverse.lookup type with
    | none =>
        have unknown : ∀ settings, (type, settings) ∉ entries := by
          intro settings among
          have differs := List.lookup_eq_none_iff.mp last _ (List.mem_reverse.mpr among)
          simp at differs
        have never : lastSerializer? entries type = none :=
          lastSerializer_none_iff.mpr fun settings among => absurd among (unknown settings)
        have never' : lastSerializer? (Keyed.lasts entries) type = none :=
          lastSerializer_none_iff.mpr fun settings among =>
            absurd ((Keyed.lasts_sublist entries).subset among) (unknown settings)
        rw [never, never']
    | some settings =>
        rw [lastSerializer_lasts (Keyed.mem_lasts.mpr last)]
        cases given : settings.serializer with
        | some serializer => exact lastSerializer_given last given
        | none => exact lastSerializer_none_iff.mpr (replaced type settings (Keyed.mem_lasts.mpr last) given)

theorem serving_lasts :
    serving schema config (Keyed.lasts entries) (.ofList (givenSerializers entries)) =
      serving schema config entries (.ofList (givenSerializers entries)) := by
  unfold serving
  rw [Keyed.ofList_lasts, Keyed.ofList_map_lasts, Keyed.ofList_map_lasts]

/-- After any registrations, an API is the one that comes of the last registration of each type, but for the
serializers: a type is written by the last serializer that it was given, even if it was registered without one since.
Where all serializers are replaced the two are the same, and nowhere else, and so they answer every request on every
database alike. -/
theorem last_registration_wins (done : (ofSchema schema config).registerAll entries = .ok api) :
    ∃ last, (ofSchema schema config).registerAll (Keyed.lasts entries) = .ok last ∧
      api = { last with assembler := { last.assembler with serializers := api.assembler.serializers } } ∧
      (∀ type, api.assembler.serializer type = (lastSerializer? entries type).getD Serializer.default) ∧
      (api = last ↔ SerializersReplaced entries) ∧
      (SerializersReplaced entries → ∀ now request database,
        handle api now request database = handle last now request database) := by
  obtain ⟨each, rfl⟩ := registerAll_iff.mp done
  have lasts : ∀ entry ∈ Keyed.lasts entries, Registrable schema entry := by
    intro entry among
    exact each entry ((Keyed.lasts_sublist entries).subset among)
  have same : serving schema config entries (.ofList (givenSerializers entries)) =
      serving schema config (Keyed.lasts entries) (.ofList (givenSerializers (Keyed.lasts entries))) ↔
        SerializersReplaced entries := by
    rw [← serializers_lasts_iff, ← serving_lasts]
    constructor
    · intro equal
      exact congrArg (fun api => api.assembler.serializers) equal
    · intro equal
      rw [equal]
  refine ⟨_, registerAll_iff.mpr ⟨lasts, rfl⟩, ?_, ?_, same, ?_⟩
  · rw [← serving_lasts]
    rfl
  · intro type
    rw [← lookup_givenSerializers]
    rfl
  · intro replaced now request database
    rw [same.mpr replaced]

end

/-! People, who are served once more under other settings. -/

namespace People

open ResourceServer.Store

def schema : Schema :=
  ⟨[⟨"person", none, ⟨"id", .string, false⟩, [⟨"name", .string, false⟩], [], []⟩,
    ⟨"tag", none, ⟨"id", .string, false⟩, [], [], []⟩]⟩

def refusing : Serializer := fun rendered => .error ⟨rendered.resource.identifier, "refused"⟩

def withheld : ResourceConfig :=
  { urlPath := some "/old"
    exclude := ["name"]
    pageSize := 1
    serializer := some refusing }

def entries : List (String × ResourceConfig) :=
  [("person", withheld), ("tag", {}), ("person", { serializer := some Serializer.default })]

def dropped : List (String × ResourceConfig) :=
  [("person", { serializer := some refusing }), ("person", {})]

theorem replaced : SerializersReplaced entries := by
  intro type settings last absent earlier among
  change (type, settings) ∈ [("tag", {}), ("person", { serializer := some Serializer.default })] at last
  simp only [List.mem_cons, List.not_mem_nil, or_false, Prod.mk.injEq] at last
  rcases last with ⟨rfl, rfl⟩ | ⟨rfl, rfl⟩
  · simp [entries] at among
    rw [among]
  · cases absent

def tables : Database :=
  ⟨[⟨"person", [⟨"id", .text⟩, ⟨"name", .text⟩], [[0]], [[.text "ann", .text "Ann"]], 1⟩,
    ⟨"tag", [⟨"id", .text⟩], [[0]], [], 1⟩]⟩

end People

theorem people_served_anew : ∃ api last, (ofSchema People.schema {}).registerAll People.entries = .ok api ∧
    SerializersReplaced People.entries ∧
    (ofSchema People.schema {}).registerAll (Keyed.lasts People.entries) = .ok last ∧
    ∀ now request database, handle api now request database = handle last now request database := by
  have done : ∃ api, (ofSchema People.schema {}).registerAll People.entries = .ok api := ⟨_, rfl⟩
  obtain ⟨api, done⟩ := done
  obtain ⟨last, single, _, _, _, alike⟩ := last_registration_wins done
  exact ⟨api, last, done, People.replaced, single, alike People.replaced⟩

/-- A serializer stays when its type is registered without one: people are refused still. -/
theorem dropped_serializer_remains : ∃ api last,
    (ofSchema People.schema {}).registerAll People.dropped = .ok api ∧
    (ofSchema People.schema {}).registerAll (Keyed.lasts People.dropped) = .ok last ∧
    (handle api Client.now ⟨.get, Client.url "/api/person/ann", none⟩ People.tables).response.status = 500 ∧
    (handle last Client.now ⟨.get, Client.url "/api/person/ann", none⟩ People.tables).response.status = 200 :=
  ⟨_, _, rfl, rfl, by decide +kernel, by decide +kernel⟩

end Api

end ResourceServer
