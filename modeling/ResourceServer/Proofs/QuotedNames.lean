import Mathlib.Logic.Function.Defs
import ResourceServer.Store.Clause

/-! Quoted names read back: where a reader of statements sees a name end, and which name it sees. -/

namespace ResourceServer.Store

/-- The rest of a name whose quotation mark is open, and what comes after the mark that closes it. Two marks in a row
are one mark of the name. -/
def closeName? : List Char → Option (List Char × List Char)
  | '"' :: '"' :: rest => (closeName? rest).map fun (name, rest) => ('"' :: name, rest)
  | '"' :: rest => some ([], rest)
  | c :: rest => (closeName? rest).map fun (name, rest) => (c :: name, rest)
  | [] => none

/-- A quoted name at the front of a text, and what comes after it. -/
def readName? : List Char → Option (String × List Char)
  | '"' :: rest => (closeName? rest).map fun (name, rest) => (String.ofList name, rest)
  | _ => none

def readColumn? (text : List Char) : Option Column := do
  let (first, rest) ← readName? text
  match rest with
  | [] => some (.ofName first)
  | '.' :: rest => do
    let (second, rest) ← readName? rest
    if rest.isEmpty then some (.ofTable first second) else none
  | _ => none

def doubled (name : List Char) : List Char :=
  name.flatMap fun c => if c = '"' then ['"', '"'] else [c]

section

variable {text name rest : List Char} {c : Char}

theorem doubled_mark (name : List Char) : doubled ('"' :: name) = '"' :: '"' :: doubled name := rfl

theorem doubled_other (plain : c ≠ '"') (name : List Char) : doubled (c :: name) = c :: doubled name := by
  unfold doubled
  rw [List.flatMap_cons, if_neg plain, List.singleton_append]

theorem quoteName_toList (name : String) : (quoteName name).toList = '"' :: (doubled name.toList ++ ['"']) := by
  have mark : "\"".toList = ['"'] := by decide
  unfold quoteName doubled
  rw [String.toList_append, String.toList_append, mark, String.toList_ofList]
  rfl

theorem closeName_other (plain : c ≠ '"') (rest : List Char) :
    closeName? (c :: rest) = (closeName? rest).map fun (name, rest) => (c :: name, rest) := by
  rw [closeName?.eq_3]
  · intro _ same _
    exact plain same
  · exact plain

theorem closeName_alone (stops : rest.head? ≠ some '"') : closeName? ('"' :: rest) = some ([], rest) := by
  rw [closeName?.eq_2]
  rintro others rfl
  exact stops rfl

theorem closeName_doubled (name : List Char) (stops : rest.head? ≠ some '"') :
    closeName? (doubled name ++ '"' :: rest) = some (name, rest) := by
  induction name with
  | nil => exact closeName_alone stops
  | cons c name ih =>
      by_cases mark : c = '"'
      · subst mark
        rw [doubled_mark, List.cons_append, List.cons_append, closeName?.eq_1, ih]
        rfl
      · rw [doubled_other mark, List.cons_append, closeName_other mark, ih]
        rfl

theorem doubled_of_closeName (read : closeName? text = some (name, rest)) :
    text = doubled name ++ '"' :: rest ∧ rest.head? ≠ some '"' := by
  fun_induction closeName? text generalizing name with
  | case1 others ih =>
      obtain ⟨⟨inner, after⟩, found, same⟩ := Option.map_eq_some_iff.mp read
      cases same
      obtain ⟨rfl, stops⟩ := ih found
      exact ⟨rfl, stops⟩
  | case2 others single =>
      cases read
      refine ⟨rfl, fun first => ?_⟩
      obtain ⟨after, begins⟩ := List.head?_eq_some_iff.mp first
      exact single after begins
  | case3 c others _ mark ih =>
      obtain ⟨⟨inner, after⟩, found, same⟩ := Option.map_eq_some_iff.mp read
      cases same
      obtain ⟨rfl, stops⟩ := ih found
      rw [doubled_other mark]
      exact ⟨rfl, stops⟩
  | case4 => cases read

end

theorem readName_iff {text rest : List Char} {name : String} :
    readName? text = some (name, rest) ↔
      text = (quoteName name).toList ++ rest ∧ rest.head? ≠ some '"' := by
  rw [quoteName_toList, List.cons_append, List.append_assoc, List.singleton_append]
  constructor
  · intro read
    unfold readName? at read
    split at read
    · obtain ⟨⟨inner, after⟩, found, same⟩ := Option.map_eq_some_iff.mp read
      cases same
      obtain ⟨rfl, stops⟩ := doubled_of_closeName found
      rw [String.toList_ofList]
      exact ⟨rfl, stops⟩
    · cases read
  · rintro ⟨rfl, stops⟩
    rw [readName?.eq_1, closeName_doubled _ stops, Option.map_some]
    dsimp only
    rw [String.ofList_toList]

theorem readName_quoteName (name : String) : readName? (quoteName name).toList = some (name, []) :=
  readName_iff.mpr ⟨(List.append_nil _).symm, nofun⟩

theorem readColumn_quoted (column : Column) : readColumn? column.quoted.toList = some column := by
  obtain ⟨table, name⟩ := column
  cases table with
  | none =>
      unfold Column.quoted readColumn?
      dsimp only
      rw [readName_quoteName]
      rfl
  | some table =>
      have point : ".".toList = ['.'] := by decide
      have first : readName? ((quoteName table).toList ++ '.' :: (quoteName name).toList) =
          some (table, '.' :: (quoteName name).toList) := readName_iff.mpr ⟨rfl, nofun⟩
      unfold Column.quoted readColumn?
      dsimp only
      rw [String.toList_append, String.toList_append, point, List.append_assoc, List.singleton_append, first]
      simp only [Option.bind_eq_bind, Option.bind_some, readName_quoteName]
      rfl

/-- A quoted name is taken for the name it quotes, from its first mark to its last and no further; so the texts of two
columns tell the columns apart. -/
theorem quoted_names_read_back :
    (∀ name, readName? (quoteName name).toList = some (name, [])) ∧
      (∀ text name rest, readName? text = some (name, rest) ↔
        text = (quoteName name).toList ++ rest ∧ rest.head? ≠ some '"') ∧
      Function.Injective Column.quoted := by
  refine ⟨readName_quoteName, fun text name rest => readName_iff, fun left right same => ?_⟩
  have read := readColumn_quoted left
  rw [same, readColumn_quoted right] at read
  exact (Option.some.inj read).symm

/-- A name may imitate the point between a table and a column. -/
example : (Column.ofTable "a" "b").quoted = "\"a\".\"b\"" ∧
    (Column.ofName "a\".\"b").quoted = "\"a\"\".\"\"b\"" := by decide

end ResourceServer.Store
