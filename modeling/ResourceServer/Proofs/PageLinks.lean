import ResourceServer.Parameters
import ResourceServer.Proofs.Numerals
import ResourceServer.Proofs.UrlTexts

/-! Links to other pages of a collection: they are read back, and they ask for the same but for the page. -/

namespace ResourceServer

namespace Number

theorem digitText_eq (number : Nat) : digitText number = toString (number : Int) := by
  have same : (toString (number : Int)).toList = Nat.toDigits 10 number := Nat.toList_repr
  rw [← String.toList_inj, same]
  exact String.toList_ofList

theorem trim_digitText (number : Nat) : Text.trim (digitText number) = digitText number := by
  have blank {digit : Char} (given : digit.isDigit) : Text.isBlank digit = false := by
    obtain ⟨low, high⟩ := Char.isDigit_iff_toNat.mp given
    change 48 ≤ digit.toNat at low
    change digit.toNat ≤ 57 at high
    have same := Char.ofNat_toNat digit
    generalize digit.toNat = value at low high same
    subst same
    interval_cases value <;> decide
  have plain : ∀ digits : List Char, (∀ digit ∈ digits, digit.isDigit) →
      digits.dropWhile Text.isBlank = digits := by
    intro digits each
    cases digits with
    | nil => rfl
    | cons digit rest =>
        rw [List.dropWhile_cons_of_neg]
        simp [blank (each digit List.mem_cons_self)]
  unfold Text.trim Text.trimChars digitText
  rw [String.toList_ofList, plain _ (digits_isDigit number), plain, List.reverse_reverse]
  intro digit member
  exact digits_isDigit number digit (List.mem_reverse.mp member)

end Number

namespace Parameters

theorem readNumber_digitText (parameter : String) {number : Nat}
    (storable : (number : Int) ≤ Number.maxInteger) :
    readNumber parameter (Number.digitText number) = .ok number := by
  have kept : Number.isStorable number = true := by
    have positive : Number.minInteger ≤ 0 := by decide
    simp only [Number.isStorable, Bool.and_eq_true, decide_eq_true_eq]
    exact ⟨positive.trans (Int.natCast_nonneg number), storable⟩
  unfold readNumber
  rw [Number.trim_digitText, Number.digitText_eq, Number.readInteger_text kept]

theorem add_number (before : Parameters) (value : String) :
    before.add "page[number]" value =
      (readNumber "page[number]" value).map fun number => { before with pageNumber := some number } := by
  unfold add
  rw [if_neg (by decide), if_neg (by decide), if_neg (by decide), if_pos rfl]

theorem add_other (before : Parameters) {key : String} (other : key ≠ "page[number]") (value : String)
    (number : Option Int) :
    ({ before with pageNumber := number } : Parameters).add key value =
      (before.add key value).map fun after => { after with pageNumber := number } := by
  simp only [add, if_neg other]
  split
  · cases readFilters value <;> rfl
  split
  · cases (Sorting.read value).mapError RequestError.sort <;> rfl
  split
  · cases readNumber key value <;> rfl
  split
  · rfl
  · cases fieldsetType? key <;> rfl

theorem read_others {pairs : List (String × String)} {before after : Parameters}
    (read : pairs.foldlM (fun parameters pair => add parameters pair.1 pair.2) before = .ok after)
    (number : Option Int) :
    (pairs.filter fun pair => pair.1 ≠ "page[number]").foldlM
        (fun parameters pair => add parameters pair.1 pair.2)
        ({ before with pageNumber := number } : Parameters) =
      .ok { after with pageNumber := number } := by
  induction pairs generalizing before with
  | nil =>
      cases read
      rfl
  | cons pair rest ih =>
      obtain ⟨middle, added, read⟩ := bind_ok read
      change before.add pair.1 pair.2 = .ok middle at added
      by_cases same : pair.1 = "page[number]"
      · rw [same, add_number] at added
        obtain ⟨_, _, rfl⟩ := map_ok added
        rw [List.filter_cons_of_neg (by simp [same]), ← ih read]
      · have step := add_other before same pair.2 number
        rw [added] at step
        rw [List.filter_cons_of_pos (by simp [same])]
        exact bind_of_ok step (ih read)

end Parameters

namespace Url

theorem withPage_parameters {url : Url} {parameters : Parameters}
    (read : Parameters.read (url.query.getD "") = .ok parameters) {number : Nat}
    (storable : (number : Int) ≤ Number.maxInteger) :
    Parameters.read ((url.withPage number).query.getD "") =
      .ok { parameters with pageNumber := some number } := by
  have others := Parameters.read_others read none
  have last : Parameters.add { parameters with pageNumber := none } "page[number]"
      (Number.digitText number) = .ok { parameters with pageNumber := some (number : Int) } := by
    rw [Parameters.add_number, Parameters.readNumber_digitText _ storable]
    rfl
  unfold withPage Parameters.read
  rw [Option.getD_some, decodeForm_encodeForm, List.foldlM_append]
  refine bind_of_ok others ?_
  rw [List.foldlM_cons]
  exact bind_of_ok last rfl

theorem read_withPage {url : Url} (canonical : read url.text = .ok url) (given : url.query.isSome)
    (number : Nat) : read (url.withPage number).text = .ok (url.withPage number) :=
  read_query canonical given fun _ member => encodeForm_chars member

theorem queryPairs_withPage (url : Url) (number : Nat) :
    (url.withPage number).queryPairs =
      (url.queryPairs.filter fun pair => pair.1 ≠ "page[number]") ++
        [("page[number]", Number.digitText number)] := by
  simp only [withPage, queryPairs, Option.getD_some, decodeForm_encodeForm]

theorem withPage_withPage (url : Url) (number other : Nat) :
    (url.withPage other).withPage number = url.withPage number := by
  have pairs : ((url.withPage other).queryPairs.filter fun pair => pair.1 ≠ "page[number]") =
      url.queryPairs.filter fun pair => pair.1 ≠ "page[number]" := by
    rw [queryPairs_withPage, List.filter_append, List.filter_filter]
    simp
  calc
    (url.withPage other).withPage number =
        { url with query := some (encodeForm (((url.withPage other).queryPairs.filter fun pair =>
            pair.1 ≠ "page[number]") ++ [("page[number]", Number.digitText number)])) } := rfl
    _ = url.withPage number := by
      rw [pairs]
      rfl

/-- A link to another page changes the page and nothing else: its query string is read as the same parameters for that
page, all other pairs are kept in their order and as often as they occur, and so are scheme, host, path and fragment.
What page a URL was a link to makes no difference. -/
theorem page_link_changes_page {url : Url} {parameters : Parameters}
    (read : Parameters.read (url.query.getD "") = .ok parameters) {number : Nat}
    (storable : (number : Int) ≤ Number.maxInteger) :
    Parameters.read ((url.withPage number).query.getD "") =
      .ok { parameters with pageNumber := some number } ∧
    (url.withPage number).queryPairs =
      (url.queryPairs.filter fun pair => pair.1 ≠ "page[number]") ++
        [("page[number]", Number.digitText number)] ∧
    ((url.withPage number).scheme = url.scheme ∧ (url.withPage number).authority = url.authority ∧
      (url.withPage number).path = url.path ∧ (url.withPage number).fragment = url.fragment) ∧
    ∀ other, (url.withPage other).withPage number = url.withPage number := by
  refine ⟨withPage_parameters read storable, queryPairs_withPage url number, ⟨rfl, rfl, rfl, rfl⟩, ?_⟩
  intro other
  exact withPage_withPage url number other

/-- People by age, with a page number given twice, a key without a value, an empty piece, repeated keys, a plus sign
and a byte that is no text. -/
def people : Url :=
  ⟨"http", some (.ofHost "localhost"), "/api/person",
    some "page[number]=1&sort=-age&tag=%ff+%2B&x&&page%5Bnumber%5D=+7+&page[size]=2&tag=", some "top"⟩

theorem people_on_third_page :
    Parameters.read (people.query.getD "") =
      .ok { sort := .byKeys [⟨true, ["age"]⟩], pageSize := some 2, pageNumber := some 7 } ∧
    Parameters.read ((people.withPage 3).query.getD "") =
      .ok { sort := .byKeys [⟨true, ["age"]⟩], pageSize := some 2, pageNumber := some 3 } ∧
    (people.withPage 3).queryPairs =
      [("sort", "-age"), ("tag", "\uFFFD +"), ("x", ""), ("page[size]", "2"), ("tag", ""),
        ("page[number]", "3")] ∧
    (people.withPage 8).withPage 3 = people.withPage 3 := by
  have read : Parameters.read (people.query.getD "") =
      .ok { sort := .byKeys [⟨true, ["age"]⟩], pageSize := some 2, pageNumber := some 7 } := by
    rfl
  have storable : ((3 : Nat) : Int) ≤ Number.maxInteger := by decide
  obtain ⟨same, pairs, _, again⟩ := page_link_changes_page read storable
  exact ⟨read, same, pairs, again 8⟩

end Url

end ResourceServer
