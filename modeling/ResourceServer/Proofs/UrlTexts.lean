import ResourceServer.Proofs.QueryStrings
import ResourceServer.Proofs.UrlSuffixes

/-! URLs read back from their texts, with another query as well. -/

namespace ResourceServer.Url

theorem mem_percentEncode {reserved : Char → Bool} {text : List Char} {c : Char}
    (member : c ∈ percentEncode reserved text) :
    c ∈ text ∧ reserved c = false ∨ isFormChar c = true := by
  obtain ⟨origin, inside, made⟩ := List.mem_flatMap.mp member
  split at made
  · obtain ⟨byte, _, made⟩ := List.mem_flatMap.mp made
    exact .inr (encodeByte_chars made).1
  · rename_i plain
    rw [List.mem_singleton] at made
    subst made
    exact .inl ⟨inside, Bool.eq_false_iff.mpr plain⟩

theorem percentEncode_plain {reserved : Char → Bool} {text : List Char}
    (plain : ∀ c ∈ text, reserved c = false) : percentEncode reserved text = text := by
  induction text with
  | nil => rfl
  | cons c rest ih =>
      unfold percentEncode at ih ⊢
      rw [List.flatMap_cons, plain c List.mem_cons_self, ih fun c member => plain c (List.mem_cons_of_mem _ member)]
      rfl

theorem count_percentEncode {reserved : Char → Bool} {mark : Char} (plain : reserved mark = false)
    (other : isFormChar mark = false) (text : List Char) :
    (percentEncode reserved text).count mark = text.count mark := by
  induction text with
  | nil => rfl
  | cons c rest ih =>
      unfold percentEncode at ih ⊢
      rw [List.flatMap_cons, List.count_append, ih, List.count_cons, Nat.add_comm]
      congr 1
      split
      · rename_i hidden
        have apart : ¬(c == mark) = true := by
          intro same
          cases eq_of_beq same
          rw [plain] at hidden
          cases hidden
        rw [if_neg apart]
        refine List.count_eq_zero.mpr fun member => ?_
        obtain ⟨byte, _, made⟩ := List.mem_flatMap.mp member
        rw [(encodeByte_chars made).1] at other
        cases other
      · rw [List.count_singleton]

theorem count_counted {mark : Char} (other : isIgnored mark = false) (text : List Char) :
    (counted text).count mark = text.count mark :=
  List.count_filter (by simp [other])

def suffixText (query fragment : Option String) : List Char :=
  (query.elim [] fun query => '?' :: query.toList) ++ fragment.elim [] fun fragment => '#' :: fragment.toList

theorem isFormChar_stop {mark : Char} (ends : isPathChar mark = false) : isFormChar mark = false := by
  rcases isPathChar_stop ends with rfl | rfl <;> decide

def queryReserved (kind : SchemeKind) : Char → Bool :=
  if kind.isSpecial then isSpecialQueryReserved else isQueryReserved

theorem readSuffix_parts (kind : SchemeKind) {first : Char} (begins : isPathChar first = false)
    (rest : List Char) : ∃ query fragment : Option (List Char),
      counted (first :: rest) = query.elim [] ('?' :: ·) ++ fragment.elim [] ('#' :: ·) ∧
        (∀ text ∈ query, '#' ∉ text) ∧
        readSuffix kind (first :: rest) =
          (query.map fun text => String.ofList (percentEncode (queryReserved kind) text),
            fragment.map fun text => String.ofList (percentEncode isFragmentReserved text)) := by
  rw [readSuffix, counted_mark begins, List.span_eq_takeWhile_dropWhile]
  rcases isPathChar_stop begins with rfl | rfl
  · have whole := List.takeWhile_append_dropWhile (p := fun c => decide (c ≠ '#')) (l := counted rest)
    have free : '#' ∉ (counted rest).takeWhile fun c => decide (c ≠ '#') := fun member => by
      simpa using List.mem_takeWhile_imp member
    rw [List.takeWhile_cons_of_pos (by decide), List.dropWhile_cons_of_pos (by decide)]
    generalize (counted rest).takeWhile (fun c => decide (c ≠ '#')) = query at whole free
    cases last : (counted rest).dropWhile fun c => decide (c ≠ '#') with
    | nil =>
        rw [last, List.append_nil] at whole
        refine ⟨some query, none, ?_, fun text same => Option.some.inj same ▸ free, rfl⟩
        rw [← whole]
        simp
    | cons c fragment =>
        have hash : c = '#' := by
          have head := List.head?_dropWhile_not (fun c => decide (c ≠ '#')) (counted rest)
          rw [last] at head
          simpa using head
        subst hash
        rw [last] at whole
        refine ⟨some query, some fragment, ?_, fun text same => Option.some.inj same ▸ free, rfl⟩
        rw [← whole]
        rfl
  · exact ⟨none, some (counted rest), rfl, nofun, rfl⟩

theorem count_readSuffix (kind : SchemeKind) {first mark : Char} (begins : isPathChar first = false)
    (ends : isPathChar mark = false) (rest : List Char) :
    (suffixText (readSuffix kind (first :: rest)).1 (readSuffix kind (first :: rest)).2).count mark =
      (first :: rest).count mark := by
  obtain ⟨query, fragment, parts, free, read⟩ := readSuffix_parts kind begins rest
  have ignored : isIgnored mark = false := by rcases isPathChar_stop ends with rfl | rfl <;> rfl
  have queries : ∀ text ∈ query,
      (percentEncode (queryReserved kind) text).count mark = text.count mark := by
    intro text member
    rcases isPathChar_stop ends with rfl | rfl
    · refine count_percentEncode ?_ (isFormChar_stop ends) text
      cases kind <;> decide
    · rw [List.count_eq_zero.mpr (free text member), List.count_eq_zero]
      intro inside
      rcases mem_percentEncode inside with same | form
      · exact free text member same.1
      · rw [isFormChar_stop ends] at form
        cases form
  have fragments (text : List Char) : (percentEncode isFragmentReserved text).count mark = text.count mark := by
    refine count_percentEncode ?_ (isFormChar_stop ends) text
    rcases isPathChar_stop ends with rfl | rfl <;> decide
  rw [read, ← count_counted ignored (first :: rest), parts, suffixText, List.count_append, List.count_append]
  congr 1
  · cases query with
    | none => rfl
    | some text => simp only [Option.map, Option.elim, String.toList_ofList, List.count_cons, queries text rfl]
  · cases fragment with
    | none => rfl
    | some text => simp only [Option.map, Option.elim, String.toList_ofList, List.count_cons, fragments]

theorem trimmed_parts (text : String) : ∃ before after, text.toList = before ++ trimmed text ++ after ∧
    (∀ c ∈ before, c.toNat ≤ 32) ∧ ∀ c ∈ after, c.toNat ≤ 32 := by
  let outer (c : Char) : Bool := c.toNat ≤ 32
  have low {characters : List Char} : ∀ c ∈ characters.takeWhile outer, c.toNat ≤ 32 :=
    fun c member => of_decide_eq_true (List.mem_takeWhile_imp (p := outer) member)
  let middle := text.toList.dropWhile outer
  refine ⟨text.toList.takeWhile outer, (middle.reverse.takeWhile outer).reverse, ?_, low, ?_⟩
  · have back : trimmed text ++ (middle.reverse.takeWhile outer).reverse = middle := by
      have same : trimmed text = (middle.reverse.dropWhile outer).reverse := rfl
      rw [same, ← List.reverse_append, List.takeWhile_append_dropWhile, List.reverse_reverse]
    rw [List.append_assoc, back, List.takeWhile_append_dropWhile]
  · intro c member
    exact low c (List.mem_reverse.mp member)

theorem trimmed_eq {text : List Char} (first : ∀ c ∈ text.head?, 32 < c.toNat)
    (last : ∀ c ∈ text.getLast?, 32 < c.toNat) : trimmed (String.ofList text) = text := by
  have kept {characters : List Char} (first : ∀ c ∈ characters.head?, 32 < c.toNat) :
      characters.dropWhile (fun c => decide (c.toNat ≤ 32)) = characters := by
    cases characters with
    | nil => rfl
    | cons c rest => exact List.dropWhile_cons_of_neg (by simpa using first c rfl)
  simp only [trimmed, String.toList_ofList]
  rw [kept first, kept, List.reverse_reverse]
  rwa [List.head?_reverse]

theorem toLower_cases (c : Char) : c.toLower = c ∨ 96 < c.toLower.toNat := by
  unfold Char.toLower
  split
  · rename_i upper
    have low : 65 ≤ c.val.toNat := upper.1
    have high : c.val.toNat ≤ 90 := upper.2
    have shifted : (c.val + ('a'.val - 'A'.val)).toNat = c.val.toNat + 32 := by
      have step : ('a'.val - 'A'.val).toNat = 32 := by decide
      rw [UInt32.toNat_add, step]
      omega
    exact .inr (Nat.lt_of_lt_of_eq (by omega) shifted.symm)
  · exact .inl rfl

theorem schemeChar_plain {c : Char} (named : (c.isAlphanum || ['+', '-', '.'].contains c) = true) :
    32 < c.toNat ∧ isPathChar c = true := by
  constructor
  · by_contra small
    have same := Char.ofNat_toNat c
    generalize c.toNat = value at small same
    subst same
    have bound : value < 33 := by omega
    interval_cases value <;> revert named <;> decide
  · by_contra ends
    rcases isPathChar_stop (Bool.eq_false_iff.mpr ends) with rfl | rfl <;> revert named <;> decide

theorem readScheme_ok {text : List Char} {scheme : String} {rest : List Char}
    (read : readScheme? text = some (scheme, rest)) :
    ∃ before, text = before ++ ':' :: rest ∧ ':' ∉ before ∧ IsFront before ∧
      (∃ first others, scheme.toList = first :: others ∧ 32 < first.toNat) ∧ ':' ∉ scheme.toList ∧
        ∀ other, readScheme? (before ++ ':' :: other) = some (scheme, other) := by
  rw [readScheme?, List.span_eq_takeWhile_dropWhile] at read
  have free : ':' ∉ text.takeWhile fun c => decide (c ≠ ':') := fun member => by
    simpa using List.mem_takeWhile_imp member
  have whole := List.takeWhile_append_dropWhile (p := fun c => decide (c ≠ ':')) (l := text)
  have head := List.head?_dropWhile_not (fun c => decide (c ≠ ':')) text
  generalize text.takeWhile (fun c => decide (c ≠ ':')) = before at read free whole
  dsimp only at read
  split at read
  · cases read
  rename_i given
  rw [not_or, not_or] at given
  obtain ⟨more, alpha, all⟩ := given
  cases read
  cases after : text.dropWhile fun c => decide (c ≠ ':') with
  | nil =>
      rw [after] at more
      exact absurd rfl more
  | cons c others =>
      rw [after] at head whole
      have colon : c = ':' := by simpa using head
      subst colon
      have named : ∀ c ∈ counted before, 32 < c.toNat ∧ isPathChar c = true := by
        simp only [Bool.not_eq_true, Bool.not_eq_false'] at all
        exact fun c member => schemeChar_plain (List.all_eq_true.mp all c member)
      refine ⟨before, whole.symm, free, ?_, ?_, ?_, fun other => ?_⟩
      · intro c member
        by_cases ignored : isIgnored c = true
        · have mark : c = '\t' ∨ c = '\n' ∨ c = '\r' := by simpa [isIgnored] using ignored
          rcases mark with rfl | rfl | rfl <;> rfl
        · exact (named c (List.mem_filter.mpr ⟨member, by simpa using ignored⟩)).2
      · rw [String.toList_ofList]
        cases start : counted before with
        | nil =>
            rw [start] at alpha
            exact absurd rfl alpha
        | cons first rest =>
            refine ⟨first.toLower, rest.map Char.toLower, rfl, ?_⟩
            have large := (named first (start ▸ List.mem_cons_self)).1
            rcases toLower_cases first with same | lower
            · rwa [same]
            · omega
      · rw [String.toList_ofList]
        intro member
        obtain ⟨c, inside, same⟩ := List.mem_map.mp member
        rcases toLower_cases c with plain | lower
        · rw [plain] at same
          subst same
          exact free (counted_subset before inside)
        · rw [same] at lower
          revert lower
          decide
      · have before_free : ∀ c ∈ before, decide (c ≠ ':') = true := by
          intro c member
          refine decide_eq_true ?_
          rintro rfl
          exact free member
        rw [readScheme?, span_stop (by decide), span_all before_free]
        dsimp only
        rw [if_neg]
        · rfl
        · rw [not_or, not_or]
          exact ⟨by simp, alpha, all⟩

def body (url : Url) : List Char :=
  (match url.authority with
    | some authority => "//" ++ authority.text
    | none => if url.path.toList.take 2 = ['/', '/'] then "/." else "").toList ++ url.path.toList

theorem text_toList (url : Url) :
    url.text.toList = url.scheme.toList ++ ':' :: (url.body ++ suffixText url.query url.fragment) := by
  have colon : ":".toList = [':'] := by decide
  have mark : "?".toList = ['?'] := by decide
  have hash : "#".toList = ['#'] := by decide
  obtain ⟨scheme, authority, path, query, fragment⟩ := url
  cases authority <;> cases query <;> cases fragment <;>
    simp [text, origin, body, suffixText, colon, mark, hash]

theorem cut_unique (test : Char → Bool) {first second rest rest' : List Char} {stop stop' : Char}
    (each : ∀ c ∈ first, test c = true) (each' : ∀ c ∈ second, test c = true) (ends : test stop = false)
    (ends' : test stop' = false) (same : first ++ stop :: rest = second ++ stop' :: rest') :
    first = second ∧ rest = rest' := by
  have fronts := congrArg (List.takeWhile test) same
  rw [takeWhile_stop ends, takeWhile_stop ends', List.takeWhile_eq_self_iff.mpr each,
    List.takeWhile_eq_self_iff.mpr each'] at fronts
  subst fronts
  exact ⟨rfl, (List.cons.inj (List.append_cancel_left same)).2⟩

def IsPlain (query : String) : Prop :=
  ∀ c ∈ query.toList, isFormChar c = true ∨ c = '=' ∨ c = '&'

theorem formChar_small {c : Char} (plain : isFormChar c = true) : c.toNat < 128 := by
  have kinds : (((c.isUpper || c.isLower) || c.isDigit) || ['*', '-', '.', '_', '+', '%'].contains c) = true := plain
  simp only [Bool.or_eq_true, List.contains_iff_mem] at kinds
  rcases kinds with ((upper | lower) | digit) | mark
  · exact Nat.lt_of_le_of_lt (of_decide_eq_true upper).2 (by decide : 'Z'.toNat < 128)
  · exact Nat.lt_of_le_of_lt (of_decide_eq_true (Bool.and_eq_true_iff.mp lower).2) (by decide : 'z'.toNat < 128)
  · exact Nat.lt_of_le_of_lt (of_decide_eq_true (Bool.and_eq_true_iff.mp digit).2) (by decide : '9'.toNat < 128)
  · have all : ['*', '-', '.', '_', '+', '%'].all (fun mark => mark.toNat < 128) = true := by decide
    exact of_decide_eq_true (List.all_eq_true.mp all c mark)

theorem plain_query {query : String} (plain : IsPlain query) {c : Char} (member : c ∈ query.toList) :
    32 < c.toNat ∧ c ≠ '#' ∧ ∀ kind, queryReserved kind c = false := by
  have each : ∀ value < 128, isFormChar (Char.ofNat value) = true ∨ Char.ofNat value = '=' ∨
      Char.ofNat value = '&' → 32 < value ∧ Char.ofNat value ≠ '#' ∧
        isSpecialQueryReserved (Char.ofNat value) = false := by
    decide +kernel
  have named := plain c member
  have small : c.toNat < 128 := by
    rcases named with form | rfl | rfl
    · exact formChar_small form
    · decide
    · decide
  have known := each c.toNat small
  rw [Char.ofNat_toNat] at known
  obtain ⟨high, hash, free⟩ := known named
  refine ⟨high, hash, fun kind => ?_⟩
  unfold queryReserved
  split
  · exact free
  · exact (Bool.or_eq_false_iff.mp free).1

theorem formChar_unreserved {c : Char} (plain : isFormChar c = true) : isFragmentReserved c = false := by
  have each : ∀ value < 128, isFormChar (Char.ofNat value) = true →
      isFragmentReserved (Char.ofNat value) = false := by
    decide +kernel
  have known := each c.toNat (formChar_small plain)
  rw [Char.ofNat_toNat] at known
  exact known plain

theorem plain_fragment {c : Char} (plain : isFragmentReserved c = false) : 32 < c.toNat := by
  by_contra low
  have each : ∀ value < 33, isFragmentReserved (Char.ofNat value) = true := by decide
  have reserved := each c.toNat (by omega)
  rw [Char.ofNat_toNat, plain] at reserved
  cases reserved

theorem counted_eq {text : List Char} (high : ∀ c ∈ text, 32 < c.toNat) : counted text = text := by
  refine List.filter_eq_self.mpr fun c member => ?_
  have large := high c member
  have kept : isIgnored c = false := by
    refine Bool.eq_false_iff.mpr fun ignored => ?_
    have mark : c = '\t' ∨ c = '\n' ∨ c = '\r' := by simpa [isIgnored] using ignored
    rcases mark with rfl | rfl | rfl <;> revert large <;> decide
  rw [kept]
  rfl

section

variable {query : String} {fragment : Option String}

theorem suffixText_high (plain : IsPlain query)
    (fragments : ∀ text ∈ fragment, ∀ c ∈ text.toList, isFragmentReserved c = false) :
    ∀ c ∈ suffixText (some query) fragment, 32 < c.toNat := by
  intro c member
  rcases List.mem_append.mp member with first | second
  · rcases List.mem_cons.mp first with rfl | inside
    · decide
    · exact (plain_query plain inside).1
  · cases fragment with
    | none => cases second
    | some text =>
        rcases List.mem_cons.mp second with rfl | inside
        · decide
        · exact plain_fragment (fragments text rfl c inside)

theorem readSuffix_text (kind : SchemeKind) (plain : IsPlain query)
    (fragments : ∀ text ∈ fragment, ∀ c ∈ text.toList, isFragmentReserved c = false) :
    readSuffix kind (suffixText (some query) fragment) = (some query, fragment) := by
  have free : ∀ c ∈ '?' :: query.toList, decide (c ≠ '#') = true := by
    intro c member
    refine decide_eq_true ?_
    rcases List.mem_cons.mp member with rfl | inside
    · decide
    · exact (plain_query plain inside).2.1
  have encoded : percentEncode (queryReserved kind) query.toList = query.toList :=
    percentEncode_plain fun c inside => (plain_query plain inside).2.2 kind
  unfold queryReserved at encoded
  simp only [readSuffix]
  rw [counted_eq (suffixText_high plain fragments)]
  cases fragment with
  | none =>
      have text : suffixText (some query) none = '?' :: query.toList := List.append_nil _
      rw [text, span_all free]
      simp only [encoded, String.ofList_toList]
  | some text =>
      have shape : suffixText (some query) (some text) = ('?' :: query.toList) ++ '#' :: text.toList := rfl
      rw [shape, span_stop (by decide), span_all free, List.nil_append]
      simp only [encoded, percentEncode_plain (fragments text rfl), String.ofList_toList]

end

theorem stop_high {mark : Char} (ends : isPathChar mark = false) : 32 < mark.toNat := by
  rcases isPathChar_stop ends with rfl | rfl <;> decide

/-- How a URL is read from its own text, with any query. -/
structure Rereads (url : Url) : Prop where
  high : ∀ c ∈ url.scheme.toList.head?, 32 < c.toNat
  scheme : ∀ rest, readScheme? (url.scheme.toList ++ ':' :: rest) = some (url.scheme, rest)
  suffix : ∀ mark rest, isPathChar mark = false → readAfterScheme url.scheme (url.body ++ mark :: rest) =
    .ok (withSuffix (kindOf url.scheme) (mark :: rest) url)
  fragment : ∀ text ∈ url.fragment, ∀ c ∈ text.toList, isFragmentReserved c = false

theorem rereads_of_canonical {url : Url} (canonical : read url.text = .ok url)
    (given : url.query.isSome) : Rereads url := by
  obtain ⟨first, last, parts, low, low'⟩ := trimmed_parts url.text
  unfold read at canonical
  split at canonical
  swap
  · cases canonical
  rename_i scheme rest named
  obtain ⟨before, cut, free, path, ⟨letter, letters, spelled, high⟩, free', again⟩ := readScheme_ok named
  rw [cut, text_toList] at parts
  -- All marks of the text are behind its scheme.
  have counts {mark : Char} (ends : isPathChar mark = false) :
      url.scheme.toList.count mark + url.body.count mark +
        (suffixText url.query url.fragment).count mark = rest.count mark := by
    have outer {text : List Char} (low : ∀ c ∈ text, c.toNat ≤ 32) : text.count mark = 0 :=
      List.count_eq_zero.mpr fun member => absurd (stop_high ends) (Nat.not_lt.mpr (low mark member))
    have named : before.count mark = 0 := by
      refine List.count_eq_zero.mpr fun member => ?_
      rw [path mark member] at ends
      cases ends
    have other : ¬(':' == mark) = true := by rcases isPathChar_stop ends with rfl | rfl <;> decide
    have same := congrArg (List.count mark) parts
    simp only [List.count_append, List.count_cons, outer low, outer low', named, if_neg other] at same
    omega
  obtain ⟨old, given⟩ := Option.isSome_iff_exists.mp given
  have marked : '?' ∈ rest := by
    have counted : _ = rest.count '?' := counts rfl
    rw [given, suffixText, Option.elim, List.cons_append, List.count_cons_self] at counted
    exact List.count_pos_iff.mp (by omega)
  -- Before its first mark the rest is read whatever follows.
  have whole := List.takeWhile_append_dropWhile (p := isPathChar) (l := rest)
  have front : IsFront (rest.takeWhile isPathChar) := fun c member => List.mem_takeWhile_imp member
  have head := List.head?_dropWhile_not isPathChar rest
  generalize rest.takeWhile isPathChar = beginning at whole front
  cases after : rest.dropWhile isPathChar with
  | nil =>
      rw [after, List.append_nil] at whole
      exact absurd (front '?' (whole ▸ marked)) (by decide)
  | cons stop tail =>
      rw [after] at whole head
      have ends : isPathChar stop = false := head
      obtain ⟨result, kept, reads⟩ := readAfterScheme_suffix scheme front
      have read := (reads stop tail ends).symm.trans (whole ▸ canonical)
      obtain ⟨start, rfl, made⟩ := map_ok read
      have same : scheme = url.scheme := by
        rw [← made]
        exact (kept start rfl).symm
      subst same
      obtain ⟨query, fragment, _, _, suffix⟩ := readSuffix_parts (kindOf url.scheme) ends tail
      have read_query : url.query = (readSuffix (kindOf url.scheme) (stop :: tail)).1 :=
        congrArg Url.query made.symm
      have read_fragment : url.fragment = (readSuffix (kindOf url.scheme) (stop :: tail)).2 :=
        congrArg Url.fragment made.symm
      have bodied : IsFront url.body := by
        intro mark member
        by_contra stops
        have stops := Bool.eq_false_iff.mpr stops
        have counted := counts stops
        have none : beginning.count mark = 0 := by
          refine List.count_eq_zero.mpr fun inside => ?_
          rw [front mark inside] at stops
          cases stops
        have more := List.count_pos_iff.mpr member
        rw [read_query, read_fragment, count_readSuffix _ ends stops, ← whole, List.count_append, none] at counted
        omega
      -- The text is cut where it is put together.
      have unblank : first = [] := by
        cases first with
        | nil => rfl
        | cons c others =>
            rw [spelled] at parts
            have small := low c List.mem_cons_self
            rw [← (List.cons.inj parts).1] at small
            omega
      rw [unblank, List.nil_append, List.append_assoc] at parts
      have others {text : List Char} (free : ':' ∉ text) : ∀ c ∈ text, decide (c ≠ ':') = true := by
        intro c member
        refine decide_eq_true ?_
        rintro rfl
        exact free member
      obtain ⟨schemes, rests⟩ :=
        cut_unique (fun c => decide (c ≠ ':')) (others free') (others free) rfl rfl parts
      have bodies : url.body = beginning := by
        have behind : url.body ++ suffixText url.query url.fragment = rest ++ last := rests
        rw [given, ← whole, List.append_assoc] at behind
        exact (cut_unique isPathChar bodied front rfl ends behind).1
      refine ⟨?_, ?_, fun mark rest stops => ?_, ?_⟩
      · rw [spelled]
        intro c head
        cases head
        exact high
      · rw [schemes]
        exact again
      · rw [bodies]
        have again := congrArg (withSuffix (kindOf url.scheme) (mark :: rest)) made
        exact (reads mark rest stops).trans (congrArg Except.ok again)
      · rw [read_fragment, suffix]
        intro text member c inside
        obtain ⟨source, _, rfl⟩ := Option.map_eq_some_iff.mp member
        rw [String.toList_ofList] at inside
        rcases mem_percentEncode inside with kept | form
        · exact kept.2
        · exact formChar_unreserved form

/-- A URL that is read from its own text is read from its text with another query as well. -/
theorem read_query {url : Url} (canonical : read url.text = .ok url) (given : url.query.isSome)
    {query : String} (plain : IsPlain query) :
    read { url with query := some query }.text = .ok { url with query := some query } := by
  have ⟨high, named, suffixed, fragments⟩ := rereads_of_canonical canonical given
  let characters := url.scheme.toList ++ ':' :: (url.body ++ suffixText (some query) url.fragment)
  have written : ({ url with query := some query } : Url).text = String.ofList characters := by
    rw [← String.toList_inj, String.toList_ofList]
    exact text_toList { url with query := some query }
  have whole : trimmed (String.ofList characters) = characters := by
    refine trimmed_eq ?_ ?_
    · intro c first
      simp only [characters] at first
      cases spelled : url.scheme.toList with
      | nil =>
          rw [spelled] at first
          cases first
          decide
      | cons letter letters =>
          rw [spelled] at first high
          exact high c first
    · intro c last
      apply suffixText_high plain fragments
      have given : suffixText (some query) url.fragment ≠ [] := List.cons_ne_nil _ _
      have same : characters.getLast? = (suffixText (some query) url.fragment).getLast? := by
        rw [List.getLast?_append_of_ne_nil _ (List.cons_ne_nil _ _), ← List.singleton_append,
          List.getLast?_append_of_ne_nil, List.getLast?_append_of_ne_nil _ given]
        exact List.append_ne_nil_of_right_ne_nil _ given
      rw [same] at last
      exact List.mem_of_getLast? last
  unfold read
  rw [written, whole, named]
  refine (suffixed '?' _ rfl).trans (congrArg Except.ok ?_)
  have same : readSuffix (kindOf url.scheme) ('?' :: _) = (some query, url.fragment) :=
    readSuffix_text (kindOf url.scheme) plain fragments
  unfold withSuffix
  rw [same]

end ResourceServer.Url
