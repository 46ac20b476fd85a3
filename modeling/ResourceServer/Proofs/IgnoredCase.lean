import Mathlib.Algebra.Order.BigOperators.Group.List
import Mathlib.Algebra.Order.Group.Nat
import ResourceServer.Store.Pattern

/-! Patterns without regard to case. Both sides are put in lower case as a whole before they are compared, so what
becomes of a character may depend on its neighbours, which a wildcard hides, and a character may become two. -/

namespace ResourceServer.Store

open ResourceServer.Text

def isWildcard (c : Char) : Bool :=
  c = '%' || c = '_'

/-- A text fits a pattern, whose underscores stand for certain characters only. -/
inductive Fits (single : Char → Prop) : List Char → List Char → Prop
  | nil : Fits single [] []
  | done {pattern text : List Char} (rest : Fits single pattern text) : Fits single ('%' :: pattern) text
  | stretch {pattern text : List Char} {c : Char} (rest : Fits single ('%' :: pattern) text) :
      Fits single ('%' :: pattern) (c :: text)
  | one {pattern text : List Char} {c : Char} (stands : single c) (rest : Fits single pattern text) :
      Fits single ('_' :: pattern) (c :: text)
  | same {pattern text : List Char} {c : Char} (plain : isWildcard c = false) (rest : Fits single pattern text) :
      Fits single (c :: pattern) (c :: text)

/-- What comes into sight first past case-ignorable characters: a cased character, another one or the end, or a
wildcard, of which nothing is known. -/
def sight : List Char → Option Bool
  | [] => some false
  | c :: rest => if isWildcard c then none else if isCaseIgnorable c then sight rest else some (isCased c)

/-- With these in sight to its left and its right, a capital sigma has the same form in lower case whatever wildcards
stand for. -/
def settles : Option Bool → Option Bool → Bool
  | some true, none => false
  | none, some false => false
  | none, none => false
  | _, _ => true

/-- Each capital sigma of a pattern is settled, where the pattern follows the characters of `before`, last first. -/
def sigmasSettled (before : List Char) : List Char → Bool
  | [] => true
  | c :: rest => (c ≠ 'Σ' || settles (sight before) (sight rest)) && sigmasSettled (c :: before) rest

section

variable {single : Char → Prop} {pattern text : List Char}

theorem someEnd_iff {test : List Char → Bool} :
    someEnd test text = true ↔ ∃ front back, text = front ++ back ∧ test back := by
  induction text with
  | nil => simp [someEnd]
  | cons c rest ih =>
      rw [someEnd, Bool.or_eq_true, ih]
      constructor
      · rintro (whole | ⟨front, back, rfl, passed⟩)
        · exact ⟨[], _, rfl, whole⟩
        · exact ⟨c :: front, back, rfl, passed⟩
      · rintro ⟨front, back, same, passed⟩
        cases front with
        | nil =>
            rw [same]
            exact .inl passed
        | cons d front =>
            cases same
            exact .inr ⟨front, back, rfl, passed⟩

theorem Fits.stretch_append (fits : Fits single ('%' :: pattern) text) (front : List Char) :
    Fits single ('%' :: pattern) (front ++ text) := by
  induction front with
  | nil => exact fits
  | cons c rest ih => exact .stretch ih

theorem fits_stretched (fits : Fits single ('%' :: pattern) text) :
    ∃ front back, text = front ++ back ∧ Fits single pattern back := by
  induction text with
  | nil =>
      cases fits with
      | done rest => exact ⟨[], [], rfl, rest⟩
  | cons c text ih =>
      cases fits with
      | done rest => exact ⟨[], _, rfl, rest⟩
      | stretch rest =>
          obtain ⟨front, back, rfl, fits⟩ := ih rest
          exact ⟨c :: front, back, rfl, fits⟩
      | same plain _ => cases plain

theorem isWildcard_iff {c : Char} : isWildcard c = true ↔ c = '%' ∨ c = '_' := by
  simp [isWildcard]

theorem matchPattern_plain {c : Char} (plain : isWildcard c = false) :
    matchPattern (c :: pattern) text = true ↔ ∃ rest, text = c :: rest ∧ matchPattern pattern rest = true := by
  have apart : c ≠ '%' ∧ c ≠ '_' := by simpa [isWildcard] using plain
  cases text with
  | nil => simp [matchPattern, apart.1, apart.2]
  | cons d rest =>
      rw [matchPattern.eq_6 _ _ _ _ apart.1 apart.2, Bool.and_eq_true, beq_iff_eq]
      simp [and_assoc]

theorem matchPattern_iff : matchPattern pattern text = true ↔ Fits (fun _ => True) pattern text := by
  induction pattern generalizing text with
  | nil =>
      rw [matchPattern, List.isEmpty_iff]
      exact ⟨fun empty => by rw [empty]; exact .nil, fun | .nil => rfl⟩
  | cons c pattern ih =>
      cases wild : isWildcard c with
      | false =>
          rw [matchPattern_plain wild]
          constructor
          · rintro ⟨rest, rfl, matched⟩
            exact .same wild (ih.mp matched)
          · intro fits
            cases fits with
            | done | stretch | one => cases wild
            | same _ rest => exact ⟨_, rfl, ih.mpr rest⟩
      | true =>
          rcases isWildcard_iff.mp wild with rfl | rfl
          · rw [matchPattern, someEnd_iff]
            constructor
            · rintro ⟨front, back, rfl, matched⟩
              exact (Fits.done (ih.mp matched)).stretch_append front
            · intro fits
              obtain ⟨front, back, same, rest⟩ := fits_stretched fits
              exact ⟨front, back, same, ih.mpr rest⟩
          · constructor
            · intro matched
              cases text with
              | nil => cases matched
              | cons d rest => exact .one trivial (ih.mp matched)
            · intro fits
              cases fits with
              | one _ rest => exact ih.mpr rest
              | same plain _ => cases plain

theorem Fits.cons (c : Char) (fits : Fits (fun _ => True) pattern text) :
    Fits (fun _ => True) (c :: pattern) (c :: text) := by
  cases wild : isWildcard c with
  | false => exact .same wild fits
  | true =>
      rcases isWildcard_iff.mp wild with rfl | rfl
      · exact .stretch (.done fits)
      · exact .one trivial fits

theorem Fits.of_none {single' : Char → Prop} (fits : Fits single pattern text) (none : '_' ∉ pattern) :
    Fits single' pattern text := by
  induction fits with
  | nil => exact .nil
  | done _ ih => exact .done (ih (fun among => none (List.mem_cons_of_mem _ among)))
  | stretch _ ih => exact .stretch (ih none)
  | one _ _ _ => exact absurd List.mem_cons_self none
  | same plain _ ih => exact .same plain (ih (fun among => none (List.mem_cons_of_mem _ among)))

/-! What is in sight. -/

theorem sight_plain {c : Char} (plain : isWildcard c = false) (rest : List Char) :
    sight (c :: rest) = if isCaseIgnorable c then sight rest else some (isCased c) := by
  rw [sight, plain]
  rfl

theorem sight_wildcard {c : Char} (wild : isWildcard c = true) (rest : List Char) : sight (c :: rest) = none := by
  rw [sight, wild]
  rfl

theorem meetsCased_cons (c : Char) (rest : List Char) :
    meetsCased (c :: rest) = if isCaseIgnorable c then meetsCased rest else isCased c := by
  unfold meetsCased
  rw [List.dropWhile_cons]
  cases isCaseIgnorable c <;> rfl

theorem wildcard_uncased {c : Char} (wild : isWildcard c = true) : isCaseIgnorable c = false ∧ isCased c = false := by
  rcases isWildcard_iff.mp wild with rfl | rfl <;> decide +kernel

theorem meetsCased_pattern (pattern : List Char) : meetsCased pattern = (sight pattern).getD false := by
  induction pattern with
  | nil => rfl
  | cons c rest ih =>
      cases wild : isWildcard c with
      | false =>
          rw [sight_plain wild, meetsCased_cons, ih]
          split <;> rfl
      | true =>
          rw [sight_wildcard wild, meetsCased_cons]
          obtain ⟨seen, uncased⟩ := wildcard_uncased wild
          rw [seen, uncased]
          rfl

theorem Fits.sight {shown : Bool} (fits : Fits single pattern text) (seen : sight pattern = some shown) :
    meetsCased text = shown := by
  induction fits with
  | nil => exact Option.some.inj seen
  | done | stretch | one => cases seen
  | same plain _ ih =>
      rw [sight_plain plain] at seen
      rw [meetsCased_cons]
      split at seen
      · rename_i ignored
        rw [if_pos ignored]
        exact ih seen
      · rename_i plain
        rw [if_neg plain]
        exact Option.some.inj seen

/-! Lower case. -/

def lowered (before : List Char) (c : Char) (after : List Char) : List Char :=
  if c = 'Σ' then [if meetsCased before && !meetsCased after then 'ς' else 'σ']
  else if c = 'İ' then ['i', Char.ofNat 0x307]
  else [lowerChar c]

theorem lowerChars_cons (before : List Char) (c : Char) (rest : List Char) :
    lowerChars before (c :: rest) = lowered before c rest ++ lowerChars (c :: before) rest :=
  rfl

theorem lowered_other {c : Char} (other : c ≠ 'Σ') (before after : List Char) :
    lowered before c after = lowered [] c [] := by
  rw [lowered, lowered, if_neg other, if_neg other]

theorem lowered_single {c : Char} (single : c ≠ 'İ') (before after : List Char) :
    ∃ d, lowered before c after = [d] := by
  unfold lowered
  rw [if_neg single]
  split <;> exact ⟨_, rfl⟩

theorem lowered_wildcard {c : Char} (wild : isWildcard c = true) (before after : List Char) :
    lowered before c after = [c] := by
  rcases isWildcard_iff.mp wild with rfl | rfl
  · rw [lowered_other (by decide)]
    decide
  · rw [lowered_other (by decide)]
    decide

theorem final_same {before after front back : List Char} (settled : settles (sight before) (sight after))
    (left : ∀ shown, sight before = some shown → meetsCased front = shown)
    (right : ∀ shown, sight after = some shown → meetsCased back = shown) :
    (meetsCased before && !meetsCased after) = (meetsCased front && !meetsCased back) := by
  rw [meetsCased_pattern before, meetsCased_pattern after]
  cases one : sight before with
  | none =>
      cases other : sight after with
      | none =>
          rw [one, other] at settled
          cases settled
      | some shown =>
          rw [right shown other]
          cases shown with
          | false =>
              rw [one, other] at settled
              cases settled
          | true => simp
  | some shown =>
      rw [left shown one]
      cases other : sight after with
      | none =>
          rw [one, other] at settled
          cases shown with
          | false => rfl
          | true => cases settled
      | some shown' =>
          rw [right shown' other]
          rfl

theorem settled_tail {before : List Char} {c : Char} (settled : sigmasSettled before (c :: pattern)) :
    sigmasSettled (c :: before) pattern :=
  (Bool.and_eq_true_iff.mp settled).2

theorem settled_here {before : List Char} (settled : sigmasSettled before ('Σ' :: pattern)) :
    settles (sight before) (sight pattern) :=
  (Bool.and_eq_true_iff.mp settled).1

theorem exists_unsettled {before : List Char} (unsettled : ¬sigmasSettled before pattern) :
    ∃ between after, pattern = between ++ 'Σ' :: after ∧
      settles (sight (between.reverse ++ before)) (sight after) = false := by
  induction pattern generalizing before with
  | nil => exact absurd rfl unsettled
  | cons c rest ih =>
      rw [sigmasSettled, Bool.and_eq_true, not_and_or] at unsettled
      rcases unsettled with here | later
      · simp only [Bool.or_eq_true, not_or, decide_eq_true_eq, not_not, Bool.not_eq_true] at here
        exact ⟨[], rest, by rw [here.1]; rfl, here.2⟩
      · obtain ⟨between, after, rfl, unsettled⟩ := ih later
        refine ⟨c :: between, after, rfl, ?_⟩
        rwa [List.reverse_cons, List.append_assoc, List.singleton_append]

def Shows (before front : List Char) : Prop :=
  ∀ shown, sight before = some shown → meetsCased front = shown

theorem shows_wildcard {c : Char} (wild : isWildcard c = true) (before front : List Char) :
    Shows (c :: before) front := by
  intro shown seen
  rw [sight_wildcard wild] at seen
  cases seen

theorem Shows.cons {before front : List Char} {c : Char} (plain : isWildcard c = false) (shows : Shows before front) :
    Shows (c :: before) (c :: front) := by
  intro shown seen
  rw [sight_plain plain] at seen
  rw [meetsCased_cons]
  split at seen
  · rename_i ignored
    rw [if_pos ignored]
    exact shows shown seen
  · rename_i given
    rw [if_neg given]
    exact Option.some.inj seen

/-- In lower case a text fits a pattern that it fits, if all sigmas of the pattern are settled and no underscore stands
for a character that becomes two. -/
theorem fits_lower (fits : Fits (· ≠ 'İ') pattern text) {before front : List Char}
    (settled : sigmasSettled before pattern) (shows : (∀ rest, pattern ≠ '%' :: rest) → Shows before front) :
    Fits (fun _ => True) (lowerChars before pattern) (lowerChars front text) := by
  induction fits generalizing before front with
  | nil => exact .nil
  | done _ ih =>
      rw [lowerChars_cons, lowered_wildcard rfl]
      exact .done (ih (settled_tail settled) fun _ => shows_wildcard rfl before front)
  | @stretch pattern text c _ ih =>
      -- the pattern stays at the percent sign, which shows nothing to what follows it
      have rest : Fits _ _ (lowerChars (c :: front) text) := ih settled fun other => absurd rfl (other pattern)
      rw [lowerChars_cons, lowered_wildcard rfl] at rest ⊢
      rw [lowerChars_cons front]
      exact rest.stretch_append _
  | @one pattern text c stands _ ih =>
      obtain ⟨d, become⟩ := lowered_single stands front text
      rw [lowerChars_cons, lowered_wildcard rfl, lowerChars_cons, become]
      exact .one trivial (ih (settled_tail settled) fun _ => shows_wildcard rfl before _)
  | @same pattern text c plain rest ih =>
      have apart : ∀ rest, c :: pattern ≠ '%' :: rest := by
        rintro rest same
        cases same
        cases plain
      have alike := shows apart
      have become : lowered before c pattern = lowered front c text := by
        by_cases sigma : c = 'Σ'
        · subst sigma
          have final : (meetsCased before && !meetsCased pattern) = (meetsCased front && !meetsCased text) :=
            final_same (settled_here settled) alike fun shown seen => rest.sight seen
          rw [lowered, lowered, final]
        · rw [lowered_other sigma, lowered_other sigma front]
      have later := ih (settled_tail settled) fun _ => alike.cons plain
      rw [lowerChars_cons, lowerChars_cons, become]
      generalize lowered front c text = both
      induction both with
      | nil => exact later
      | cons d both more => exact more.cons d

/-! Texts that do not fit any more. -/

def fill (filler c : Char) : Char :=
  if isWildcard c then filler else c

theorem Fits.filled {filler : Char} (stands : single filler) (fits : Fits single pattern text) (front : List Char) :
    Fits single (front ++ pattern) (front.map (fill filler) ++ text) := by
  induction front with
  | nil => exact fits
  | cons c rest ih =>
      rw [List.map_cons, List.cons_append, List.cons_append, fill]
      cases wild : isWildcard c with
      | false => exact .same wild ih
      | true =>
          rcases isWildcard_iff.mp wild with rfl | rfl
          · exact .stretch (.done ih)
          · exact .one stands ih

theorem meetsCased_filled {filler : Char} (seen : isCaseIgnorable filler = false) (pattern : List Char) :
    meetsCased (pattern.map (fill filler)) = (sight pattern).getD (isCased filler) := by
  induction pattern with
  | nil => rfl
  | cons c rest ih =>
      rw [List.map_cons, meetsCased_cons, fill]
      cases wild : isWildcard c with
      | false =>
          rw [if_neg Bool.false_ne_true, sight_plain wild, ih]
          split <;> rfl
      | true =>
          rw [if_pos rfl, sight_wildcard wild, seen]
          rfl

section

variable {counts : Char → Bool} (alike : counts 'σ' = counts 'ς')
include alike

theorem lowered_count (before : List Char) (c : Char) (after : List Char) :
    (lowered before c after).countP counts = (lowered [] c []).countP counts := by
  by_cases sigma : c = 'Σ'
  · subst sigma
    rw [lowered, lowered, if_pos rfl, if_pos rfl]
    split <;> split <;> simp [alike]
  · rw [lowered_other sigma]

theorem lowerChars_append (before first second : List Char) :
    ∃ front, lowerChars before (first ++ second) = front ++ lowerChars (first.reverse ++ before) second ∧
      front.countP counts = (first.flatMap fun c => lowered [] c []).countP counts := by
  induction first generalizing before with
  | nil => exact ⟨[], rfl, rfl⟩
  | cons c rest ih =>
      obtain ⟨front, same, count⟩ := ih (c :: before)
      refine ⟨lowered before c (rest ++ second) ++ front, ?_, ?_⟩
      · rw [List.cons_append, lowerChars_cons, same, List.append_assoc, List.reverse_cons, List.append_assoc]
        rfl
      · rw [List.countP_append, lowered_count alike, count, List.flatMap_cons, List.countP_append]

theorem lowerChars_count (before text : List Char) :
    (lowerChars before text).countP counts = (text.flatMap fun c => lowered [] c []).countP counts := by
  obtain ⟨front, same, count⟩ := lowerChars_append alike before text []
  rw [List.append_nil] at same
  rw [same, ← count]
  exact congrArg _ (List.append_nil front)

end

def isSmallSigma (c : Char) : Bool :=
  c = 'σ' || c = 'ς'

theorem fits_sigmas (fits : Fits single pattern text) :
    (pattern.filter isSmallSigma).Sublist (text.filter isSmallSigma) := by
  induction fits with
  | nil => exact .slnil
  | done _ ih => exact ih
  | stretch _ ih => exact ih.trans ((List.sublist_cons_self _ _).filter _)
  | one _ _ ih => exact ih.trans ((List.sublist_cons_self _ _).filter _)
  | same _ _ ih =>
      rw [List.filter_cons, List.filter_cons]
      split
      · exact ih.cons_cons _
      · exact ih

theorem filled_sigmas {filler : Char} (other : (lowered [] filler []).countP isSmallSigma = 0) (pattern : List Char) :
    ((pattern.map (fill filler)).flatMap fun c => lowered [] c []).countP isSmallSigma =
      (pattern.flatMap fun c => lowered [] c []).countP isSmallSigma := by
  induction pattern with
  | nil => rfl
  | cons c rest ih =>
      rw [List.map_cons, List.flatMap_cons, List.flatMap_cons, List.countP_append, List.countP_append, ih, fill]
      cases wild : isWildcard c with
      | false => rfl
      | true =>
          rw [if_pos rfl, other, lowered_wildcard wild]
          rcases isWildcard_iff.mp wild with rfl | rfl <;> rfl

def smallSigma (final : Bool) : Char :=
  if final then 'ς' else 'σ'

theorem smallSigma_injective : Function.Injective smallSigma := by
  intro one other same
  cases one <;> cases other <;> first | rfl | cases same

theorem lowered_sigma (before after : List Char) :
    (lowered before 'Σ' after).filter isSmallSigma = [smallSigma (meetsCased before && !meetsCased after)] := by
  rw [lowered, if_pos rfl]
  cases meetsCased before && !meetsCased after <;> rfl

theorem sigma_apart {before after : List Char} {left right : Char}
    (leftOther : (lowered [] left []).countP isSmallSigma = 0)
    (rightOther : (lowered [] right []).countP isSmallSigma = 0)
    (differs : (meetsCased before.reverse && !meetsCased after) ≠
      (meetsCased (before.map (fill left)).reverse && !meetsCased (after.map (fill right)))) :
    ¬Fits single (lowerChars [] (before ++ 'Σ' :: after))
      (lowerChars [] (before.map (fill left) ++ 'Σ' :: after.map (fill right))) := by
  intro fits
  have alike : isSmallSigma 'σ' = isSmallSigma 'ς' := rfl
  obtain ⟨front, own, count⟩ := lowerChars_append alike [] before ('Σ' :: after)
  obtain ⟨front', own', count'⟩ :=
    lowerChars_append alike [] (before.map (fill left)) ('Σ' :: after.map (fill right))
  rw [filled_sigmas leftOther, ← count, List.countP_eq_length_filter, List.countP_eq_length_filter] at count'
  have total := lowerChars_count alike ('Σ' :: before.reverse) after
  have total' := lowerChars_count alike ('Σ' :: (before.map (fill left)).reverse) (after.map (fill right))
  rw [filled_sigmas rightOther, ← total, List.countP_eq_length_filter, List.countP_eq_length_filter] at total'
  have sublist := fits_sigmas fits
  rw [own, own', lowerChars_cons, lowerChars_cons, List.filter_append, List.filter_append, List.filter_append,
    List.filter_append, lowered_sigma, lowered_sigma, List.append_nil, List.append_nil] at sublist
  have whole := sublist.eq_of_length (by simp only [List.length_append, List.length_singleton, count', total'])
  obtain ⟨_, behind⟩ := List.append_inj whole count'.symm
  exact differs (smallSigma_injective (List.cons.inj behind).1)

theorem unsettled_refuted (unsettled : ¬sigmasSettled [] pattern) :
    ∃ text, Fits (· ≠ 'İ') pattern text ∧
      ¬Fits (fun _ => True) (lowerChars [] pattern) (lowerChars [] text) := by
  obtain ⟨before, after, rfl, hidden⟩ := exists_unsettled unsettled
  rw [List.append_nil] at hidden
  -- letters left of the sigma make it final, and a letter right of it prevents that
  obtain ⟨right, stands, seen, other, cased⟩ : ∃ right, right ≠ 'İ' ∧ isCaseIgnorable right = false ∧
      (lowered [] right []).countP isSmallSigma = 0 ∧
      isCased right = decide (sight before.reverse = some true) := by
    by_cases letter : sight before.reverse = some true
    · refine ⟨'a', by decide, by decide +kernel, by decide, ?_⟩
      rw [decide_eq_true letter]
      decide
    · refine ⟨' ', by decide, by decide +kernel, by decide, ?_⟩
      rw [decide_eq_false letter]
      decide
  have letter : isCaseIgnorable 'a' = false ∧ isCased 'a' = true ∧
      (lowered [] 'a' []).countP isSmallSigma = 0 := by decide +kernel
  refine ⟨before.map (fill 'a') ++ 'Σ' :: after.map (fill right), ?_, sigma_apart letter.2.2 other ?_⟩
  · have behind : Fits (· ≠ 'İ') (after ++ []) (after.map (fill right) ++ []) :=
      Fits.filled (by exact stands) .nil after
    rw [List.append_nil, List.append_nil] at behind
    exact Fits.filled (by decide) (.same rfl behind) before
  · rw [← List.map_reverse, meetsCased_filled letter.1, meetsCased_filled seen, meetsCased_pattern before.reverse,
      meetsCased_pattern after, letter.2.1, cased]
    cases left : sight before.reverse with
    | none =>
        cases behind : sight after with
        | none => decide
        | some shown =>
            rw [left, behind] at hidden
            cases shown with
            | false => decide
            | true => exact absurd hidden (by decide)
    | some shown =>
        cases behind : sight after with
        | none =>
            rw [left, behind] at hidden
            cases shown with
            | false => exact absurd hidden (by decide)
            | true => decide
        | some shown' =>
            rw [left, behind] at hidden
            cases shown <;> cases shown' <;> exact absurd hidden (by decide)

/-! Underscores. -/

theorem lowerChar_percent {c : Char} (become : lowerChar c = '%') : c = '%' := by
  have beyond : ∀ run ∈ lowercaseRuns, (0x25 : Int) < run.1 + run.2.2.2 := by decide +kernel
  unfold lowerChar at become
  dsimp only at become
  split at become
  · rename_i first last step distance found
    have above : (0x25 : Int) < first + distance := beyond _ (List.mem_of_find?_eq_some found)
    have inside := List.find?_some found
    simp only [Bool.and_eq_true, decide_eq_true_eq] at inside
    by_cases valid : ((c.toNat : Int) + distance).toNat.isValidChar
    · have same : Char.ofNat ((c.toNat : Int) + distance).toNat = Char.ofNatAux _ valid := dif_pos valid
      have number : ((c.toNat : Int) + distance).toNat = 0x25 := congrArg Char.toNat (same.symm.trans become)
      omega
    · have same : Char.ofNat ((c.toNat : Int) + distance).toNat = '\x00' := dif_neg valid
      cases congrArg Char.toNat (same.symm.trans become)
  · exact become

theorem percent_lowered {before after : List Char} {c : Char} (among : '%' ∈ lowered before c after) : c = '%' := by
  unfold lowered at among
  split at among
  · have same := List.mem_singleton.mp among
    split at same <;> cases same
  split at among
  · exact absurd among (by decide)
  · exact lowerChar_percent (List.mem_singleton.mp among).symm

theorem percent_lowerChars {before : List Char} (among : '%' ∈ lowerChars before text) : '%' ∈ text := by
  induction text generalizing before with
  | nil => cases among
  | cons c rest ih =>
      rw [lowerChars_cons] at among
      rcases List.mem_append.mp among with own | later
      · rw [percent_lowered own]
        exact List.mem_cons_self
      · exact List.mem_cons_of_mem _ (ih later)

theorem Fits.length_eq (fits : Fits single pattern text) (none : '%' ∉ pattern) : pattern.length = text.length := by
  induction fits with
  | nil => rfl
  | done | stretch => exact absurd List.mem_cons_self none
  | one _ _ ih | same _ _ ih => exact congrArg Nat.succ (ih fun among => none (List.mem_cons_of_mem _ among))

theorem underscore_refuted (wild : '_' ∈ pattern) (none : '%' ∉ pattern) :
    ∃ text, Fits (fun _ => True) pattern text ∧
      ¬Fits (fun _ => True) (lowerChars [] pattern) (lowerChars [] text) := by
  refine ⟨pattern.map (fill 'İ'), ?_, fun fits => ?_⟩
  · have filled : Fits (fun _ => True) (pattern ++ []) (pattern.map (fill 'İ') ++ []) :=
      Fits.filled trivial .nil pattern
    rwa [List.append_nil, List.append_nil] at filled
  · have lengths := fits.length_eq fun among => none (percent_lowerChars among)
    have alike : (fun _ : Char => true) 'σ' = (fun _ : Char => true) 'ς' := rfl
    rw [← List.countP_true, lowerChars_count alike, lowerChars_count alike, List.countP_true,
      List.length_flatMap, List.length_flatMap, List.map_map] at lengths
    refine absurd lengths (ne_of_lt (List.sum_lt_sum _ _ (fun c _ => ?_) ⟨'_', wild, by decide⟩))
    rw [Function.comp, fill]
    split
    · rename_i other
      rw [lowered_wildcard other]
      exact (by decide : 1 ≤ 2)
    · exact le_rfl

/-! Patterns and texts. -/

theorem isLike_iff {pattern text : String} :
    isLike false pattern text = true ↔ Fits (fun _ => True) pattern.toList text.toList :=
  matchPattern_iff

theorem isLike_lower_iff {pattern text : String} : isLike true pattern text = true ↔
    Fits (fun _ => True) (lowerChars [] pattern.toList) (lowerChars [] text.toList) :=
  matchPattern_iff

/-- A text that is like a pattern is so too if case is ignored, unless one of two things happens: a wildcard hides what
decides over the form of a capital sigma, or an underscore stands for a dotted capital I, which becomes two characters.
So for patterns without underscores the sigmas alone decide, and for those with underscores but no percent signs there
always is a text that is lost. -/
theorem ignoring_case_keeps_iff (pattern : String) :
    ((∀ text : String, Fits (· ≠ 'İ') pattern.toList text.toList → isLike true pattern text = true) ↔
        sigmasSettled [] pattern.toList) ∧
      ('_' ∉ pattern.toList →
        ((∀ text : String, isLike false pattern text = true → isLike true pattern text = true) ↔
          sigmasSettled [] pattern.toList)) ∧
      ('_' ∈ pattern.toList → '%' ∉ pattern.toList →
        ∃ text : String, isLike false pattern text = true ∧ isLike true pattern text = false) := by
  have kept : (∀ text : String, Fits (· ≠ 'İ') pattern.toList text.toList → isLike true pattern text = true) ↔
      sigmasSettled [] pattern.toList := by
    constructor
    · intro kept
      by_contra unsettled
      obtain ⟨text, fits, lost⟩ := unsettled_refuted unsettled
      rw [← String.toList_ofList (l := text)] at fits lost
      exact lost (isLike_lower_iff.mp (kept _ fits))
    · intro settled text fits
      exact isLike_lower_iff.mpr (fits_lower fits settled fun _ shown seen => Option.some.inj seen)
  refine ⟨kept, fun none => ?_, fun wild none => ?_⟩
  · rw [← kept]
    refine forall_congr' fun text => ?_
    rw [isLike_iff]
    exact imp_congr_left ⟨fun fits => fits.of_none none, fun fits => fits.of_none none⟩
  · obtain ⟨text, fits, lost⟩ := underscore_refuted wild none
    rw [← String.toList_ofList (l := text)] at fits lost
    exact ⟨_, isLike_iff.mpr fits, Bool.eq_false_iff.mpr fun alike => lost (isLike_lower_iff.mp alike)⟩

example : sigmasSettled [] "%ΣΑ_".toList = true ∧ sigmasSettled [] "ΑΣ%".toList = false := by
  decide +kernel

/-- A sigma in front of a percent sign becomes final in the pattern but not in the text, and the one character that an
underscore stands for becomes two. -/
theorem ignoring_case_loses_matches :
    isLike false "ΑΣ%" "ΑΣΑ" = true ∧ isLike true "ΑΣ%" "ΑΣΑ" = false ∧
      isLike false "_" "İ" = true ∧ isLike true "_" "İ" = false := by
  decide +kernel

end

end ResourceServer.Store
