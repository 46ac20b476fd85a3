import ResourceServer.Proofs.PlainPaths

/-! Domains whose labels stand for themselves: they are read as they are written, and URLs are settled there. -/

namespace ResourceServer.Url

open ResourceServer.Text

def isLabelChar (c : Char) : Bool :=
  c.isLower || c.isDigit || c = '-'

def domainOf (labels : List String) : List Char :=
  ['.'].intercalate (labels.map String.toList)

/-- Labels of a domain that is written with characters that stand for themselves, that does not encode others and that
is no number. -/
structure IsDomain (labels : List String) : Prop where
  given : domainOf labels ≠ []
  plain : ∀ label ∈ labels, label.toList.all isLabelChar = true
  unencoded : ∀ label ∈ labels, label.toList.take 4 ≠ Domain.encodedStart
  named : Host.endsInNumber (domainOf labels) = false

instance (labels : List String) : Decidable (IsDomain labels) :=
  decidable_of_iff (domainOf labels ≠ [] ∧ (∀ label ∈ labels, label.toList.all isLabelChar = true) ∧
      (∀ label ∈ labels, label.toList.take 4 ≠ Domain.encodedStart) ∧ Host.endsInNumber (domainOf labels) = false)
    ⟨fun ⟨given, plain, unencoded, named⟩ => ⟨given, plain, unencoded, named⟩,
      fun ⟨given, plain, unencoded, named⟩ => ⟨given, plain, unencoded, named⟩⟩

/-- A character of a domain is neither encoded nor does it end the host. -/
structure IsDomainChar (c : Char) : Prop where
  high : 32 < c.toNat
  small : c.toNat < 128
  lower : c.toLower = c
  allowed : Host.isForbiddenInDomain c = false
  inside : endsAuthority .special c = false

theorem isLabelChar_domain {c : Char} (plain : isLabelChar c = true ∨ c = '.') : IsDomainChar c := by
  have small : c.toNat < 128 := by
    simp only [isLabelChar, Bool.or_eq_true, decide_eq_true_eq] at plain
    rcases plain with ((lower | digit) | rfl) | rfl
    · exact Nat.lt_of_le_of_lt (of_decide_eq_true (Bool.and_eq_true_iff.mp lower).2) (by decide : 'z'.toNat < 128)
    · exact Nat.lt_of_le_of_lt (of_decide_eq_true (Bool.and_eq_true_iff.mp digit).2) (by decide : '9'.toNat < 128)
    · decide
    · decide
  have each : ∀ value < 128, isLabelChar (Char.ofNat value) = true ∨ Char.ofNat value = '.' →
      32 < (Char.ofNat value).toNat ∧ (Char.ofNat value).toLower = Char.ofNat value ∧
        Host.isForbiddenInDomain (Char.ofNat value) = false ∧
          endsAuthority .special (Char.ofNat value) = false := by decide +kernel
  have own := each c.toNat small
  rw [Char.ofNat_toNat] at own
  obtain ⟨high, lower, allowed, inside⟩ := own plain
  exact ⟨high, small, lower, allowed, inside⟩

theorem IsDomainChar.ne {c mark : Char} (plain : IsDomainChar c) (forbidden : Host.isForbiddenInDomain mark = true) :
    c ≠ mark := by
  rintro rfl
  exact Bool.false_ne_true (plain.allowed.symm.trans forbidden)

theorem mem_domainOf {labels : List String} {c : Char} (member : c ∈ domainOf labels) :
    c = '.' ∨ ∃ label ∈ labels, c ∈ label.toList := by
  unfold domainOf at member
  induction labels with
  | nil => cases member
  | cons label rest ih =>
      cases rest with
      | nil =>
          rw [List.map_singleton, List.intercalate_singleton] at member
          exact .inr ⟨label, List.mem_cons_self, member⟩
      | cons next others =>
          rw [List.map_cons, List.map_cons, List.intercalate_cons_cons, ← List.map_cons, List.append_assoc,
            List.singleton_append, List.mem_append, List.mem_cons] at member
          rcases member with own | point | later
          · exact .inr ⟨label, List.mem_cons_self, own⟩
          · exact .inl point
          · exact (ih later).imp_right fun ⟨other, among, inside⟩ => ⟨other, List.mem_cons_of_mem _ among, inside⟩

theorem IsDomain.char {labels : List String} (domain : IsDomain labels) {c : Char} (member : c ∈ domainOf labels) :
    IsDomainChar c := by
  refine isLabelChar_domain ((mem_domainOf member).symm.imp_left ?_)
  exact fun ⟨label, among, inside⟩ => List.all_eq_true.mp (domain.plain label among) c inside

namespace Domain

theorem rightToLeft_high : (rightToLeftRanges.all fun range => decide (128 ≤ range.1)) = true := by
  unfold rightToLeftRanges readRanges readRows
  -- A list of characters is evaluated faster than the text that it makes.
  rw [String.toList_ofList]
  decide +kernel

theorem directionOf_ascii {c : Char} (small : c.toNat < 128) : (directionOf c).isTurning = false := by
  have beyond (ranges : List (Nat × Nat)) (high : (ranges.all fun range => decide (128 ≤ range.1)) = true) :
      inRanges ranges c = false := by
    refine List.any_eq_false.mpr fun range member inside => ?_
    have first := of_decide_eq_true (List.all_eq_true.mp high range member)
    simp only [Bool.and_eq_true, decide_eq_true_eq] at inside
    omega
  unfold directionOf
  rw [beyond rightToLeftRanges rightToLeft_high, beyond arabicNumberRanges (by decide +kernel)]
  simp only [Bool.false_eq_true, if_false]
  split
  · rfl
  split
  · rfl
  split <;> rfl

theorem readLabel_plain {label : List Char} (ascii : isAscii label = true)
    (unencoded : label.take 4 ≠ encodedStart) : readLabel? label = some ⟨label, label⟩ := by
  have sound : isSound label = true := by
    unfold isSound
    rw [ascii, Bool.true_or]
  unfold readLabel?
  rw [if_neg unencoded, if_neg (by simp [sound]), if_pos ascii]

theorem readPart_plain {label : List Char} (plain : label.all isLabelChar = true)
    (unencoded : label.take 4 ≠ encodedStart) : readPart? label = some [⟨label, label⟩] := by
  have char {c : Char} (inside : c ∈ label) : IsDomainChar c :=
    isLabelChar_domain (.inl (List.all_eq_true.mp plain c inside))
  have ascii : isAscii label = true := List.all_eq_true.mpr fun c inside => decide_eq_true (char inside).small
  have lower : label.map Char.toLower = label :=
    (List.map_congr_left fun c inside => (char inside).lower).trans (List.map_id _)
  unfold readPart?
  rw [if_pos ascii, lower, readLabel_plain ascii unencoded]
  rfl

theorem areDirected_plain {labels : List (List Char)} (plain : ∀ label ∈ labels, label.all isLabelChar = true) :
    areDirected labels = true := by
  unfold areDirected
  dsimp only
  rw [Bool.or_eq_true, Bool.not_eq_true', List.any_eq_false]
  refine .inl fun directions member => ?_
  obtain ⟨label, among, rfl⟩ := List.mem_map.mp member
  rw [Bool.not_eq_true, List.any_eq_false]
  intro direction inside
  obtain ⟨c, own, rfl⟩ := List.mem_map.mp inside
  have domain := isLabelChar_domain (.inl (List.all_eq_true.mp (plain label among) c own))
  rw [directionOf_ascii domain.small]
  exact Bool.false_ne_true

theorem read_plain {labels : List String} (domain : IsDomain labels) :
    read? (domainOf labels) = some (domainOf labels) := by
  have ⟨given, plain, unencoded, named⟩ := domain
  have pieces : splitChars '.' [] (domainOf labels) = labels.map String.toList := by
    refine splitChars_intercalate ?_ fun piece member point => ?_
    · intro none
      exact given (by rw [domainOf, none]; rfl)
    · obtain ⟨label, among, rfl⟩ := List.mem_map.mp member
      exact absurd (List.all_eq_true.mp (plain label among) _ point) (by decide)
  have parts : (labels.map String.toList).mapM readPart? =
      some (labels.map fun label => [⟨label.toList, label.toList⟩]) := by
    clear pieces given named domain
    induction labels with
    | nil => rfl
    | cons label rest ih =>
        have first := readPart_plain (plain label List.mem_cons_self) (unencoded label List.mem_cons_self)
        have others := ih (fun other member => plain other (List.mem_cons_of_mem _ member))
          fun other member => unencoded other (List.mem_cons_of_mem _ member)
        rw [List.map_cons, List.mapM_cons, first, others]
        rfl
  have flat : (labels.map fun label => ([⟨label.toList, label.toList⟩] : List Label)).flatten =
      labels.map fun label => ⟨label.toList, label.toList⟩ := by
    rw [← List.flatMap_def, ← List.map_eq_flatMap]
  have straight : areDirected (labels.map String.toList) = true :=
    areDirected_plain (List.forall_mem_map.mpr plain)
  unfold read?
  rw [pieces, parts]
  dsimp only [Option.bind_eq_bind, Option.bind_some]
  rw [flat, List.map_map, List.map_map]
  exact if_pos straight

end Domain

theorem read_domain {labels : List String} (domain : IsDomain labels) :
    Host.read true (domainOf labels) = .ok (String.ofList (domainOf labels)) := by
  have decoded : decodeText (percentDecode (domainOf labels)) = domainOf labels := by
    have plain : ∀ c ∈ domainOf labels, c ≠ '%' := fun c member => (domain.char member).ne (by decide)
    unfold decodeText
    generalize domainOf labels = text at plain ⊢
    induction text with
    | nil => rfl
    | cons c rest ih =>
        rw [percentDecode_char (plain c List.mem_cons_self), decodeFrom_char,
          ih fun other member => plain other (List.mem_cons_of_mem _ member)]
  have allowed : (domainOf labels).any Host.isForbiddenInDomain = false :=
    List.any_eq_false.mpr fun c member => by
      rw [(domain.char member).allowed]
      exact Bool.false_ne_true
  have read : Host.readDomain (domainOf labels) = .ok (domainOf labels) := by
    unfold Host.readDomain
    rw [decoded, Domain.read_plain domain]
    dsimp only
    rw [if_neg (by simp [allowed]), if_neg (by simpa using domain.given)]
  unfold Host.read
  split
  · rename_i opened
    exact absurd rfl ((domain.char (opened ▸ List.mem_cons_self)).ne (by decide))
  · rw [if_pos rfl, read]
    dsimp only [bind, Except.bind]
    rw [if_neg (by simp [domain.named])]
    rfl

theorem splitHost_free {text : List Char} (free : ∀ c ∈ text, c ≠ ':') (inside : Bool) :
    splitHost inside text = (text, []) := by
  induction text generalizing inside with
  | nil => rfl
  | cons c rest ih =>
      rw [splitHost, if_neg fun port => free c List.mem_cons_self port.1]
      dsimp only
      rw [ih fun other member => free other (List.mem_cons_of_mem _ member)]

/-- URLs are settled at such a domain. -/
theorem isSite_domain {scheme : String} (special : kindOf scheme = .special) {labels : List String}
    (domain : IsDomain labels) : IsSite scheme (.ofHost (String.ofList (domainOf labels))) := by
  have char {c : Char} (member : c ∈ domainOf labels) : IsDomainChar c := domain.char member
  have text : (Authority.ofHost (String.ofList (domainOf labels))).text.toList = domainOf labels := by
    unfold Authority.ofHost Authority.text
    simp
  refine ⟨special, ?_, ?_⟩
  · rw [text]
    exact fun c member => ⟨(char member).high, (char member).inside⟩
  have inside : ∀ c ∈ domainOf labels, (!endsAuthority (kindOf scheme) c) = true := by
    rw [special]
    exact fun c member => by rw [(char member).inside]; rfl
  have single : splitUser (domainOf labels) = (none, domainOf labels) :=
    if_neg fun named => (char (List.contains_iff_mem.mp named)).ne (by decide) rfl
  have given : (domainOf labels).isEmpty = false := by simpa using domain.given
  rw [text]
  unfold readAuthority
  dsimp only
  rw [span_all inside]
  dsimp only
  rw [single]
  dsimp only
  rw [splitHost_free (fun c member => (char member).ne (by decide)), given, special]
  rw [if_neg nofun, if_neg Bool.false_ne_true, if_neg Bool.false_ne_true]
  exact bind_of_ok (read_domain domain) rfl

end ResourceServer.Url
