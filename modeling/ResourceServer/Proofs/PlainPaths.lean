import ResourceServer.Proofs.UrlTexts

/-! Paths of segments that stand for themselves: they are read as they are written, alone and after a host. -/

namespace ResourceServer.Url

/-- A text that stands for itself as a segment of a path: nothing of it is encoded or ends the segment, and it is
neither of the segments that stay in place or go up. -/
structure IsSegment (text : String) : Prop where
  given : text.toList ≠ []
  plain : ∀ c ∈ text.toList, isPathReserved c = false ∧ c ≠ '/' ∧ c ≠ '\\'
  notDot : isDot text = false
  notDoubleDot : isDoubleDot text = false

-- Each character of the text is looked at, not each character that there is.
instance (text : String) : Decidable (IsSegment text) :=
  haveI : Decidable (∀ c ∈ text.toList, isPathReserved c = false ∧ c ≠ '/' ∧ c ≠ '\\') := List.decidableBAll _ _
  decidable_of_iff (text.toList ≠ [] ∧ (∀ c ∈ text.toList, isPathReserved c = false ∧ c ≠ '/' ∧ c ≠ '\\') ∧
      isDot text = false ∧ isDoubleDot text = false)
    ⟨fun ⟨given, plain, dot, dots⟩ => ⟨given, plain, dot, dots⟩,
      fun ⟨given, plain, dot, dots⟩ => ⟨given, plain, dot, dots⟩⟩

def pathOf (segments : List String) : List Char :=
  segments.flatMap fun segment => '/' :: segment.toList

theorem pathOf_cons (segment : String) (rest : List String) :
    pathOf (segment :: rest) = '/' :: (segment.toList ++ pathOf rest) := rfl

theorem append_pathOf (front segment : String) (rest : List String) :
    front ++ String.ofList (pathOf (segment :: rest)) = front ++ "/" ++ segment ++ String.ofList (pathOf rest) := by
  rw [← String.toList_inj]
  simp [pathOf_cons]

theorem pathOf_begins {segments : List String} (given : segments ≠ []) :
    pathOf segments = '/' :: (pathOf segments).drop 1 := by
  cases segments with
  | nil => exact absurd rfl given
  | cons segment rest => rfl

theorem pathOf_append (front back : List String) : pathOf (front ++ back) = pathOf front ++ pathOf back :=
  List.flatMap_append

theorem counted_high {text : List Char} (high : ∀ c ∈ text, 32 < c.toNat) : counted text = text := by
  refine List.filter_eq_self.mpr fun c member => ?_
  by_contra ignored
  have mark : c = '\t' ∨ c = '\n' ∨ c = '\r' := by simpa [isIgnored, or_iff_not_imp_left] using ignored
  have large := high c member
  rcases mark with rfl | rfl | rfl <;> revert large <;> decide

theorem IsSegment.char {text : String} (segment : IsSegment text) {c : Char} (member : c ∈ text.toList) :
    32 < c.toNat ∧ isPathChar c = true ∧ c ≠ '\\' := by
  obtain ⟨plain, _, back⟩ := segment.plain c member
  have kept (mark : Char) (reserved : isPathReserved mark = true) : c ≠ mark := by
    rintro rfl
    exact Bool.false_ne_true (plain.symm.trans reserved)
  have low : ¬c.toNat < 32 := by
    intro small
    have reserved : isPathReserved c = true := by simp [isPathReserved, isFragmentReserved, isControl, small]
    exact Bool.false_ne_true (plain.symm.trans reserved)
  have high : 32 < c.toNat := by
    have apart : c.toNat ≠ 32 := fun same =>
      kept ' ' (by decide) (by rw [← Char.ofNat_toNat c, same])
    omega
  exact ⟨high, by simp [isPathChar, kept '?' (by decide), kept '#' (by decide)], back⟩

section

variable {segments : List String} (plain : ∀ segment ∈ segments, IsSegment segment)
include plain

theorem pathOf_chars {c : Char} (member : c ∈ pathOf segments) :
    32 < c.toNat ∧ isPathChar c = true ∧ c ≠ '\\' := by
  obtain ⟨segment, among, inside⟩ := List.mem_flatMap.mp member
  rcases List.mem_cons.mp inside with rfl | own
  · decide
  · exact (plain segment among).char own

theorem pathOf_front : IsFront (pathOf segments) :=
  fun _ member => (pathOf_chars plain member).2.1

theorem counted_pathOf : counted (pathOf segments) = pathOf segments :=
  counted_high fun _ member => (pathOf_chars plain member).1

theorem pathOf_ends (given : segments ≠ []) (front : String) :
    ∃ c ∈ (front ++ String.ofList (pathOf segments)).toList.getLast?, c ≠ '/' := by
  obtain ⟨before, last, rfl⟩ := List.eq_nil_or_concat segments |>.resolve_left given
  have own := plain last (by simp)
  obtain ⟨c, ends⟩ := Option.ne_none_iff_exists'.mp (mt List.getLast?_eq_none_iff.mp own.given)
  refine ⟨c, ?_, (own.plain c (List.mem_of_getLast? ends)).2.1⟩
  have whole : (front ++ String.ofList (pathOf (before.concat last))).toList =
      front.toList ++ pathOf before ++ ['/'] ++ last.toList := by simp [pathOf]
  rw [whole, List.getLast?_append_of_ne_nil _ own.given]
  exact ends

theorem splitChars_pathOf (given : segments ≠ []) :
    Text.splitChars '/' [] ((pathOf segments).drop 1) = segments.map String.toList := by
  have joined : (pathOf segments).drop 1 = ['/'].intercalate (segments.map String.toList) := by
    clear plain
    induction segments with
    | nil => rfl
    | cons segment rest ih =>
        cases rest with
        | nil => simp [pathOf]
        | cons next others =>
            rw [List.map_cons, List.map_cons, List.intercalate_cons_cons, ← List.map_cons,
              ← ih (List.cons_ne_nil _ _)]
            simp [pathOf]
  rw [joined]
  refine Text.splitChars_intercalate (by simpa using given) fun piece member slash => ?_
  obtain ⟨segment, among, rfl⟩ := List.mem_map.mp member
  exact ((plain segment among).plain _ slash).2.1 rfl

end

section

variable {kind : SchemeKind} (unfiled : kind ≠ .file)
include unfiled

theorem addSegment_plain {segment : String} (own : IsSegment segment) (trail : Trail) (closed : Bool) :
    trail.addSegment kind segment.toList closed = trail.put segment.toList closed := by
  have unfiled : decide (kind = .file) = false := decide_eq_false unfiled
  have counts : counted segment.toList = segment.toList := counted_high fun _ member => (own.char member).1
  have encoded : percentEncode isPathReserved segment.toList = segment.toList :=
    percentEncode_plain fun c member => (own.plain c member).1
  simp only [Trail.addSegment, unfiled, counts, encoded, Bool.false_and, String.ofList_toList, own.notDot,
    own.notDoubleDot]
  rfl

theorem addSegments_plain {segments : List String} (plain : ∀ segment ∈ segments, IsSegment segment)
    (given : segments ≠ []) (trail : Trail) :
    trail.addSegments kind (segments.map String.toList) =
      { trail with characters := ((pathOf segments).drop 1).reverse ++ trail.characters } := by
  induction segments generalizing trail with
  | nil => exact absurd rfl given
  | cons segment rest ih =>
      rw [List.map_cons, Trail.addSegments, addSegment_plain unfiled (plain segment List.mem_cons_self)]
      cases rest with
      | nil => simp [Trail.addSegments, Trail.put, pathOf]
      | cons next others =>
          rw [ih (fun other member => plain other (List.mem_cons_of_mem _ member)) (List.cons_ne_nil _ _)]
          simp [Trail.put, pathOf]

theorem extend_plain {segments : List String} (plain : ∀ segment ∈ segments, IsSegment segment)
    (given : segments ≠ []) :
    (Trail.root.extend kind ((pathOf segments).drop 1)).path kind = String.ofList (pathOf segments) := by
  have slashed : ((pathOf segments).drop 1).map (fun c => if isSlash kind c then '/' else c) =
      (pathOf segments).drop 1 := by
    refine (List.map_congr_left fun c member => ?_).trans (List.map_id _)
    have apart := (pathOf_chars plain (List.drop_subset _ _ member)).2.2
    by_cases slash : c = '/'
    · simp [slash]
    · simp [isSlash, slash, apart]
  unfold Trail.extend
  rw [slashed]
  dsimp only
  rw [splitChars_pathOf plain given, addSegments_plain unfiled plain given, Trail.path]
  dsimp only [Trail.root]
  rw [if_neg unfiled, List.reverse_append, List.reverse_reverse, List.reverse_singleton, List.singleton_append,
    ← pathOf_begins given]

end

/-! Paths that are read relative to a URL, and after a scheme and an authority. -/

theorem complete_front {text : List Char} (front : IsFront text) (scheme : String)
    (authority : Option Authority) (path : List Char → String) :
    complete scheme authority path text = ⟨scheme, authority, path text, none, none⟩ := by
  unfold complete
  rw [span_all front]
  rfl

theorem readScheme_path {segments : List String} (given : segments ≠ []) :
    readScheme? (pathOf segments) = none := by
  rw [readScheme?, pathOf_begins given, List.span_eq_takeWhile_dropWhile, List.takeWhile_cons_of_pos (by decide)]
  refine if_pos (.inr (.inl ?_))
  rfl

section

variable {segments : List String} (plain : ∀ segment ∈ segments, IsSegment segment)
include plain

theorem trimmed_path : trimmed (String.ofList (pathOf segments)) = pathOf segments := by
  have high {c : Char} (member : c ∈ pathOf segments) : 32 < c.toNat := (pathOf_chars plain member).1
  exact trimmed_eq (fun c first => high (List.mem_of_mem_head? first)) fun c last => high (List.mem_of_getLast? last)

variable (given : segments ≠ [])
include given

theorem pathOf_second : ∃ c rest, (pathOf segments).drop 1 = c :: rest ∧ isSlash .special c = false := by
  cases segments with
  | nil => exact absurd rfl given
  | cons segment rest =>
      have own := plain segment List.mem_cons_self
      cases spelled : segment.toList with
      | nil => exact absurd spelled own.given
      | cons c others =>
          refine ⟨c, others ++ pathOf rest, by rw [pathOf_cons, spelled]; rfl, ?_⟩
          obtain ⟨_, slash, back⟩ := own.plain c (spelled ▸ List.mem_cons_self)
          simp [isSlash, slash, back]

theorem read_path : read (String.ofList (pathOf segments)) = .error .relativeWithoutBase := by
  unfold read
  rw [trimmed_path plain, readScheme_path given]

theorem join_path {base : Url} (rooted : base.isRootless = false) (unfiled : base.scheme ≠ "file") :
    join base (String.ofList (pathOf segments)) =
      .ok ⟨base.scheme, base.authority, String.ofList (pathOf segments), none, none⟩ := by
  have kind : kindOf base.scheme ≠ .file := by
    unfold kindOf
    rw [if_neg unfiled]
    split <;> nofun
  obtain ⟨c, rest, second, apart⟩ := pathOf_second plain given
  have relative : joinRelative base (pathOf segments) =
      .ok ⟨base.scheme, base.authority, String.ofList (pathOf segments), none, none⟩ := by
    have front : IsFront (c :: rest) := (pathOf_front plain).of_subset (second ▸ List.drop_subset _ _)
    have spelled : pathOf segments = '/' :: c :: rest := second ▸ pathOf_begins given
    have path := extend_plain kind plain given
    rw [second] at path
    rw [← path, spelled]
    have one : ('/' :: c :: rest).takeWhile (isSlash .special) = ['/'] := by
      rw [List.takeWhile_cons_of_pos (by decide), List.takeWhile_cons_of_neg (by simp [apart])]
    have finished := complete_front front base.scheme base.authority fun path =>
      (Trail.root.extend (kindOf base.scheme) path).path (kindOf base.scheme)
    rw [← finished]
    unfold joinRelative
    dsimp only
    rw [one]
    rfl
  unfold join
  dsimp only
  rw [trimmed_path plain, readScheme_path given, counted_pathOf plain]
  dsimp only
  rw [if_neg (by simp [rooted]), if_neg unfiled, relative]

end

/-- A scheme whose URLs have a host, and an authority that is read from its own text. -/
structure IsSite (scheme : String) (authority : Authority) : Prop where
  special : kindOf scheme = .special
  inside : ∀ c ∈ authority.text.toList, 32 < c.toNat ∧ endsAuthority .special c = false
  read : readAuthority scheme authority.text.toList = .ok (authority, [])

def site (scheme : String) (authority : Authority) : String :=
  s!"{scheme}://{authority.text}"

theorem site_toList (scheme : String) (authority : Authority) :
    (site scheme authority).toList = scheme.toList ++ ':' :: '/' :: '/' :: authority.text.toList := by
  have marks : "://".toList = [':', '/', '/'] := by decide
  have same : site scheme authority = scheme ++ "://" ++ authority.text := rfl
  rw [same, String.toList_append, String.toList_append, marks, List.append_assoc]
  rfl

theorem text_site (scheme : String) (authority : Authority) (path : String) :
    (⟨scheme, some authority, path, none, none⟩ : Url).text = site scheme authority ++ path := by
  rw [← String.toList_inj, text_toList, String.toList_append, site_toList]
  have slashes : "//".toList = ['/', '/'] := by decide
  simp [body, suffixText, slashes]

theorem special_cases {scheme : String} (special : kindOf scheme = .special) :
    scheme ∈ ["http", "https", "ws", "wss", "ftp"] := by
  by_contra other
  simp only [List.mem_cons, List.not_mem_nil, or_false, not_or, ← beq_eq_false_iff_ne] at other
  obtain ⟨http, https, ws, wss, ftp⟩ := other
  have unknown : defaultPort? scheme = none := by simp [defaultPort?, List.lookup_cons, http, https, ws, wss, ftp]
  rw [kindOf, unknown] at special
  split at special <;> cases special

theorem IsSite.named {scheme : String} {authority : Authority} (settled : IsSite scheme authority)
    (rest : List Char) : readScheme? (scheme.toList ++ ':' :: rest) = some (scheme, rest) := by
  have known := special_cases settled.special
  simp only [List.mem_cons, List.not_mem_nil, or_false] at known
  rcases known with rfl | rfl | rfl | rfl | rfl <;>
    · rw [readScheme?, span_stop (by decide), span_all (List.all_eq_true.mp (by decide))]
      rfl

theorem readPort_path {scheme : String} {text : List Char} {port : Option Nat}
    (read : readPort scheme text = .ok (port, [])) (rest : List Char) :
    readPort scheme (text ++ '/' :: rest) = .ok (port, '/' :: rest) := by
  cases text with
  | nil =>
      cases read
      rfl
  | cons c digits =>
      by_cases colon : c = ':'
      · subst colon
        rw [readPort] at read
        rw [List.cons_append, readPort, span_stop (by decide)]
        dsimp only at read ⊢
        generalize digits.span Char.isDigit = found at read ⊢
        obtain ⟨number, left⟩ := found
        dsimp only at read ⊢
        split at read
        · cases read
        · rename_i fits
          have ended : left = [] := by
            split at read <;> cases read <;> rfl
          subst ended
          have small : ¬65535 < Number.numeral 0 number := fun large => fits (.inr large)
          rw [if_neg (by simp [small])]
          split at read <;> cases read
          · rename_i implied
            exact if_pos implied
          · rename_i told
            exact if_neg told
      · rw [readPort] at read
        · cases read
        · rintro _ ⟨⟩
          exact colon rfl

theorem readAuthority_path {scheme : String} {authority : Authority} (settled : IsSite scheme authority)
    (rest : List Char) :
    readAuthority scheme (authority.text.toList ++ '/' :: rest) = .ok (authority, '/' :: rest) := by
  have ⟨special, inside, read⟩ := settled
  generalize authority.text.toList = text at inside read
  have each : ∀ c ∈ text, (!endsAuthority (kindOf scheme) c) = true := by
    rw [special]
    exact fun c member => by rw [(inside c member).2]; rfl
  have spanned : (text ++ '/' :: rest).span (fun c => !endsAuthority (kindOf scheme) c) = (text, '/' :: rest) := by
    rw [span_stop (by rw [special]; rfl), span_all each]
    rfl
  unfold readAuthority at read ⊢
  dsimp only at read ⊢
  rw [span_all each] at read
  rw [spanned]
  dsimp only at read ⊢
  generalize splitUser text = parts at read ⊢
  obtain ⟨user, hostPort⟩ := parts
  dsimp only at read ⊢
  rw [if_neg (by simp)] at read
  by_cases nameless : (splitHost false hostPort).1.isEmpty
  · rw [if_pos nameless, if_pos (.inl (by rw [special]; rfl))] at read
    cases read
  have hosted : ¬hostPort.isEmpty := by
    intro bare
    rw [List.isEmpty_iff.mp bare] at nameless
    exact nameless rfl
  rw [if_neg nameless, if_neg nameless, List.append_nil] at read
  rw [if_neg fun refused => hosted refused.2.1, if_neg nameless, if_neg nameless]
  obtain ⟨host, hostRead, read⟩ := bind_ok read
  obtain ⟨⟨port, left⟩, portRead, read⟩ := bind_ok read
  cases read
  exact bind_of_ok hostRead (bind_of_ok (readPort_path portRead rest) rfl)

theorem IsSite.begins {scheme : String} {authority : Authority} (settled : IsSite scheme authority) :
    ∃ c rest, authority.text.toList = c :: rest ∧ isSlash .special c = false := by
  have ⟨special, inside, read⟩ := settled
  generalize authority.text.toList = text at inside read
  cases text with
  | nil =>
      unfold readAuthority at read
      rw [special] at read
      cases read
  | cons c rest =>
      refine ⟨c, rest, rfl, ?_⟩
      have ends := (inside c List.mem_cons_self).2
      simp only [endsAuthority, Bool.or_eq_false_iff] at ends
      exact ends.1.1

section

variable {scheme : String} {authority : Authority} (settled : IsSite scheme authority) {segments : List String}
  (plain : ∀ segment ∈ segments, IsSegment segment) (given : segments ≠ [])
include settled plain

theorem site_high {c : Char} (member : c ∈ (site scheme authority).toList ++ pathOf segments) : 32 < c.toNat := by
  have known := special_cases settled.special
  rw [site_toList] at member
  simp only [List.mem_append, List.mem_cons] at member
  rcases member with (named | rfl | rfl | rfl | host) | path
  · have high : ∀ scheme ∈ ["http", "https", "ws", "wss", "ftp"],
        (scheme.toList.all fun c => decide (32 < c.toNat)) = true := by decide
    exact of_decide_eq_true (List.all_eq_true.mp (high scheme known) c named)
  · decide
  · decide
  · decide
  · exact (settled.inside c host).1
  · exact (pathOf_chars plain path).1

theorem trimmed_site : trimmed (site scheme authority ++ String.ofList (pathOf segments)) =
    (site scheme authority).toList ++ pathOf segments := by
  have high {c : Char} := site_high settled plain (c := c)
  have same : site scheme authority ++ String.ofList (pathOf segments) =
      String.ofList ((site scheme authority).toList ++ pathOf segments) := by
    rw [String.ofList_append, String.ofList_toList]
  rw [same]
  exact trimmed_eq (fun c first => high (List.mem_of_mem_head? first)) fun c last => high (List.mem_of_getLast? last)

theorem counted_site : counted ('/' :: '/' :: (authority.text.toList ++ pathOf segments)) =
    '/' :: '/' :: (authority.text.toList ++ pathOf segments) := by
  refine counted_high fun c member => site_high settled plain ?_
  rw [site_toList, List.append_assoc]
  exact List.mem_append_right _ (List.mem_cons_of_mem _ member)

include given

theorem readAfterScheme_site :
    readAfterScheme scheme ('/' :: '/' :: (authority.text.toList ++ pathOf segments)) =
      .ok ⟨scheme, some authority, String.ofList (pathOf segments), none, none⟩ := by
  obtain ⟨c, rest, spelled, apart⟩ := settled.begins
  have front : (trailAfterHost (kindOf scheme) (pathOf segments)).path (kindOf scheme) =
      String.ofList (pathOf segments) := by
    have slash : isSlash (kindOf scheme) '/' = true := by rw [settled.special]; rfl
    have dropped : (pathOf segments).dropWhile isIgnored = pathOf segments := by
      rw [pathOf_begins given]
      rfl
    unfold trailAfterHost
    rw [counted_pathOf plain, dropped]
    nth_rewrite 1 [pathOf_begins given]
    dsimp only
    rw [if_pos slash]
    exact extend_plain (by rw [settled.special]; nofun) plain given
  have opened := readAuthority_path settled ((pathOf segments).drop 1)
  rw [← pathOf_begins given] at opened
  unfold readAfterScheme
  rw [settled.special]
  dsimp only
  rw [counted_site settled plain, List.dropWhile_cons_of_pos (by decide), List.dropWhile_cons_of_pos (by decide),
    spelled, List.cons_append, List.dropWhile_cons_of_neg (by simp [apart]), ← List.cons_append, ← spelled]
  unfold readHierarchical
  refine bind_of_ok opened ?_
  dsimp only
  rw [complete_front (pathOf_front plain), front]

theorem read_site : read (site scheme authority ++ String.ofList (pathOf segments)) =
    .ok ⟨scheme, some authority, String.ofList (pathOf segments), none, none⟩ := by
  unfold read
  rw [trimmed_site settled plain, site_toList, List.append_assoc, List.cons_append, settled.named]
  exact readAfterScheme_site settled plain given

/-- So it is relative to any URL. -/
theorem join_site (base : Url) : join base (site scheme authority ++ String.ofList (pathOf segments)) =
    .ok ⟨scheme, some authority, String.ofList (pathOf segments), none, none⟩ := by
  unfold join
  dsimp only
  rw [trimmed_site settled plain, site_toList, List.append_assoc, List.cons_append, settled.named]
  dsimp only
  rw [settled.special]
  dsimp only
  have slashes : ¬((counted ('/' :: '/' :: (authority.text.toList ++ pathOf segments))).takeWhile
      (isSlash .special)).length < 2 := by
    rw [counted_site settled plain, List.takeWhile_cons_of_pos (by decide), List.takeWhile_cons_of_pos (by decide)]
    simp
  rw [if_neg fun short => slashes short.2]
  exact readAfterScheme_site settled plain given

end

end ResourceServer.Url
