import Mathlib.Data.List.TakeDrop
import Mathlib.Data.List.TakeWhile
import ResourceServer.Proofs.Results
import ResourceServer.Url.Reader

/-! URLs with other queries: what is read before a query does not depend on what follows. -/

namespace ResourceServer.Url

section

variable {α : Type} {test : α → Bool} {stop : α}

theorem takeWhile_stop (stops : test stop = false) (items rest : List α) :
    (items ++ stop :: rest).takeWhile test = items.takeWhile test := by
  induction items with
  | nil => exact List.takeWhile_cons_of_neg (by simp [stops])
  | cons item others ih =>
      rw [List.cons_append, List.takeWhile_cons, List.takeWhile_cons, ih]

theorem dropWhile_stop (stops : test stop = false) (items rest : List α) :
    (items ++ stop :: rest).dropWhile test = items.dropWhile test ++ stop :: rest := by
  induction items with
  | nil => exact List.dropWhile_cons_of_neg (by simp [stops])
  | cons item others ih =>
      rw [List.cons_append, List.dropWhile_cons, List.dropWhile_cons, ih]
      split <;> rfl

theorem span_stop (stops : test stop = false) (items rest : List α) :
    (items ++ stop :: rest).span test = ((items.span test).1, (items.span test).2 ++ stop :: rest) := by
  rw [List.span_eq_takeWhile_dropWhile, List.span_eq_takeWhile_dropWhile, takeWhile_stop stops,
    dropWhile_stop stops]

theorem span_all {items : List α} (each : ∀ item ∈ items, test item = true) :
    items.span test = (items, []) := by
  rw [List.span_eq_takeWhile_dropWhile, List.dropWhile_eq_nil_iff.mpr each]
  simpa using each

end

theorem isPathChar_stop {mark : Char} (ends : isPathChar mark = false) : mark = '?' ∨ mark = '#' := by
  simpa [isPathChar, or_iff_not_imp_left] using ends

def IsFront (text : List Char) : Prop :=
  ∀ c ∈ text, isPathChar c = true

theorem IsFront.of_subset {text part : List Char} (front : IsFront text) (inside : part ⊆ text) :
    IsFront part :=
  fun c member => front c (inside member)

def withSuffix (kind : SchemeKind) (suffix : List Char) (url : Url) : Url :=
  { url with query := (readSuffix kind suffix).1, fragment := (readSuffix kind suffix).2 }

def LeavesSuffix {α : Type} (read : List Char → Except UrlError (α × List Char)) : Prop :=
  ∃ result : Except UrlError (α × List Char), (∀ value text, result = .ok (value, text) → IsFront text) ∧
    ∀ mark rest, isPathChar mark = false →
      read (mark :: rest) = result.map fun found => (found.1, found.2 ++ mark :: rest)

def ReadsSuffix (scheme : String) (read : List Char → Except UrlError Url) : Prop :=
  ∃ result : Except UrlError Url, (∀ url, result = .ok url → url.scheme = scheme) ∧
    ∀ mark rest, isPathChar mark = false →
      read (mark :: rest) = result.map (withSuffix (kindOf scheme) (mark :: rest))

section

variable {scheme : String} {read other : List Char → Except UrlError Url}

theorem readsSuffix_error (error : UrlError) : ReadsSuffix scheme fun _ => .error error :=
  ⟨.error error, nofun, fun _ _ _ => rfl⟩

theorem ReadsSuffix.congr (reads : ReadsSuffix scheme other)
    (same : ∀ mark rest, isPathChar mark = false → read (mark :: rest) = other (mark :: rest)) :
    ReadsSuffix scheme read := by
  obtain ⟨result, kept, suffixed⟩ := reads
  exact ⟨result, kept, fun mark rest ends => (same mark rest ends).trans (suffixed mark rest ends)⟩

theorem ReadsSuffix.bind {α : Type} (result : Except UrlError α)
    {next : α → List Char → Except UrlError Url} (each : ∀ value, ReadsSuffix scheme (next value)) :
    ReadsSuffix scheme fun suffix => result >>= fun value => next value suffix := by
  cases result with
  | error error => exact readsSuffix_error error
  | ok value => exact each value

theorem counted_mark {mark : Char} (ends : isPathChar mark = false) (rest : List Char) :
    counted (mark :: rest) = mark :: counted rest := by
  rcases isPathChar_stop ends with rfl | rfl <;> rfl

theorem counted_append (text rest : List Char) : counted (text ++ rest) = counted text ++ counted rest :=
  List.filter_append ..

theorem counted_counted (text : List Char) : counted (counted text) = counted text := by
  simp [counted]

theorem counted_subset (text : List Char) : counted text ⊆ text :=
  fun _ member => (List.mem_filter.mp member).1

theorem ReadsSuffix.counted (reads : ReadsSuffix scheme read) :
    ReadsSuffix scheme fun suffix => read (Url.counted suffix) := by
  obtain ⟨result, kept, suffixed⟩ := reads
  refine ⟨result, kept, fun mark rest ends => ?_⟩
  have same : withSuffix (kindOf scheme) (mark :: Url.counted rest) =
      withSuffix (kindOf scheme) (mark :: rest) := by
    unfold withSuffix readSuffix
    rw [← counted_mark ends, counted_counted]
  dsimp only
  rw [counted_mark ends, suffixed _ _ ends, same]

theorem readsSuffix_complete {text : List Char} (front : IsFront text) (authority : Option Authority)
    (path : List Char → String) :
    ReadsSuffix scheme fun suffix => .ok (complete scheme authority path (text ++ suffix)) := by
  refine ⟨.ok ⟨scheme, authority, path text, none, none⟩, ?_, fun mark rest ends => ?_⟩
  · rintro url same
    cases same
    rfl
  · dsimp only [complete, withSuffix]
    rw [span_stop ends, span_all front]
    rfl

theorem LeavesSuffix.complete {read : List Char → Except UrlError (Authority × List Char)}
    (leaves : LeavesSuffix read) (path : List Char → String) :
    ReadsSuffix scheme fun suffix => read suffix >>= fun found =>
      .ok (Url.complete scheme (some found.1) path found.2) := by
  obtain ⟨result, front, left⟩ := leaves
  cases result with
  | error error =>
      refine (readsSuffix_error error).congr fun mark rest ends => ?_
      rw [left mark rest ends]
      rfl
  | ok found =>
      refine (readsSuffix_complete (front _ _ rfl) (some found.1) path).congr fun mark rest ends => ?_
      rw [left mark rest ends]
      rfl

end

theorem readPort_leaves (scheme : String) {text : List Char} (front : IsFront text) :
    LeavesSuffix fun suffix => readPort scheme (text ++ suffix) := by
  have nowhere : ∀ rest : List Char, (∀ more, rest ≠ ':' :: more) → readPort scheme rest = .ok (none, rest) := by
    intro rest other
    rw [readPort]
    exact other
  by_cases colon : text.head? = some ':'
  · obtain ⟨digits, rfl⟩ : ∃ digits, text = ':' :: digits := by
      cases text with
      | nil => cases colon
      | cons c digits =>
          cases colon
          exact ⟨digits, rfl⟩
    let found := digits.span Char.isDigit
    let isEnded := found.2.head?.all fun c => ['/', '\\', '?', '#'].contains c
    refine ⟨if !isEnded ∨ 65535 < Number.numeral 0 found.1 then .error .invalidPort
      else if found.1.isEmpty ∨ defaultPort? scheme = some (Number.numeral 0 found.1) then .ok (none, found.2)
      else .ok (some (Number.numeral 0 found.1), found.2), ?_, ?_⟩
    · intro value rest same
      have inside : found.2 ⊆ ':' :: digits := by
        have dropped : found.2 = digits.dropWhile Char.isDigit := by
          simp only [found, List.span_eq_takeWhile_dropWhile]
        rw [dropped]
        exact List.Subset.trans (List.dropWhile_suffix _).subset (List.subset_cons_self _ _)
      split at same
      · cases same
      · split at same <;> cases same <;> exact front.of_subset inside
    · intro mark rest ends
      have digit : mark.isDigit = false := by rcases isPathChar_stop ends with rfl | rfl <;> rfl
      have ended : (found.2 ++ mark :: rest).head?.all (fun c => ['/', '\\', '?', '#'].contains c) = isEnded := by
        have here : ['/', '\\', '?', '#'].contains mark = true := by
          rcases isPathChar_stop ends with rfl | rfl <;> rfl
        simp only [isEnded]
        cases found.2 with
        | nil => exact here
        | cons c others => rfl
      dsimp only
      rw [List.cons_append, readPort, span_stop digit]
      dsimp only
      rw [ended]
      split
      · rfl
      · split <;> rfl
  · refine ⟨.ok (none, text), ?_, fun mark rest ends => ?_⟩
    · rintro value text same
      cases same
      exact front
    · refine nowhere _ fun more same => ?_
      cases text with
      | nil =>
          cases same
          cases ends
      | cons c others =>
          cases same
          exact colon rfl

section

variable {α : Type} {read other : List Char → Except UrlError (α × List Char)}

theorem leavesSuffix_error (error : UrlError) :
    LeavesSuffix (fun _ => .error error : List Char → Except UrlError (α × List Char)) :=
  ⟨.error error, nofun, fun _ _ _ => rfl⟩

theorem LeavesSuffix.congr (leaves : LeavesSuffix other)
    (same : ∀ mark rest, isPathChar mark = false → read (mark :: rest) = other (mark :: rest)) :
    LeavesSuffix read := by
  obtain ⟨result, front, left⟩ := leaves
  exact ⟨result, front, fun mark rest ends => (same mark rest ends).trans (left mark rest ends)⟩

theorem LeavesSuffix.map {β : Type} (leaves : LeavesSuffix read) (change : α → β) :
    LeavesSuffix fun suffix => read suffix >>= fun found => .ok (change found.1, found.2) := by
  obtain ⟨result, front, left⟩ := leaves
  refine ⟨result.map fun found => (change found.1, found.2), ?_, fun mark rest ends => ?_⟩
  · intro value text same
    obtain ⟨found, read, same⟩ := map_ok same
    cases same
    exact front _ _ read
  · dsimp only
    rw [left mark rest ends]
    cases result <;> rfl

end

theorem splitUser_subset (text : List Char) : (splitUser text).2 ⊆ text := by
  unfold splitUser
  split
  · intro c member
    exact List.mem_reverse.mp ((List.takeWhile_subset _) (List.mem_reverse.mp member))
  · exact List.Subset.refl _

theorem splitHost_append (inside : Bool) (text : List Char) :
    (splitHost inside text).1 ++ (splitHost inside text).2 = text := by
  induction text generalizing inside with
  | nil => rfl
  | cons c rest ih =>
      rw [splitHost]
      split
      · rfl
      · rw [List.cons_append, ih]

theorem LeavesSuffix.bind {α β : Type} (result : Except UrlError β)
    {next : β → List Char → Except UrlError (α × List Char)} (each : ∀ value, LeavesSuffix (next value)) :
    LeavesSuffix fun suffix => result >>= fun value => next value suffix := by
  cases result with
  | error error => exact leavesSuffix_error error
  | ok value => exact each value

theorem readAuthority_leaves (scheme : String) {text : List Char} (front : IsFront text) :
    LeavesSuffix fun suffix => readAuthority scheme (text ++ suffix) := by
  let kind := kindOf scheme
  let inside (c : Char) : Bool := !endsAuthority kind c
  have stops {mark : Char} (last : isPathChar mark = false) : inside mark = false := by
    rcases isPathChar_stop last with rfl | rfl <;> simp [inside, endsAuthority]
  let part := (text.span inside).1
  let after := (text.span inside).2
  let user := (splitUser part).1
  let hostPort := (splitUser part).2
  let hostText := (splitHost false hostPort).1
  let portText := (splitHost false hostPort).2
  have parted : part ++ after = text := by
    simp only [part, after, List.span_eq_takeWhile_dropWhile]
    exact List.takeWhile_append_dropWhile
  have ports : IsFront (portText ++ after) := by
    intro c member
    apply front
    rw [← parted]
    rcases List.mem_append.mp member with port | later
    · refine List.mem_append_left _ (splitUser_subset part ?_)
      have hosted : (splitUser part).2 = hostText ++ portText := (splitHost_append false hostPort).symm
      rw [hosted]
      exact List.mem_append_right _ port
    · exact List.mem_append_right _ later
  have spanned {mark : Char} (last : isPathChar mark = false) (rest : List Char) :
      (text ++ mark :: rest).span inside = (part, after ++ mark :: rest) := span_stop (stops last) text rest
  by_cases bare : user = some [] ∧ hostPort.isEmpty
  · refine (leavesSuffix_error .emptyHost).congr fun mark rest last => ?_
    have refused : user = some [] ∧ hostPort.isEmpty ∧ (!(after ++ mark :: rest).isEmpty) = true :=
      ⟨bare.1, bare.2, by simp⟩
    simp only [readAuthority]
    rw [spanned last]
    dsimp only
    rw [if_pos refused]
    rfl
  have passed {mark : Char} {rest : List Char} :
      ¬(user = some [] ∧ hostPort.isEmpty ∧ (!(after ++ mark :: rest).isEmpty) = true) :=
    fun refused => bare ⟨refused.1, refused.2.1⟩
  let name := ((user.getD []).span (· ≠ ':')).1
  let password := ((user.getD []).span (· ≠ ':')).2
  let encode (text : List Char) := String.ofList (percentEncode isUserReserved text)
  have leaves (host : Except UrlError String) : LeavesSuffix fun suffix =>
      host >>= fun host =>
        readPort scheme (portText ++ after ++ suffix) >>= fun found =>
          .ok ((⟨encode name, encode (password.drop 1), host, found.1⟩ : Authority), found.2) :=
    LeavesSuffix.bind _ fun host =>
      (readPort_leaves scheme ports).map fun port =>
        (⟨encode name, encode (password.drop 1), host, port⟩ : Authority)
  by_cases nameless : hostText.isEmpty = true
  · by_cases wanted : kind.isSpecial = true ∨ (!portText.isEmpty) = true ∨ (!name.isEmpty) = true ∨
        1 < password.length
    · refine (leavesSuffix_error .emptyHost).congr fun mark rest last => ?_
      simp only [readAuthority]
      rw [spanned last]
      dsimp only
      rw [if_neg passed, if_pos nameless, if_pos wanted]
      rfl
    · refine (leaves (.ok "")).congr fun mark rest last => ?_
      simp only [readAuthority]
      rw [spanned last]
      dsimp only
      rw [if_neg passed, if_pos nameless, if_neg wanted, if_pos nameless, List.append_assoc]
  · refine (leaves (Host.read kind.isSpecial hostText)).congr fun mark rest last => ?_
    simp only [readAuthority]
    rw [spanned last]
    dsimp only
    rw [if_neg passed, if_neg nameless, if_neg nameless, List.append_assoc]

theorem readHierarchical_suffix (scheme : String) {text : List Char} (front : IsFront text) :
    ReadsSuffix scheme fun suffix => readHierarchical scheme (text ++ suffix) :=
  (readAuthority_leaves scheme front).complete _

theorem isSlash_stop {mark : Char} (last : isPathChar mark = false) (kind : SchemeKind) :
    isSlash kind mark = false := by
  rcases isPathChar_stop last with rfl | rfl <;> cases kind <;> rfl

theorem counted_front {text : List Char} (front : IsFront text) : IsFront (counted text) :=
  front.of_subset (counted_subset text)

theorem completeFile_suffix {text : List Char} (front : IsFront text) (host : String) (trail : Trail) :
    ReadsSuffix "file" fun suffix => .ok (completeFile host trail (text ++ suffix)) :=
  readsSuffix_complete front _ _

theorem readHostedFile_suffix {text : List Char} (front : IsFront text) :
    ReadsSuffix "file" fun suffix => readHostedFile (text ++ suffix) := by
  let inside (c : Char) : Bool := !endsAuthority .file c
  have stops {mark : Char} (last : isPathChar mark = false) : inside mark = false := by
    rcases isPathChar_stop last with rfl | rfl <;> rfl
  let hostText := counted (text.span inside).1
  let after := (text.span inside).2
  have later : IsFront after := by
    simp only [after, List.span_eq_takeWhile_dropWhile]
    exact front.of_subset (List.dropWhile_suffix _).subset
  have spanned {mark : Char} (last : isPathChar mark = false) (rest : List Char) :
      (text ++ mark :: rest).span inside = ((text.span inside).1, after ++ mark :: rest) :=
    span_stop (stops last) text rest
  by_cases drive : isDrive hostText = true
  · refine (completeFile_suffix front "" .root).congr fun mark rest last => ?_
    simp only [readHostedFile]
    rw [spanned last]
    dsimp only
    rw [if_pos drive]
    rfl
  let trail := trailAfterHost .file after
  have reads : ReadsSuffix "file" fun suffix =>
      (if hostText.isEmpty then .ok "" else Host.read true hostText) >>= fun host =>
        if host = "" ∨ host = "localhost" then .ok (completeFile "" .root (after ++ suffix))
        else .ok (complete "file" (some (.ofHost (if trail.namesDrive then "" else host)))
          (fun _ => trail.path .file) (after ++ suffix)) := by
    refine ReadsSuffix.bind _ fun host => ?_
    split
    · exact completeFile_suffix later "" .root
    · exact readsSuffix_complete later _ _
  refine reads.congr fun mark rest last => ?_
  have taken : (after ++ mark :: rest).takeWhile isPathChar = after := by
    rw [takeWhile_stop last, List.takeWhile_eq_self_iff.mpr later]
  simp only [readHostedFile]
  rw [spanned last]
  dsimp only
  rw [if_neg drive, taken]
  split <;> rfl

theorem dropCounted_append {count : Nat} {text : List Char} (enough : count ≤ (counted text).length)
    (rest : List Char) : dropCounted count (text ++ rest) = dropCounted count text ++ rest := by
  induction text generalizing count with
  | nil =>
      obtain rfl : count = 0 := Nat.le_zero.mp enough
      cases rest <;> rfl
  | cons c others ih =>
      cases count with
      | zero => rfl
      | succ count =>
          rw [List.cons_append, dropCounted, dropCounted]
          by_cases ignored : isIgnored c = true
          · rw [if_pos ignored, if_pos ignored, ih]
            simpa [counted, ignored] using enough
          · rw [if_neg ignored, if_neg ignored, ih]
            simpa [counted, ignored] using enough

theorem dropCounted_subset (count : Nat) (text : List Char) : dropCounted count text ⊆ text := by
  induction text generalizing count with
  | nil => cases count <;> exact List.Subset.refl _
  | cons c others ih =>
      cases count with
      | zero => exact List.Subset.refl _
      | succ count =>
          rw [dropCounted]
          split <;> exact List.Subset.trans (ih _) (List.subset_cons_self _ _)

theorem readRootedFile_alone (text : List Char) : readRootedFile none text = completeFile "" .empty text := by
  unfold readRootedFile
  rw [ite_self]

theorem readFile_suffix {text : List Char} (front : IsFront text) :
    ReadsSuffix "file" fun suffix => readFile none (text ++ suffix) := by
  have split {mark : Char} (last : isPathChar mark = false) (rest : List Char) :
      counted (text ++ mark :: rest) = counted text ++ mark :: counted rest := by
    rw [counted_append, counted_mark last]
  have plain := completeFile_suffix front "" .root
  cases start : counted text with
  | nil =>
      refine plain.congr fun mark rest last => ?_
      simp only [readFile, split last, start, List.nil_append, isSlash_stop last]
      rfl
  | cons first more =>
      by_cases slash : isSlash .file first = true
      · by_cases second : more.head?.any (isSlash .file) = true
        · have enough : 2 ≤ (counted text).length := by
            rw [start]
            cases more with
            | nil => cases second
            | cons c others => exact Nat.le_add_left 2 _
          have hosted := readHostedFile_suffix (front.of_subset (dropCounted_subset 2 text))
          refine hosted.congr fun mark rest last => ?_
          have again : (more ++ mark :: counted rest).head?.any (isSlash .file) = true := by
            cases more with
            | nil => cases second
            | cons c others => exact second
          simp only [readFile, split last, start, List.cons_append, slash, again, if_true,
            dropCounted_append enough]
        · refine (completeFile_suffix front "" .empty).congr fun mark rest last => ?_
          have again : ¬(more ++ mark :: counted rest).head?.any (isSlash .file) = true := by
            cases more with
            | nil => simp [isSlash_stop last]
            | cons c others => exact second
          simp only [readFile, split last, start, List.cons_append, slash, again, if_true, readRootedFile_alone]
          rfl
      · refine plain.congr fun mark rest last => ?_
        simp only [readFile, split last, start, List.cons_append, slash]
        rfl

def readCounted (scheme : String) : List Char → Except UrlError Url
  | '/' :: '/' :: rest => readHierarchical scheme rest
  | '/' :: rest => .ok (complete scheme none (fun path => (Trail.root.extend .other path).path .other) rest)
  | rest => .ok (complete scheme none (fun path => String.ofList (percentEncode isControl path)) rest)

/-- Whatever the scheme, only query and fragment depend on what follows a path. -/
theorem readAfterScheme_suffix (scheme : String) {text : List Char} (front : IsFront text) :
    ReadsSuffix scheme fun suffix => readAfterScheme scheme (text ++ suffix) := by
  have plain := counted_front front
  have parted {mark : Char} (last : isPathChar mark = false) (rest : List Char) :
      counted (text ++ mark :: rest) = counted text ++ counted (mark :: rest) := counted_append _ _
  cases kind : kindOf scheme with
  | file =>
      have same : scheme = "file" := by
        unfold kindOf at kind
        split at kind
        · assumption
        · split at kind <;> cases kind
      subst same
      refine (readFile_suffix front).congr fun mark rest last => ?_
      simp only [readAfterScheme, kind]
  | special =>
      have inside : (counted text).dropWhile (isSlash .special) ⊆ text :=
        List.Subset.trans (List.dropWhile_suffix _).subset (counted_subset text)
      refine (readHierarchical_suffix scheme (front.of_subset inside)).counted.congr fun mark rest last => ?_
      simp only [readAfterScheme, kind]
      rw [parted last, counted_mark last, dropWhile_stop (isSlash_stop last .special)]
  | other =>
      have rooted {path : List Char} (front : IsFront path) :
          ReadsSuffix scheme fun suffix => .ok (complete scheme none
            (fun path => (Trail.root.extend .other path).path .other) (path ++ counted suffix)) :=
        (readsSuffix_complete front none _).counted
      have bare {path : List Char} (front : IsFront path) :
          ReadsSuffix scheme fun suffix => .ok (complete scheme none
            (fun path => String.ofList (percentEncode isControl path)) (path ++ counted suffix)) :=
        (readsSuffix_complete front none _).counted
      have read {mark : Char} (last : isPathChar mark = false) (rest : List Char) :
          readAfterScheme scheme (text ++ mark :: rest) = readCounted scheme (counted text ++ mark :: counted rest) := by
        have ended : counted (text ++ mark :: rest) = counted text ++ mark :: counted rest := by
          rw [parted last, counted_mark last]
        simp only [readAfterScheme, kind]
        exact ended ▸ rfl
      -- How many slashes there are is seen before the query begins.
      cases start : counted text with
      | nil =>
          have nothing : IsFront [] := by
            intro c member
            cases member
          refine (bare nothing).congr fun mark rest last => ?_
          rw [read last, start, counted_mark last]
          rcases isPathChar_stop last with rfl | rfl <;> rfl
      | cons first more =>
          rw [start] at plain
          by_cases slash : first = '/'
          · subst slash
            have later : IsFront more := plain.of_subset (List.subset_cons_self _ _)
            cases more with
            | nil =>
                refine (rooted later).congr fun mark rest last => ?_
                rw [read last, start, counted_mark last]
                rcases isPathChar_stop last with rfl | rfl <;> rfl
            | cons second others =>
                by_cases again : second = '/'
                · subst again
                  have hosted := readHierarchical_suffix scheme (later.of_subset (List.subset_cons_self _ _))
                  refine hosted.counted.congr fun mark rest last => ?_
                  rw [read last, start, counted_mark last]
                  rfl
                · refine (rooted later).congr fun mark rest last => ?_
                  rw [read last, start, counted_mark last, List.cons_append, List.cons_append]
                  unfold readCounted
                  split
                  · rename_i same
                    cases same
                    exact absurd rfl again
                  · rename_i same
                    cases same
                    rfl
                  · rename_i other
                    exact absurd rfl (other _)
          · refine (bare plain).congr fun mark rest last => ?_
            rw [read last, start, counted_mark last, List.cons_append]
            unfold readCounted
            split
            · rename_i same
              exact absurd (List.cons.inj same).1 slash
            · rename_i same
              exact absurd (List.cons.inj same).1 slash
            · rfl

end ResourceServer.Url
