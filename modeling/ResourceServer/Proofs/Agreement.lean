import ResourceServer.Proofs.Meaning

/-! Agreement of values: within one type it is equality, but for the two zeros. -/

namespace ResourceServer

open ResourceServer.Number ResourceServer.Calendar ResourceServer.Store

theorem Calendar.Date.compare_eq {left right : Date} :
    left.compare right = .eq ↔ left = right := by
  constructor
  · intro same
    obtain ⟨year, rest⟩ := Ordering.then_eq_eq.mp same
    obtain ⟨month, day⟩ := Ordering.then_eq_eq.mp rest
    have year := Std.LawfulEqOrd.eq_of_compare year
    have month := Std.LawfulEqOrd.eq_of_compare month
    have day := Std.LawfulEqOrd.eq_of_compare day
    cases left
    cases right
    cases year
    cases month
    cases day
    rfl
  · rintro rfl
    simp [Date.compare]

theorem Calendar.Time.compare_eq {left right : Time} :
    left.compare right = .eq ↔ left = right := by
  constructor
  · intro same
    obtain ⟨hour, rest⟩ := Ordering.then_eq_eq.mp same
    obtain ⟨minute, rest⟩ := Ordering.then_eq_eq.mp rest
    obtain ⟨second, nanosecond⟩ := Ordering.then_eq_eq.mp rest
    have hour := Std.LawfulEqOrd.eq_of_compare hour
    have minute := Std.LawfulEqOrd.eq_of_compare minute
    have second := Std.LawfulEqOrd.eq_of_compare second
    have nanosecond := Std.LawfulEqOrd.eq_of_compare nanosecond
    cases left
    cases right
    cases hour
    cases minute
    cases second
    cases nanosecond
    rfl
  · rintro rfl
    simp [Time.compare]

theorem Calendar.Timestamp.compare_eq {left right : Timestamp} :
    left.compare right = .eq ↔ left = right := by
  constructor
  · intro same
    obtain ⟨date, time⟩ := Ordering.then_eq_eq.mp same
    rw [Date.compare_eq] at date
    rw [Time.compare_eq] at time
    cases left
    cases right
    cases date
    cases time
    rfl
  · rintro rfl
    exact Ordering.then_eq_eq.mpr ⟨Date.compare_eq.mpr rfl, Time.compare_eq.mpr rfl⟩

theorem Calendar.Duration.compare_eq {left right : Duration} :
    left.compare right = .eq ↔ left = right := by
  constructor
  · intro same
    have microseconds := Std.LawfulEqOrd.eq_of_compare same
    cases left
    cases right
    cases microseconds
    rfl
  · rintro rfl
    simp [Duration.compare]

theorem Number.Binary64.compare_eq {left right : Binary64} :
    left.compare? right = some .eq ↔ ∃ rank, left.rank? = some rank ∧ right.rank? = some rank := by
  unfold Binary64.compare?
  cases left.rank? with
  | none => simp
  | some l =>
      cases right.rank? with
      | none => simp
      | some r =>
          simp only [Option.some.injEq, Std.LawfulEqOrd.compare_eq_iff_eq]
          constructor
          · rintro rfl
            exact ⟨l, rfl, rfl⟩
          · rintro ⟨rank, rfl, rfl⟩
            rfl

namespace Store.Cell

def rank? : Cell → Option Int
  | .integer value => (Binary64.ofInt value).rank?
  | .decimal value => value.rank?
  | _ => none

/-- Values agree if they are equal, or numbers of which one is a decimal and that share a place. -/
theorem agrees_iff {left right : Cell} :
    left.agrees right = true ↔
      left = right ∧ left ≠ .null ∧ left.type? ≠ some .decimal ∨
        (left.type? = some .decimal ∨ right.type? = some .decimal) ∧
          ∃ rank, left.rank? = some rank ∧ right.rank? = some rank := by
  unfold agrees
  rw [decide_eq_true_iff]
  cases left <;> cases right <;>
    simp [compare?, type?, rank?, Binary64.compare_eq, Date.compare_eq, Time.compare_eq,
      Timestamp.compare_eq, Duration.compare_eq]

theorem agrees_symm {left right : Cell} (agree : left.agrees right) : right.agrees left := by
  rw [agrees_iff] at agree ⊢
  rcases agree with ⟨rfl, given, whole⟩ | ⟨decimal, rank, one, other⟩
  · exact .inl ⟨rfl, given, whole⟩
  · exact .inr ⟨decimal.symm, rank, other, one⟩

theorem agrees_null (cell : Cell) : cell.agrees .null = false := by
  unfold agrees compare?
  cases cell <;> rfl

/-- What agrees with a value agrees with all values of its type that agree with it. -/
theorem agrees_trans {one mid other : Cell} (first : one.agrees mid) (second : mid.agrees other)
    (kind : mid.type? = other.type?) : one.agrees other := by
  rw [agrees_iff] at second
  rcases second with ⟨rfl, _, _⟩ | ⟨decimal, rank, here, there⟩
  · exact first
  · have decimal' : mid.type? = some .decimal := decimal.elim id (kind.trans ·)
    rw [agrees_iff] at first ⊢
    rcases first with ⟨rfl, _, whole⟩ | ⟨_, rank', one, here'⟩
    · exact absurd decimal' whole
    · rw [here] at here'
      cases here'
      exact .inr ⟨.inr (kind ▸ decimal'), rank, one, there⟩

end Store.Cell

end ResourceServer
