import ReadingLog.Date

/-!
# The order of the calendar

Dates are in a total order, and every date before another one has a next day: the first of all later dates.
-/

namespace ReadingLog.Date

theorem le_iff {a b : Date} :
    a ≤ b ↔ a.year < b.year ∨ a.year = b.year ∧ (a.month < b.month ∨ a.month = b.month ∧ a.day ≤ b.day) := Iff.rfl

theorem lt_iff {a b : Date} : a < b ↔ ¬ b ≤ a := Iff.rfl

theorem le_total (a b : Date) : a ≤ b ∨ b ≤ a := by
  simp only [le_iff]
  omega

theorem le_refl (a : Date) : a ≤ a := by
  rcases le_total a a with ordered | ordered <;> exact ordered

theorem le_trans {a b c : Date} (first : a ≤ b) (second : b ≤ c) : a ≤ c := by
  simp only [le_iff] at *
  omega

theorem le_antisymm {a b : Date} (first : a ≤ b) (second : b ≤ a) : a = b := by
  obtain ⟨year, month, day, _⟩ := a
  obtain ⟨year', month', day', _⟩ := b
  simp only [le_iff] at first second
  have years : year = year' := by omega
  have months : month = month' := by omega
  have days : day = day' := by omega
  subst years months days
  rfl

theorem le_of_lt {a b : Date} (before : a < b) : a ≤ b := (le_total a b).resolve_right before

/-! ## The next day -/

theorem ofYMD?_eq_some {year : Int} {month day : Nat} (d : IsDay year month day) :
    ofYMD? year month day = some ⟨year, month, day, d⟩ := dif_pos d

theorem ofYMD?_eq_none {year : Int} {month day : Nat} (d : ¬ IsDay year month day) : ofYMD? year month day = none :=
  dif_neg d

theorem ofYMD?_eq_some_iff {year : Int} {month day : Nat} {d : Date} :
    ofYMD? year month day = some d ↔ d.year = year ∧ d.month = month ∧ d.day = day := by
  unfold ofYMD?
  constructor
  · intro found
    split at found
    · obtain rfl := Option.some.inj found
      exact ⟨rfl, rfl, rfl⟩
    · cases found
  · rintro ⟨rfl, rfl, rfl⟩
    rw [dif_pos d.isDay]

theorem day_le (d : Date) : d.day ≤ 31 := by
  have last := d.isDay.day_range.2
  unfold daysInMonth at last
  split at last
  · split at last <;> omega
  all_goals omega

theorem isDay_month_start {year : Int} {month : Nat} (years : firstYear ≤ year ∧ year ≤ lastYear)
    (months : 1 ≤ month ∧ month ≤ 12) : IsDay year month 1 := by
  refine ⟨years, months, Nat.le_refl 1, ?_⟩
  unfold daysInMonth
  split
  · split <;> omega
  all_goals omega

/-- What the next day is: in the same month, or after the last day of a month at the start of the next month, or after
    that of the last month at the start of the next year. The last day of the last year has none. -/
theorem next?_cases (d : Date) :
    (∃ h, d.next? = some ⟨d.year, d.month, d.day + 1, h⟩) ∨
    (d.day = daysInMonth d.year d.month ∧ ∃ h, d.next? = some ⟨d.year, d.month + 1, 1, h⟩) ∨
    (d.day = daysInMonth d.year d.month ∧ d.month = 12 ∧ ∃ h, d.next? = some ⟨d.year + 1, 1, 1, h⟩) ∨
    (d.day = daysInMonth d.year d.month ∧ d.month = 12 ∧ d.year = lastYear ∧ d.next? = none) := by
  obtain ⟨years, months, days⟩ := d.isDay
  by_cases same : IsDay d.year d.month (d.day + 1)
  · exact .inl ⟨same, by simp [next?, ofYMD?_eq_some same]⟩
  have last : d.day = daysInMonth d.year d.month := by
    apply Nat.le_antisymm days.2
    apply Nat.le_of_not_lt
    exact fun inner => same ⟨years, months, by omega, inner⟩
  by_cases month : IsDay d.year (d.month + 1) 1
  · exact .inr (.inl ⟨last, month, by simp [next?, ofYMD?_eq_none same, ofYMD?_eq_some month]⟩)
  have december : d.month = 12 := by
    apply Nat.le_antisymm months.2
    apply Nat.le_of_not_lt
    exact fun earlier => month (isDay_month_start years (by omega))
  by_cases year : IsDay (d.year + 1) 1 1
  · exact .inr (.inr (.inl ⟨last, december, year,
      by simp [next?, ofYMD?_eq_none same, ofYMD?_eq_none month, ofYMD?_eq_some year]⟩))
  have final : d.year = lastYear := by
    apply Int.le_antisymm years.2
    apply Int.not_lt.1
    exact fun earlier => year (isDay_month_start (by omega) (by omega))
  exact .inr (.inr (.inr ⟨last, december, final,
    by simp [next?, ofYMD?_eq_none same, ofYMD?_eq_none month, ofYMD?_eq_none year]⟩))

/-- In the month of the last day of a month no day is later. -/
theorem day_le_of_last {d e : Date} (last : d.day = daysInMonth d.year d.month) (years : e.year = d.year)
    (months : e.month = d.month) : e.day ≤ d.day := by
  have bound := e.isDay.day_range.2
  rw [years, months] at bound
  omega

/-- The next day is the first of all later dates. -/
theorem next?_le_iff {d following : Date} (next : d.next? = some following) (e : Date) : following ≤ e ↔ d < e := by
  have months := e.isDay.month_range
  have days := e.isDay.day_range
  rcases next?_cases d with ⟨h, same⟩ | ⟨last, h, same⟩ | ⟨last, december, h, same⟩ | ⟨last, december, final, none⟩
  · obtain rfl := Option.some.inj (same.symm.trans next)
    simp only [lt_iff, le_iff]
    omega
  · obtain rfl := Option.some.inj (same.symm.trans next)
    have bound := day_le_of_last (e := e) last
    simp only [lt_iff, le_iff]
    omega
  · obtain rfl := Option.some.inj (same.symm.trans next)
    have bound := day_le_of_last (e := e) last
    simp only [lt_iff, le_iff]
    omega
  · rw [none] at next
    contradiction

/-- A date before another one has a next day. -/
theorem exists_next? {d e : Date} (before : d < e) : ∃ following, d.next? = some following := by
  have months := e.isDay.month_range
  have years := e.isDay.year_range
  rcases next?_cases d with ⟨h, same⟩ | ⟨last, h, same⟩ | ⟨last, december, h, same⟩ | ⟨last, december, final, none⟩
  · exact ⟨_, same⟩
  · exact ⟨_, same⟩
  · exact ⟨_, same⟩
  · have bound := day_le_of_last (e := e) last
    simp only [lt_iff, le_iff] at before
    omega

end ReadingLog.Date
