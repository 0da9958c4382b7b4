import ScatterGather.Calendar.Timestamp
import ScatterGather.Proofs.Calendar.Date
import ScatterGather.Proofs.Text

/-!
# Text of points in time, read back

The text of a point in time is taken apart at its marks. Numbers are padded with zeros, which do not
count, and a year has a sign if it does not have four digits, so the parts are known again; and the
date and the time of the day tell the point in time.

**Results.** `timestampText?_inj`: two points in time with the same text are the same.
-/

namespace ScatterGather
namespace Calendar

/-! ## Padded numbers -/

theorem toList_padded (width n : Nat) :
    (padded width n).toList =
      List.replicate (width - (Nat.toDigits 10 n).length) '0' ++ Nat.toDigits 10 n := by
  simp [padded]

/-- Zeros in front do not count. -/
theorem padded_inj
    {width m n : Nat}
    (h : (padded width m).toList = (padded width n).toList) :
    m = n := by
  rw [toList_padded, toList_padded] at h
  simpa [Nat.ofDigitChars_append] using congrArg (Nat.ofDigitChars 10 · 0) h

theorem isDigit_of_mem_padded
    {width n : Nat} {c : Char}
    (h : c ∈ (padded width n).toList) :
    c.isDigit = true := by
  rw [toList_padded, List.mem_append, List.mem_replicate] at h
  rcases h with ⟨-, rfl⟩ | h
  · rfl
  · exact Nat.isDigit_of_mem_toDigits (by decide) (by decide) h

theorem not_mem_padded
    {mark : Char}
    (hmark : mark.isDigit = false)
    (width n : Nat) :
    mark ∉ (padded width n).toList := by
  intro hmem
  rw [isDigit_of_mem_padded hmem] at hmark
  cases hmark

/-! ## Dates and times -/

/-- The sign of a year that does not have four digits. -/
def yearSign (year : Int) : List Char :=
  if year < 0 then ['-'] else if 9999 < year then ['+'] else []

theorem toList_yearText (year : Int) :
    (yearText year).toList = yearSign year ++ (padded 4 year.natAbs).toList := by
  unfold yearText yearSign
  split_ifs <;> simp

/-- The digits of the text of a year are its number, the rest is its sign. -/
theorem filter_yearText (year : Int) :
    (yearText year).toList.filter (·.isDigit) = (padded 4 year.natAbs).toList ∧
    (yearText year).toList.filter (!·.isDigit) = yearSign year := by
  have hdigits : ∀ c ∈ (padded 4 year.natAbs).toList, c.isDigit = true :=
    fun c => isDigit_of_mem_padded
  have hsign : ∀ c ∈ yearSign year, c.isDigit = false := by
    unfold yearSign
    split_ifs <;> simp
  rw [toList_yearText, List.filter_append, List.filter_append]
  constructor
  · rw [List.filter_eq_nil_iff.2 (by simpa using hsign), List.filter_eq_self.2 hdigits,
      List.nil_append]
  · rw [List.filter_eq_self.2 (by simpa using hsign),
      List.filter_eq_nil_iff.2 (by simpa using hdigits), List.append_nil]

theorem yearText_inj
    {year year' : Int}
    (h : (yearText year).toList = (yearText year').toList) :
    year = year' := by
  obtain ⟨hdigits, hsign⟩ := filter_yearText year
  obtain ⟨hdigits', hsign'⟩ := filter_yearText year'
  rw [h, hdigits'] at hdigits
  rw [h, hsign'] at hsign
  have hnumber : year'.natAbs = year.natAbs := padded_inj hdigits
  unfold yearSign at hsign
  split_ifs at hsign <;> first | omega | simp at hsign

theorem Date.toList_text_inj
    {date date' : Date}
    (h : date.text.toList = date'.text.toList) :
    date = date' := by
  have hdash : ∀ n, '-' ∉ (padded 2 n).toList := not_mem_padded (by decide) 2
  have hparts : ∀ date : Date, date.text.toList =
      ((yearText date.year).toList ++ '-' :: (padded 2 date.month).toList) ++
        '-' :: (padded 2 date.day).toList := by
    simp [Date.text]
  rw [hparts, hparts] at h
  obtain ⟨hfront, hday⟩ := append_cons_inj (hdash _) (hdash _) h
  obtain ⟨hyear, hmonth⟩ := append_cons_inj (hdash _) (hdash _) hfront
  obtain ⟨year, month, day⟩ := date
  obtain ⟨year', month', day'⟩ := date'
  rw [mk.injEq]
  exact ⟨yearText_inj hyear, padded_inj hmonth, padded_inj hday⟩

theorem timeText_inj
    {milliseconds milliseconds' : Nat}
    (h : (timeText milliseconds).toList = (timeText milliseconds').toList) :
    milliseconds = milliseconds' := by
  have hcolon : ∀ width n, ':' ∉ (padded width n).toList := not_mem_padded (by decide)
  have hpoint : ∀ width n, '.' ∉ (padded width n).toList := not_mem_padded (by decide)
  have hparts : ∀ n, (timeText n).toList =
      (((padded 2 (n / 3600000)).toList ++ ':' :: (padded 2 (n / 60000 % 60)).toList) ++
        ':' :: (padded 2 (n / 1000 % 60)).toList) ++ '.' :: (padded 3 (n % 1000)).toList := by
    simp [timeText]
  rw [hparts, hparts] at h
  obtain ⟨hfront, hfraction⟩ := append_cons_inj (hpoint _ _) (hpoint _ _) h
  obtain ⟨hfront, hseconds⟩ := append_cons_inj (hcolon _ _) (hcolon _ _) hfront
  obtain ⟨hhours, hminutes⟩ := append_cons_inj (hcolon _ _) (hcolon _ _) hfront
  have hhours := padded_inj hhours
  have hminutes := padded_inj hminutes
  have hseconds := padded_inj hseconds
  have hfraction := padded_inj hfraction
  omega

/-- No time of a day has a space in it. -/
theorem space_not_mem_timeText (milliseconds : Nat) : ' ' ∉ (timeText milliseconds).toList := by
  have hspace : ∀ width n, ' ' ∉ (padded width n).toList := not_mem_padded (by decide)
  simp [timeText, hspace]

/-- Two points in time with the same text are the same. -/
theorem timestampText?_inj
    {milliseconds milliseconds' : Int} {text : String}
    (h : timestampText? milliseconds = some text)
    (h' : timestampText? milliseconds' = some text) :
    milliseconds = milliseconds' := by
  have hparts : ∀ n, timestampText? n = some text → text.toList =
      (Date.ofDays (n / millisecondsPerDay)).text.toList ++
        ' ' :: (timeText (n % millisecondsPerDay).toNat).toList := by
    intro n hn
    obtain ⟨-, hn⟩ := Option.ite_none_right_eq_some.1 hn
    rw [← Option.some.inj hn]
    simp
  have htext := (hparts _ h).symm.trans (hparts _ h')
  obtain ⟨hdate, htime⟩ :=
    append_cons_inj (space_not_mem_timeText _) (space_not_mem_timeText _) htext
  have hdays := Date.ofDays_inj (Date.toList_text_inj hdate)
  have htime := timeText_inj htime
  unfold millisecondsPerDay at hdays htime
  omega

end Calendar
end ScatterGather
