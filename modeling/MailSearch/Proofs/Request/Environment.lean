import MailSearch.Request.Settings
import Mathlib.Data.List.Basic

/-!
# Settings from the environment

A variable counts exactly if its text is read as a positive integer, lowered to the ceiling of the
variable; in all other cases the variable has its fallback (`Setting.value_read`). A blank text needs no
case of its own, since no integer is read from it. So whatever the environment holds, each setting is
positive (`Setting.one_le_value_read`) and is within its ceiling (`Setting.value_read_le_of_ceiling?`).
-/

namespace MailSearch

namespace Text

/-! ### Blank texts -/

/-- No digit of any script is blank. -/
theorem digit?_of_isBlank {c : Char} (h : isBlank c = true) : digit? c = none :=
  forall_of_isBlank (p := (digit? · = none)) (by decide +kernel) h

theorem readNat?_of_isBlank {cs : List Char} (h : ∀ c ∈ cs, isBlank c = true) :
    readNat? cs = none := by
  cases cs with
  | nil => rfl
  | cons c cs =>
    have hdigit : digit? c = none := digit?_of_isBlank (h c (List.mem_cons_self ..))
    rw [readNat?, digits?, hdigit]
    rfl

theorem mem_of_mem_trim {p : Char → Bool} {cs : List Char} {c : Char} (h : c ∈ trim p cs) :
    c ∈ cs := by
  rw [trim, List.mem_reverse] at h
  have hinner := (List.dropWhile_suffix p).mem h
  rw [List.mem_reverse] at hinner
  exact (List.dropWhile_suffix p).mem hinner

/-- No integer is read from a blank text, also where its blanks may not stand around a number. -/
theorem readInt?_of_isBlankText {text : String} (h : isBlankText text = true) :
    readInt? text = none := by
  have hblank : ∀ c ∈ trim isMargin text.toList, isBlank c = true := fun c hc =>
    List.all_eq_true.1 h c (mem_of_mem_trim hc)
  unfold readInt?
  split
  · rename_i rest heq
    have hsign := hblank '-' (by simp [heq])
    exact absurd hsign (by decide)
  · rename_i rest heq
    have hsign := hblank '+' (by simp [heq])
    exact absurd hsign (by decide)
  · rw [readNat?_of_isBlank hblank]
    rfl

end Text

/-! ### Single settings -/

namespace Setting

variable (environment : Environment) (setting : Setting)

/-- The positive integer that the environment has for a variable. -/
def given? : Option Int :=
  ((environment setting).bind Text.readInt?).filter (1 ≤ ·)

theorem value_cap (value : Int) :
    (setting.cap value).value = (setting.ceiling?.map (min value)).getD value := by
  unfold cap
  cases setting.ceiling? with
  | none => rfl
  | some ceiling =>
    simp only [Option.map_some, Option.getD_some]
    split
    · rename_i hlarge
      exact (Int.min_eq_right (Int.le_of_lt hlarge)).symm
    · rename_i hsmall
      exact (Int.min_eq_left (Int.not_lt.1 hsmall)).symm

/-- **A variable counts if it is a positive integer**, and otherwise has its fallback. -/
theorem value_read :
    (read environment setting).value
      = ((given? environment setting).map fun n => (setting.cap n).value).getD setting.fallback := by
  unfold read given?
  cases environment setting with
  | none => rfl
  | some raw =>
    simp only [Option.bind_some]
    unfold ofText
    split
    · rename_i hblank
      rw [Text.readInt?_of_isBlankText hblank]
      rfl
    · cases Text.readInt? raw with
      | none => rfl
      | some n =>
        -- an integer that is not positive counts as little as no integer
        by_cases hpositive : 1 ≤ n
        · simp [Option.filter, hpositive, Int.not_lt.2 hpositive]
        · simp [Option.filter, hpositive, Int.not_le.1 hpositive]

theorem one_le_fallback : 1 ≤ setting.fallback := by
  cases setting <;> decide

theorem fallback_le_of_ceiling? : ∀ ceiling ∈ setting.ceiling?, setting.fallback ≤ ceiling := by
  cases setting <;> decide

theorem one_le_of_given? : ∀ n ∈ given? environment setting, 1 ≤ n := by
  intro n hn
  have hpositive := (Option.filter_eq_some_iff.1 hn).2
  exact of_decide_eq_true hpositive

/-- **Every setting is positive**, whatever the environment holds. -/
theorem one_le_value_read : 1 ≤ (read environment setting).value := by
  rw [value_read]
  cases hgiven : given? environment setting with
  | none => exact setting.one_le_fallback
  | some n =>
    have hn : 1 ≤ n := one_le_of_given? environment setting n hgiven
    simp only [Option.map_some, Option.getD_some, value_cap]
    cases hceiling : setting.ceiling? with
    | none => exact hn
    | some ceiling =>
      have hfallback := setting.one_le_fallback
      have hle := setting.fallback_le_of_ceiling? ceiling hceiling
      exact Int.le_min.2 ⟨hn, Int.le_trans hfallback hle⟩

/-- No setting is beyond its ceiling. -/
theorem value_read_le_of_ceiling? :
    ∀ ceiling ∈ setting.ceiling?, (read environment setting).value ≤ ceiling := by
  intro ceiling hceiling
  rw [value_read]
  cases given? environment setting with
  | none => exact setting.fallback_le_of_ceiling? ceiling hceiling
  | some n =>
    simp only [Option.map_some, Option.getD_some, value_cap, Option.mem_def.1 hceiling]
    exact Int.min_le_right n ceiling

end Setting

end MailSearch
