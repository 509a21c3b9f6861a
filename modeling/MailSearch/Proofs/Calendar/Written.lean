import MailSearch.Proofs.Calendar.Succession
import Mathlib.Algebra.Group.Nat.Defs
import Mathlib.Data.List.Induction
import Mathlib.Logic.ExistsUnique

/-!
# Dates as they are written

A date is written with four digits for the year and two each for the month and the day
(`Date.text`). The texts that are read as dates are these and no others (`Date.read?_eq_some_iff`),
and as all of them have their digits in the same places, they are in the order of their dates
(`Date.text_lt_iff`). With the count of days this says all about the time stamp that a text stands
for (`Date.millis_read?`).
-/

namespace MailSearch.Calendar.Date

/-! ### Digits -/

/-- The last so many decimal digits of a number. -/
def decimal : (width : Nat) → Nat → List Char
  | 0, _ => []
  | width + 1, n => decimal width (n / 10) ++ [Nat.digitChar (n % 10)]

@[simp] theorem length_decimal (width n : Nat) : (decimal width n).length = width := by
  induction width generalizing n with
  | zero => rfl
  | succ width ih => simp [decimal, ih]

theorem digit?_eq_some_iff {c : Char} {d : Nat} :
    digit? c = some d ↔ d < 10 ∧ c = Nat.digitChar d := by
  unfold digit?
  constructor
  · intro h
    split at h
    · rename_i hdigit
      have hrange := Char.isDigit_iff_toNat.1 hdigit
      have hzero : '0'.toNat = 48 := rfl
      have hnine : '9'.toNat = 57 := rfl
      have hvalue : c.toNat - 48 = d := Option.some.inj h
      have hd : d < 10 := by omega
      refine ⟨hd, Char.toNat_inj.1 ?_⟩
      rw [Nat.toNat_digitChar_of_lt_ten hd]
      omega
    · cases h
  · rintro ⟨hd, rfl⟩
    have hzero : '0'.toNat = 48 := rfl
    rw [Nat.isDigit_digitChar, if_pos (decide_eq_true hd), Nat.toNat_digitChar_of_lt_ten hd, hzero]
    simp

theorem number?_concat (cs : List Char) (c : Char) :
    number? (cs ++ [c]) = (number? cs).bind fun n => (digit? c).map fun d => 10 * n + d := by
  unfold number?
  rw [List.mapM_append]
  cases cs.mapM digit? with
  | none => rfl
  | some ds => cases hc : digit? c <;> simp [hc]

/-- **The texts that are numbers are the written numbers.** Induction on the text from its end. -/
theorem number?_eq_some_iff {cs : List Char} {n : Nat} :
    number? cs = some n ↔ n < 10 ^ cs.length ∧ cs = decimal cs.length n := by
  induction cs using List.reverseRecOn generalizing n with
  | nil =>
    have hzero : number? [] = some 0 := rfl
    rw [hzero]
    simp [decimal, eq_comm]
  | append_singleton cs c ih =>
    have hlength : (cs ++ [c]).length = cs.length + 1 := by simp
    rw [number?_concat, hlength, Nat.pow_succ, decimal]
    simp only [Option.bind_eq_some_iff, Option.map_eq_some_iff, ih, digit?_eq_some_iff]
    constructor
    · -- the last digit is the remainder, and those before it are the quotient
      rintro ⟨k, ⟨hk, hcs⟩, d, ⟨hd, rfl⟩, rfl⟩
      have hdiv : (10 * k + d) / 10 = k := by omega
      have hmod : (10 * k + d) % 10 = d := by omega
      rw [hdiv, hmod, ← hcs]
      exact ⟨by omega, rfl⟩
    · rintro ⟨hn, hwritten⟩
      obtain ⟨hcs, hc⟩ := List.append_inj hwritten (length_decimal _ _).symm
      exact ⟨n / 10, ⟨by omega, hcs⟩, n % 10, ⟨Nat.mod_lt _ (by decide), List.cons.inj hc |>.1⟩,
        by omega⟩

/-! ### Dates -/

/-- A date in ten characters: its year, its month and its day, with zeros in front. -/
def text (date : Date) : String :=
  String.ofList (decimal 4 date.year ++ '-' :: (decimal 2 date.month ++ '-' :: decimal 2 date.day))

example : text ⟨987, 6, 5, by decide⟩ = "0987-06-05" := by decide

theorem year_lt (date : Date) : date.year < 10 ^ 4 :=
  Nat.lt_of_le_of_lt date.isDate.2.1 (by decide)

theorem month_lt (date : Date) : date.month < 10 ^ 2 :=
  Nat.lt_of_le_of_lt date.month_le.2 (by decide)

theorem day_lt (date : Date) : date.day < 10 ^ 2 := by
  obtain ⟨-, -, days, hmonth, -, hday⟩ := isDate_iff.1 date.isDate
  have hdays := hmonth.le
  omega

theorem toList_text (date : Date) : date.text.toList =
    decimal 4 date.year ++ '-' :: (decimal 2 date.month ++ '-' :: decimal 2 date.day) :=
  String.toList_ofList

theorem number?_decimal {width n : Nat} (h : n < 10 ^ width) :
    number? (decimal width n) = some n := by
  rw [number?_eq_some_iff, length_decimal]
  exact ⟨h, rfl⟩

/-- **A date is read back from its text.** -/
theorem read?_text (date : Date) : read? date.text = some date := by
  have hyear := number?_decimal date.year_lt
  have hmonth := number?_decimal date.month_lt
  have hday := number?_decimal date.day_lt
  simp only [decimal, List.nil_append, List.cons_append] at hyear hmonth hday
  simp only [read?, toList_text, decimal, List.nil_append, List.cons_append, hyear, hmonth, hday,
    Option.bind_eq_bind, Option.bind_some, ofNumbers?, dif_pos date.isDate]

/-- **The texts that are dates are the written dates.** -/
theorem read?_eq_some_iff {text : String} {date : Date} :
    read? text = some date ↔ text = date.text := by
  constructor
  · intro h
    unfold read? at h
    split at h
    case h_2 => cases h
    case h_1 y₁ y₂ y₃ y₄ m₁ m₂ d₁ d₂ htext =>
      simp only [Option.bind_eq_bind, Option.bind_eq_some_iff, number?_eq_some_iff] at h
      obtain ⟨year, ⟨-, hyear⟩, month, ⟨-, hmonth⟩, day, ⟨-, hday⟩, hdate⟩ := h
      unfold ofNumbers? at hdate
      split at hdate
      case isFalse => cases hdate
      case isTrue hvalid =>
        obtain rfl : ⟨year, month, day, hvalid⟩ = date := Option.some.inj hdate
        apply String.toList_injective
        rw [toList_text, htext]
        show [y₁, y₂, y₃, y₄] ++ '-' :: ([m₁, m₂] ++ '-' :: [d₁, d₂]) = _
        rw [hyear, hmonth, hday]
        rfl
  · rintro rfl
    exact date.read?_text

/-! ### The order of texts -/

/-- Texts with parts of one length are compared part by part. -/
theorem append_lt_append_iff {first first' rest rest' : List Char}
    (h : first.length = first'.length) :
    first ++ rest < first' ++ rest' ↔ first < first' ∨ first = first' ∧ rest < rest' := by
  induction first generalizing first' with
  | nil =>
    obtain rfl : first' = [] := List.length_eq_zero_iff.1 h.symm
    simp
  | cons c first ih =>
    obtain ⟨c', first', rfl⟩ := List.exists_cons_of_length_eq_add_one h.symm
    rw [List.cons_append, List.cons_append, List.cons_lt_cons_iff, List.cons_lt_cons_iff,
      ih (Nat.succ.inj h), List.cons.injEq]
    tauto

theorem decimal_inj {width n n' : Nat} (h : n < 10 ^ width) (h' : n' < 10 ^ width) :
    decimal width n = decimal width n' ↔ n = n' := by
  constructor
  · intro heq
    have hread := number?_decimal h
    rw [heq, number?_decimal h'] at hread
    exact (Option.some.inj hread).symm
  · rintro rfl
    rfl

theorem digitChar_lt_digitChar_iff {d d' : Nat} (h : d < 10) (h' : d' < 10) :
    Nat.digitChar d < Nat.digitChar d' ↔ d < d' := by
  rw [Char.lt_def, UInt32.lt_iff_toNat_lt]
  show (Nat.digitChar d).toNat < (Nat.digitChar d').toNat ↔ d < d'
  rw [Nat.toNat_digitChar_of_lt_ten h, Nat.toNat_digitChar_of_lt_ten h']
  omega

/-- With zeros in front, numbers are in the order of their texts. Induction on the digits. -/
theorem decimal_lt_decimal_iff {width n n' : Nat} (h : n < 10 ^ width) (h' : n' < 10 ^ width) :
    decimal width n < decimal width n' ↔ n < n' := by
  induction width generalizing n n' with
  | zero =>
    rw [Nat.pow_zero] at h h'
    exact iff_of_false (List.not_lt_nil []) (by omega)
  | succ width ih =>
    rw [Nat.pow_succ] at h h'
    have hn : n / 10 < 10 ^ width := by omega
    have hn' : n' / 10 < 10 ^ width := by omega
    have hlast : n % 10 < 10 := Nat.mod_lt _ (by decide)
    have hlast' : n' % 10 < 10 := Nat.mod_lt _ (by decide)
    -- the digits before the last decide, unless they are the same
    rw [decimal, decimal, append_lt_append_iff (by simp), ih hn hn', decimal_inj hn hn',
      List.cons_lt_cons_iff, digitChar_lt_digitChar_iff hlast hlast']
    simp only [List.lt_irrefl, and_false, or_false]
    omega

/-- **Dates are in the order of their texts.** -/
theorem text_lt_text_iff {date other : Date} : date.text < other.text ↔ date.Before other := by
  rw [String.lt_iff, toList_text, toList_text, append_lt_append_iff (by simp),
    List.cons_lt_cons_iff, append_lt_append_iff (by simp), List.cons_lt_cons_iff,
    decimal_lt_decimal_iff date.year_lt other.year_lt, decimal_inj date.year_lt other.year_lt,
    decimal_lt_decimal_iff date.month_lt other.month_lt, decimal_inj date.month_lt other.month_lt,
    decimal_lt_decimal_iff date.day_lt other.day_lt]
  simp [Before]

/-! ### Time stamps -/

theorem millis_eq_iff {date : Date} {millis : Int} : date.millis = millis ↔
    ∃ count, date.CountsDays count ∧ millis = 86400000 * count := by
  simp only [countsDays_iff, exists_eq_left, Date.millis, millisPerDay]
  omega

theorem millis_lt_millis_iff {date other : Date} :
    date.millis < other.millis ↔ date.Before other := by
  rw [← ordinal_lt_iff]
  simp only [Date.millis, daysSinceEpoch, millisPerDay]
  omega

/-- **The time stamp of a text.** A text has one if it is a written date, and it is a day's length
for every day from the epoch. The dates are all days that there are, each is so many days from the
epoch and no other number of days, and from a day to the next the number grows by one. So texts
with a time stamp are in the order of their time stamps. -/
theorem millis_read? (text : String) :
    (∀ millis : Int, (read? text).map Date.millis = some millis ↔
      ∃ (date : Date) (count : Int),
        text = date.text ∧ date.CountsDays count ∧ millis = 86400000 * count) ∧
    (∀ year month day, (∃ date : Date, date.year = year ∧ date.month = month ∧ date.day = day) ↔
      1 ≤ year ∧ year ≤ 9999 ∧ ∃ days, MonthHas year month days ∧ 1 ≤ day ∧ day ≤ days) ∧
    (∀ date : Date, ∃! count, date.CountsDays count) ∧
    (∀ date next : Date, date.Next next →
      ∀ count, date.CountsDays count ↔ next.CountsDays (count + 1)) ∧
    ∀ (other : String) (millis millis' : Int), (read? text).map Date.millis = some millis →
      (read? other).map Date.millis = some millis' → (text < other ↔ millis < millis') := by
  refine ⟨fun millis => ?stamp, fun year month day => ?days, fun date => ?counted,
    fun date next hnext count => ?step, fun other millis millis' h h' => ?order⟩
  case stamp =>
    simp only [Option.map_eq_some_iff, read?_eq_some_iff, millis_eq_iff, exists_and_left]
  case days =>
    rw [← isDate_iff]
    constructor
    · rintro ⟨date, rfl, rfl, rfl⟩
      exact date.isDate
    · intro hdate
      exact ⟨⟨year, month, day, hdate⟩, rfl, rfl, rfl⟩
  case counted =>
    simp only [countsDays_iff]
    exact existsUnique_eq
  case step =>
    rw [countsDays_iff, countsDays_iff, hnext.daysSinceEpoch_eq]
    omega
  case order =>
    simp only [Option.map_eq_some_iff, read?_eq_some_iff] at h h'
    obtain ⟨date, rfl, rfl⟩ := h
    obtain ⟨date', rfl, rfl⟩ := h'
    rw [text_lt_text_iff, millis_lt_millis_iff]

/-- The day before the epoch has a negative time stamp, and a leap day follows the day before it. -/
theorem millis_read?_epoch_eve :
    (read? "1969-12-31").map Date.millis = some (-86400000) ∧
    (read? "2024-02-29").map Date.millis = some 1709164800000 ∧
    ("1969-12-31" < "2024-02-29" ↔ (-86400000 : Int) < 1709164800000) ∧
    ∀ count, CountsDays ⟨2024, 2, 28, by decide⟩ count ↔
      CountsDays ⟨2024, 2, 29, by decide⟩ (count + 1) := by
  obtain ⟨-, -, -, hstep, horder⟩ := millis_read? "1969-12-31"
  have heve : (read? "1969-12-31").map Date.millis = some (-86400000) := by decide
  have hleap : (read? "2024-02-29").map Date.millis = some 1709164800000 := by decide
  exact ⟨heve, hleap, horder _ _ _ heve hleap, hstep _ _ (.day rfl rfl rfl)⟩

end MailSearch.Calendar.Date
