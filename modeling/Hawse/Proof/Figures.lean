import Hawse.Lib.Rounding
import Hawse.Proof.Terminal

namespace Hawse.Proof.Figures
open Lib Lib.Rounding Hawse.Terminal

/-! ## What a figure says -/

def units : List Char := ['B', 'K', 'M', 'G']

/-- So many of a unit, which is a power of 1024. -/
structure Figure where
  value : ℚ
  power : Nat

def Figure.amount (figure : Figure) : ℚ := figure.value * 1024 ^ figure.power

def readDigits (text : List Char) : Option Nat :=
  if text ≠ [] ∧ text.all Name.isAsciiDigit then
    some (text.foldl (fun value c => 10 * value + (c.toNat - '0'.toNat)) 0)
  else none

def readValue (text : List Char) : Option ℚ :=
  match splitOnce '.' text with
  | some (whole, fraction) =>
      (readDigits whole).bind fun n => (readDigits fraction).map fun m : Nat => (n + m / 10 ^ fraction.length : ℚ)
  | none => (readDigits text).map fun n => (n : ℚ)

def readFigure (text : List Char) : Option Figure :=
  (readValue text.dropLast).bind fun value =>
    (text.getLast?.bind (units.idxOf? ·)).map fun power => ⟨value, power⟩

/-- `count` in a unit, to the nearest whole. -/
def nearest (count power : Nat) : ℤ := round ((count : ℚ) / 1024 ^ power)

/-- And to the nearest tenth, in tenths. -/
def nearestTenth (count power : Nat) : ℤ := round ((count * 10 : ℚ) / 1024 ^ power)

/-- The first unit `count` is under 1000 of, or the last of all. -/
structure First (count power : Nat) : Prop where
  known : power < units.length
  past : ∀ smaller < power, 1000 ≤ nearest count smaller
  under : power + 1 < units.length → nearest count power < 1000

structure Shows (count : Nat) (text : List Char) (figure : Figure) : Prop where
  read : readFigure text = some figure
  first : First count figure.power
  tenth : nearestTenth count figure.power < 100 → figure.value = (nearestTenth count figure.power : ℚ) / 10
  whole : 100 ≤ nearestTenth count figure.power → figure.value = nearest count figure.power
  /-- A count of bytes is its own nearest tenth and goes without the point. -/
  point : '.' ∈ text ↔ 0 < figure.power ∧ nearestTenth count figure.power < 100
  under : figure.power + 1 < units.length → figure.value < 1000

theorem nearest_eq (count power : Nat) : nearest count power = halfUp count (1024 ^ power) := by
  rw [nearest, ← round_eq_halfUp count (Nat.pow_pos (by decide))]
  push_cast
  rfl

theorem nearestTenth_eq (count power : Nat) : nearestTenth count power = halfUp (count * 10) (1024 ^ power) := by
  rw [nearestTenth, ← round_eq_halfUp (count * 10) (Nat.pow_pos (by decide))]
  push_cast
  rfl

/-! ## Reading a text back -/

theorem readDigits_decimal (n : Nat) : readDigits (decimal n) = some n := by
  have numeric : (decimal n).all Name.isAsciiDigit := List.all_eq_true.mpr fun c => Text.decimal_digit
  rw [readDigits, if_pos ⟨Text.decimal_ne_nil n, numeric⟩, Text.decimal_foldl]

theorem readValue_whole (n : Nat) : readValue (decimal n) = some (n : ℚ) := by
  have unsplit : splitOnce '.' (decimal n) = none := Text.splitOnce_eq_none.mpr (Text.not_mem_decimal (by decide))
  rw [readValue, unsplit]
  simp [readDigits_decimal]

theorem length_decimal {n : Nat} (small : n < 10) : (decimal n).length = 1 := by
  rw [decimal, Nat.toDigits_of_lt_base small]
  rfl

theorem readValue_tenths (n : Nat) : readValue (decimal (n / 10) ++ '.' :: decimal (n % 10)) = some ((n : ℚ) / 10) := by
  have value : ((n / 10 : Nat) : ℚ) + ((n % 10 : Nat) : ℚ) / 10 = (n : ℚ) / 10 := by
    have parts : ((n / 10 : Nat) : ℚ) * 10 + ((n % 10 : Nat) : ℚ) = n := by exact_mod_cast Nat.div_add_mod' n 10
    linarith
  rw [readValue, Text.splitOnce_append _ (Text.not_mem_decimal (by decide))]
  simp only [readDigits_decimal, Option.bind_some, Option.map_some, length_decimal (Nat.mod_lt n (by decide)), pow_one]
  rw [value]

theorem idxOf_unit {power : Nat} {unit : Char} (named : units[power]? = some unit) : units.idxOf? unit = some power := by
  obtain ⟨inside, named⟩ := List.getElem?_eq_some_iff.mp named
  have known : ∀ place : Fin units.length, units.idxOf? (units.get place) = some place.val := by decide
  rw [← named]
  exact known ⟨power, inside⟩

theorem readFigure_append {power : Nat} {unit : Char} (named : units[power]? = some unit) {number : List Char} {value : ℚ}
    (read : readValue number = some value) : readFigure (number ++ [unit]) = some ⟨value, power⟩ := by
  simp [readFigure, read, idxOf_unit named]

/-! ## The unit -/

theorem figure_eq (count scale : Nat) (unit : Char) : scaled.figure count scale unit =
    if halfUp (count * 10) scale < 100 then
      (decimal (halfUp (count * 10) scale / 10) ++ '.' :: decimal (halfUp (count * 10) scale % 10)) ++ [unit]
    else decimal (halfUp count scale) ++ [unit] := by
  have tenths : (count * 20 + scale) / (scale * 2) = halfUp (count * 10) scale := by
    rw [halfUp, Nat.mul_assoc]
  simp only [scaled.figure, tenths, List.append_assoc, List.cons_append]
  rfl

/-- The loop stops at the first unit that holds the count. -/
theorem scaled_eq (count scale : Nat) (unit : Char) (larger : List Char) :
    ∃ power name, (unit :: larger)[power]? = some name ∧
      scaled count scale unit larger = scaled.figure count (scale * 1024 ^ power) name ∧
      (∀ smaller < power, 1000 ≤ halfUp count (scale * 1024 ^ smaller)) ∧
      (power < larger.length → halfUp count (scale * 1024 ^ power) < 1000) := by
  induction larger generalizing scale unit with
  | nil => exact ⟨0, unit, rfl, by simp [scaled], fun _ below => absurd below (by omega), fun inside => absurd inside (by simp)⟩
  | cons next larger ih =>
      by_cases enough : 1000 ≤ halfUp count scale
      · obtain ⟨power, name, named, text, past, under⟩ := ih (scale * 1024) next
        have further (p : Nat) : scale * 1024 ^ (p + 1) = scale * 1024 * 1024 ^ p := by rw [pow_succ', mul_assoc]
        refine ⟨power + 1, name, named, ?_, ?_, ?_⟩
        · rw [further, ← text]
          exact if_pos enough
        · intro smaller below
          cases smaller with
          | zero => simpa using enough
          | succ smaller =>
              rw [further]
              exact past smaller (by omega)
        · intro inside
          rw [further]
          exact under (by simpa using inside)
      · refine ⟨0, unit, rfl, ?_, fun _ below => absurd below (by omega), fun _ => by simpa using enough⟩
        rw [pow_zero, mul_one]
        exact if_neg enough

def written (count power : Nat) (unit : Char) : List Char :=
  if power = 0 then decimal count ++ [unit] else scaled.figure count (1024 ^ power) unit

theorem bytes_eq (count : Nat) :
    ∃ power unit, units[power]? = some unit ∧ First count power ∧ bytes count = written count power unit := by
  by_cases small : count < 1000
  · refine ⟨0, 'B', rfl, ⟨by decide, fun _ below => absurd below (by omega), fun _ => ?_⟩, ?_⟩
    · rw [nearest_eq, pow_zero, halfUp_one]
      exact_mod_cast small
    · rw [bytes, if_pos small, written, if_pos rfl]
  · obtain ⟨power, unit, named, text, past, under⟩ := scaled_eq count 1024 'K' ['M', 'G']
    have further (p : Nat) : 1024 * 1024 ^ p = 1024 ^ (p + 1) := by rw [pow_succ']
    have inside : power < 3 := (List.getElem?_eq_some_iff.mp named).1
    refine ⟨power + 1, unit, named, ⟨Nat.succ_lt_succ inside, ?_, ?_⟩, ?_⟩
    · intro smaller below
      rw [nearest_eq]
      cases smaller with
      | zero =>
          rw [pow_zero, halfUp_one]
          exact_mod_cast not_lt.mp small
      | succ smaller =>
          rw [← further]
          exact_mod_cast past smaller (by omega)
    · intro below
      rw [nearest_eq, ← further]
      exact_mod_cast under (Nat.lt_of_succ_lt_succ (Nat.lt_of_succ_lt_succ below))
    · rw [bytes, if_neg small, text, further, written, if_neg (Nat.succ_ne_zero power)]

/-! ## The value -/

section Written
variable {count power : Nat} {unit : Char} (named : units[power]? = some unit)
include named

theorem readFigure_written :
    readFigure (written count power unit) = some ⟨(tenths count (1024 ^ power) : ℚ) / 10, power⟩ := by
  unfold written
  split
  case isTrue bytes =>
    have own : (tenths count (1024 ^ power) : ℚ) / 10 = count := by
      rw [bytes, pow_zero, tenths, halfUp_one, halfUp_one, ite_self]
      push_cast
      exact mul_div_cancel_right₀ _ (by norm_num)
    rw [own]
    exact readFigure_append named (readValue_whole count)
  case isFalse =>
    rw [figure_eq, tenths]
    split
    · exact readFigure_append named (readValue_tenths _)
    · rw [Nat.cast_mul, Nat.cast_ofNat, mul_div_cancel_right₀ _ (by norm_num)]
      exact readFigure_append named (readValue_whole _)

theorem unit_printable : unit ≠ '.' ∧ 0x20 ≤ unit.toNat ∧ unit.toNat < 0x7f := by
  have printable : units.all fun unit => unit ≠ '.' ∧ 0x20 ≤ unit.toNat ∧ unit.toNat < 0x7f := by decide
  exact of_decide_eq_true (List.all_eq_true.mp printable unit (List.mem_of_getElem? named))

theorem point_written : '.' ∈ written count power unit ↔ 0 < power ∧ halfUp (count * 10) (1024 ^ power) < 100 := by
  have unwritten (n : Nat) : '.' ∉ decimal n ++ [unit] := by
    rw [List.mem_append, List.mem_singleton, not_or]
    exact ⟨Text.not_mem_decimal (by decide), (unit_printable named).1.symm⟩
  unfold written
  split
  case isTrue bytes => exact iff_of_false (unwritten _) fun pointed => by omega
  case isFalse scaled =>
    rw [figure_eq]
    split
    case isTrue few => exact iff_of_true (by simp) ⟨Nat.pos_of_ne_zero scaled, few⟩
    case isFalse many => exact iff_of_false (unwritten _) fun pointed => many pointed.2

end Written

theorem tenths_le {count scale : Nat} (under : halfUp count scale < 1000) : tenths count scale ≤ 9990 := by
  unfold tenths
  split <;> omega

theorem bytes_shows (count : Nat) : ∃ figure, Shows count (bytes count) figure ∧
    figure.value = (tenths count (1024 ^ figure.power) : ℚ) / 10 := by
  obtain ⟨power, unit, named, first, text⟩ := bytes_eq count
  refine ⟨⟨(tenths count (1024 ^ power) : ℚ) / 10, power⟩, ⟨?_, first, ?_, ?_, ?_, ?_⟩, rfl⟩
  · rw [text]
    exact readFigure_written named
  · intro few
    rw [nearestTenth_eq] at few ⊢
    simp only [tenths, if_pos (show halfUp (count * 10) (1024 ^ power) < 100 by exact_mod_cast few), Int.cast_natCast]
  · intro many
    rw [nearestTenth_eq] at many
    have enough : ¬ halfUp (count * 10) (1024 ^ power) < 100 := not_lt.mpr (by exact_mod_cast many)
    simp only [tenths, if_neg enough, nearest_eq, Int.cast_natCast]
    push_cast
    exact mul_div_cancel_right₀ _ (by norm_num)
  · rw [text, point_written named, nearestTenth_eq]
    norm_cast
  · intro below
    have under := first.under below
    rw [nearest_eq] at under
    have most : (tenths count (1024 ^ power) : ℚ) ≤ 9990 := by exact_mod_cast tenths_le (by exact_mod_cast under)
    change (tenths count (1024 ^ power) : ℚ) / 10 < 1000
    linarith

/-! ## Order -/

theorem power_mono {count larger power above : Nat} (order : count ≤ larger) (first : First count power)
    (next : First larger above) : power ≤ above := by
  by_contra passed
  have enough := first.past above (not_le.mp passed)
  have under := next.under (Nat.lt_of_le_of_lt (not_le.mp passed) first.known)
  rw [nearest_eq] at enough under
  have both := halfUp_mono order (1024 ^ above)
  omega

/-- What was 1000 of a unit is one of the next at least. -/
theorem ten_le_tenths {count scale : Nat} (positive : 0 < scale) (enough : 1000 ≤ halfUp count scale) :
    10 ≤ tenths count (1024 * scale) := by
  have larger : 0 < 1024 * scale := by omega
  have one : 10 ≤ halfUp (count * 10) (1024 * scale) := by
    rw [le_halfUp_iff positive] at enough
    rw [le_halfUp_iff larger]
    omega
  unfold tenths
  split
  case isTrue => exact one
  case isFalse many =>
    have ten := ten_le_halfUp larger (not_lt.mp many)
    omega

theorem amount_mono {count larger power above : Nat} (order : count ≤ larger) (first : First count power)
    (next : First larger above) : tenths count (1024 ^ power) * 1024 ^ power ≤ tenths larger (1024 ^ above) * 1024 ^ above := by
  rcases (power_mono order first next).eq_or_lt with rfl | passed
  · exact Nat.mul_le_mul_right _ (tenths_mono (Nat.pow_pos (by decide)) order)
  · obtain ⟨last, rfl⟩ : ∃ last, above = last + 1 := Nat.exists_eq_succ_of_ne_zero (by omega)
    have under : halfUp count (1024 ^ power) < 1000 := by
      have under := first.under (Nat.lt_of_le_of_lt passed next.known)
      rw [nearest_eq] at under
      exact_mod_cast under
    have enough : 1000 ≤ halfUp larger (1024 ^ last) := by
      have enough := next.past last (Nat.lt_succ_self last)
      rw [nearest_eq] at enough
      exact_mod_cast enough
    calc tenths count (1024 ^ power) * 1024 ^ power ≤ 9990 * 1024 ^ last :=
          Nat.mul_le_mul (tenths_le under) (Nat.pow_le_pow_right (by decide) (Nat.le_of_lt_succ passed))
      _ ≤ 10 * (1024 * 1024 ^ last) := by omega
      _ ≤ tenths larger (1024 * 1024 ^ last) * (1024 * 1024 ^ last) :=
          Nat.mul_le_mul_right _ (ten_le_tenths (Nat.pow_pos (by decide)) enough)
      _ = tenths larger (1024 ^ (last + 1)) * 1024 ^ (last + 1) := by rw [pow_succ' 1024 last]

/-! ## Columns -/

theorem decimal_printable {n : Nat} {c : Char} (member : c ∈ decimal n) : 0x20 ≤ c.toNat ∧ c.toNat < 0x7f := by
  have digit := Text.decimal_digit member
  simp only [Name.isAsciiDigit, decide_eq_true_eq, Char.le_def, UInt32.le_iff_toNat_le] at digit
  exact ⟨le_trans (by decide) digit.1, digit.2.trans_lt (by decide)⟩

section Columns
variable [UnicodeWidth] [UnicodeWidth.Documented]

theorem columns_printable {text : List Char} (printable : ∀ c ∈ text, 0x20 ≤ c.toNat ∧ c.toNat < 0x7f) :
    columns text = text.length := by
  have clean : '\x1b' ∉ text := fun member => absurd (printable _ member).1 (by decide)
  have widths : text.map widthOf = List.replicate text.length 1 := by
    rw [List.map_eq_replicate_iff]
    intro c member
    rw [widthOf, UnicodeWidth.Documented.printable c (printable c member).1 (printable c member).2]
    rfl
  rw [columns, Terminal.plain_of_clean clean, widths, List.sum_replicate_nat, Nat.mul_one]

theorem columns_written {count power : Nat} {unit : Char} (named : units[power]? = some unit)
    (under : halfUp count (1024 ^ power) < 1000) : columns (written count power unit) ≤ 4 := by
  have last := (unit_printable named).2
  have whole {n : Nat} (few : n < 1000) : columns (decimal n ++ [unit]) ≤ 4 := by
    rw [columns_printable, List.length_append]
    · exact Nat.add_le_add_right ((Nat.length_toDigits_le_iff (by decide) (by decide)).mpr few) 1
    · intro c member
      rcases List.mem_append.mp member with digit | own
      · exact decimal_printable digit
      · rwa [List.mem_singleton.mp own]
  unfold written
  split
  case isTrue bytes =>
    rw [bytes, pow_zero, halfUp_one] at under
    exact whole under
  case isFalse =>
    rw [figure_eq]
    split
    case isTrue few =>
      rw [columns_printable]
      · simp [length_decimal (show halfUp (count * 10) (1024 ^ power) / 10 < 10 by omega), length_decimal (Nat.mod_lt _ _)]
      · intro c member
        simp only [List.mem_append, List.mem_cons, List.not_mem_nil, or_false] at member
        rcases member with (digit | point | digit) | own
        · exact decimal_printable digit
        · rw [point]
          decide
        · exact decimal_printable digit
        · rwa [own]
    case isFalse => exact whole under

theorem columns_bytes {count : Nat} (below : (count : ℚ) < 999.5 * 1024 ^ 3) : columns (bytes count) ≤ 4 := by
  obtain ⟨power, unit, named, first, text⟩ := bytes_eq count
  rw [text]
  apply columns_written named
  by_cases last : power + 1 < units.length
  · have under := first.under last
    rw [nearest_eq] at under
    exact_mod_cast under
  · have giga : power = 3 := by
      have known := first.known
      simp only [units, List.length_cons, List.length_nil] at known last
      omega
    have doubled : (count * 2 : Nat) < 1999 * 1024 ^ 3 := by
      have scaled : (count : ℚ) * 2 < 1999 * 1024 ^ 3 := by linarith
      exact_mod_cast scaled
    rw [giga, ← not_le, le_halfUp_iff (by decide)]
    omega

/-- A larger count never reads less, for all the rounding. -/
theorem bytes_figures :
    (∀ count, ∃ figure, Shows count (bytes count) figure) ∧
    (∀ count : Nat, (count : ℚ) < 999.5 * 1024 ^ 3 → columns (bytes count) ≤ 4) ∧
    ∀ count larger, count ≤ larger → ∃ figure above, readFigure (bytes count) = some figure ∧
      readFigure (bytes larger) = some above ∧ figure.amount ≤ above.amount := by
  refine ⟨?_, fun count below => columns_bytes below, ?_⟩
  · intro count
    obtain ⟨figure, shows, -⟩ := bytes_shows count
    exact ⟨figure, shows⟩
  · intro count larger order
    obtain ⟨figure, shows, value⟩ := bytes_shows count
    obtain ⟨above, next, most⟩ := bytes_shows larger
    have amounts : (tenths count (1024 ^ figure.power) : ℚ) * 1024 ^ figure.power ≤
        (tenths larger (1024 ^ above.power) : ℚ) * 1024 ^ above.power := by
      exact_mod_cast amount_mono order shows.first next.first
    refine ⟨figure, above, shows.read, next.read, ?_⟩
    rw [Figure.amount, Figure.amount, value, most, div_mul_eq_mul_div, div_mul_eq_mul_div]
    exact div_le_div_of_nonneg_right amounts (by norm_num)

end Columns

/-- The largest count of one unit, and the first of the next. -/
theorem bytes_figures_boundary :
    bytes 1023487 = "999K".toList ∧ bytes 1023488 = "1.0M".toList ∧ (∃ figure, Shows 1023488 (bytes 1023488) figure) ∧
    @columns Terminal.narrow (bytes 1023488) ≤ 4 ∧
    ∃ figure above, readFigure (bytes 1023487) = some figure ∧ readFigure (bytes 1023488) = some above ∧
      figure.amount ≤ above.amount := by
  obtain ⟨shows, narrow, order⟩ := @bytes_figures Terminal.narrow Terminal.narrow_documented
  exact ⟨by decide +kernel, by decide +kernel, shows _, narrow _ (by norm_num), order _ _ (by decide)⟩

end Hawse.Proof.Figures
