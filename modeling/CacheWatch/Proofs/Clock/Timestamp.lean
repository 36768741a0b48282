import CacheWatch.Clock.Written
import CacheWatch.Proofs.Clock.Date
import CacheWatch.Proofs.Json.Number
import CacheWatch.Proofs.Text.Words
import Mathlib.Tactic.SplitIfs

/-! Written times are read back field by field.
Each field is read in front of whatever follows it. Up to the end of the time of day RFC 3339 reads
times of both encodings, so they part where the offset begins.
-/
namespace CacheWatch

open Json (Stops takeWhile_digits isDigit_toDigits isDigit_replicate)
open Text (decimalValue zeroPadded solid_of_digits)

namespace Text

theorem toList_zeroPadded (width n : Nat) : (zeroPadded width n).toList =
    List.replicate (width - (Nat.toDigits 10 n).length) '0' ++ Nat.toDigits 10 n :=
  String.toList_ofList

theorem isDigit_zeroPadded (width n : Nat) : ∀ c ∈ (zeroPadded width n).toList, c.isDigit := by
  intro c member
  rw [toList_zeroPadded, List.mem_append] at member
  rcases member with zero | digit
  · exact isDigit_replicate _ c zero
  · exact isDigit_toDigits n c digit

theorem length_zeroPadded {width n : Nat} (wide : 0 < width) (small : n < 10 ^ width) :
    (zeroPadded width n).toList.length = width := by
  have fits := Nat.toDigits_length 10 n width wide small
  rw [toList_zeroPadded, List.length_append, List.length_replicate]
  omega

theorem decimalValue_append_zeros (ds : List Char) (count : Nat) :
    decimalValue (ds ++ List.replicate count '0') = decimalValue ds * 10 ^ count := by
  induction count with
  | zero => simp
  | succ count ih =>
    rw [List.replicate_succ', ← List.append_assoc, decimalValue, List.foldl_append, ← decimalValue,
      ih, Nat.pow_succ]
    simp [digitValue]
    ring

theorem decimalValue_zeroPadded (width n : Nat) :
    decimalValue (zeroPadded width n).toList = n := by
  have zeros : decimalValue (List.replicate (width - (Nat.toDigits 10 n).length) '0') = 0 :=
    (decimalValue_append_zeros [] _).trans (Nat.zero_mul _)
  rw [toList_zeroPadded, Json.decimalValue_append, zeros]
  exact Nat.ofDigitChars_ten_toDigits

theorem exists_trailing_zeros (ds : List Char) :
    ∃ count, ds = (ds.reverse.dropWhile (· = '0')).reverse ++ List.replicate count '0' := by
  have zeros : ds.rtakeWhile (· = '0') =
      List.replicate (ds.rtakeWhile (· = '0')).length '0' :=
    List.eq_replicate_of_mem fun c member => by simpa using List.mem_rtakeWhile_imp member
  refine ⟨(ds.rtakeWhile (· = '0')).length, ?_⟩
  rw [← zeros]
  exact List.rdropWhile_append_rtakeWhile.symm

theorem exists_zeroPadded {width n : Nat} (wide : 0 < width) (small : n < 10 ^ width) :
    ∃ c others, (zeroPadded width n).toList = c :: others ∧ c.isDigit := by
  have length := length_zeroPadded wide small
  obtain ⟨c, others, same⟩ := List.exists_cons_of_length_pos (length.symm ▸ wide)
  exact ⟨c, others, same, isDigit_zeroPadded width n c (same ▸ List.mem_cons_self)⟩

theorem trimLeft_zeroPadded {width n : Nat} (wide : 0 < width) (small : n < 10 ^ width)
    (rest : List Char) : trimLeft ((zeroPadded width n).toList ++ rest) =
      (zeroPadded width n).toList ++ rest := by
  obtain ⟨c, others, same, digit⟩ := exists_zeroPadded wide small
  have solid := solid_of_digits (isDigit_zeroPadded width n)
  exact trimLeft_of_solid solid (same ▸ List.cons_ne_nil c others) rest

end Text

namespace Timestamp

open Text (isDigit_zeroPadded length_zeroPadded decimalValue_zeroPadded exists_zeroPadded)

variable {n : Nat} {rest : List Char}

theorem digits_append {ds : List Char} (digit : ∀ c ∈ ds, c.isDigit) {least : Nat}
    (enough : least ≤ ds.length) (rest : List Char) :
    digits least ds.length (ds ++ rest) = some (decimalValue ds, rest) := by
  have taken : ((ds ++ rest).takeWhile Char.isDigit).take ds.length = ds := by
    rw [List.takeWhile_append_of_pos digit, List.take_left]
  have present : ¬ ds.length < least := Nat.not_lt.mpr enough
  simp only [digits, taken, if_neg present, List.drop_left]

theorem digits_zeroPadded {least width : Nat} (wide : 0 < width) (enough : least ≤ width)
    (small : n < 10 ^ width) (rest : List Char) :
    digits least width ((zeroPadded width n).toList ++ rest) = some (n, rest) := by
  have length := length_zeroPadded wide small
  have read := digits_append (isDigit_zeroPadded width n) (length ▸ enough) rest
  rwa [length, decimalValue_zeroPadded] at read

theorem digits_two {least : Nat} (enough : least ≤ 2) (small : n < 100) (rest : List Char) :
    digits least 2 ((zeroPadded 2 n).toList ++ rest) = some (n, rest) :=
  digits_zeroPadded (by omega) enough small rest

/-- A point and at most nine digits. The zeros that are cut off come back. -/
theorem exists_fraction (nonzero : n ≠ 0) (small : n < 10 ^ 9) :
    ∃ core, (fractionText n).toList = '.' :: core ∧ core ≠ [] ∧ core.length ≤ 9 ∧
      (∀ c ∈ core, c.isDigit) ∧ decimalValue core * 10 ^ (9 - core.length) = n := by
  have length : (zeroPadded 9 n).toList.length = 9 := length_zeroPadded (by omega) small
  have digit := isDigit_zeroPadded 9 n
  have worth := decimalValue_zeroPadded 9 n
  have text : (fractionText n).toList =
      '.' :: ((zeroPadded 9 n).toList.reverse.dropWhile (· = '0')).reverse := by
    have point : ".".toList = ['.'] := rfl
    simp only [fractionText, if_neg nonzero, String.toList_append, String.toList_ofList, point,
      List.singleton_append]
  obtain ⟨count, split⟩ := Text.exists_trailing_zeros (zeroPadded 9 n).toList
  generalize ((zeroPadded 9 n).toList.reverse.dropWhile (· = '0')).reverse = core at split text
  rw [split] at length digit worth
  rw [List.length_append, List.length_replicate] at length
  rw [Text.decimalValue_append_zeros] at worth
  refine ⟨core, text, ?_, by omega, fun c member => digit c (List.mem_append_left _ member), ?_⟩
  · rintro rfl
    exact nonzero (worth.symm.trans (Nat.zero_mul _))
  · have cut : 9 - core.length = count := by omega
    exact cut.symm ▸ worth

theorem fraction_fractionText (small : n < 10 ^ 9) (stops : Stops rest)
    (point : rest.head? ≠ some '.') :
    fraction ((fractionText n).toList ++ rest) = some (n, rest) := by
  by_cases zero : n = 0
  · subst zero
    rw [fractionText, if_pos rfl, String.toList_empty, List.nil_append]
    unfold fraction
    split
    · exact absurd rfl point
    · rfl
  · obtain ⟨core, text, present, short, digit, worth⟩ := exists_fraction zero small
    have occupied : ¬ core.isEmpty := by simpa using present
    rw [text, List.cons_append, fraction, (takeWhile_digits digit stops).1, if_neg occupied,
      List.take_of_length_le short, List.drop_left]
    exact congrArg (fun value => some (value, rest)) worth

section Offset

variable {separator : String} {offset : Int}

theorem toList_offsetText : (offsetText separator offset).toList =
    (if offset < 0 then '-' else '+') :: ((zeroPadded 2 (offset.natAbs / 3600)).toList ++
      (separator.toList ++ (zeroPadded 2 (offset.natAbs / 60 % 60)).toList)) := by
  have minus : "-".toList = ['-'] := rfl
  have plus : "+".toList = ['+'] := rfl
  simp only [offsetText, String.toList_append, List.append_assoc]
  split_ifs
  · rw [minus, List.singleton_append]
  · rw [plus, List.singleton_append]

theorem sign_cons (rest : List Char) :
    sign ((if offset < 0 then '-' else '+') :: rest) = some (decide (offset < 0), rest) := by
  by_cases negative : offset < 0 <;> simp [negative, sign]

theorem signedOffset_offsetText {skip : List Char → Option (List Char)}
    (skips : ∀ c rest, c.isDigit → skip (separator.toList ++ c :: rest) = some (c :: rest))
    (minutes : offset % 60 = 0) (day : offset.natAbs < 86400) (rest : List Char) :
    signedOffset skip ((offsetText separator offset).toList ++ rest) = some (offset, rest) := by
  have two {n : Nat} (small : n < 100) (rest : List Char) :
      digits 2 2 ((zeroPadded 2 n).toList ++ rest) = some (n, rest) :=
    digits_two (by omega) small rest
  have hours : offset.natAbs / 3600 < 100 := by omega
  have passed :
      skip (separator.toList ++ ((zeroPadded 2 (offset.natAbs / 60 % 60)).toList ++ rest)) =
        some ((zeroPadded 2 (offset.natAbs / 60 % 60)).toList ++ rest) := by
    obtain ⟨c, others, same, digit⟩ :
        ∃ c others, (zeroPadded 2 (offset.natAbs / 60 % 60)).toList = c :: others ∧ c.isDigit :=
      exists_zeroPadded (by omega) (by omega)
    rw [same]
    exact skips c _ digit
  have small : offset.natAbs / 60 % 60 < 60 := by omega
  have whole : (offset.natAbs / 3600) * 3600 + offset.natAbs / 60 % 60 * 60 = offset.natAbs := by
    have hours : offset.natAbs / 3600 = offset.natAbs / 60 / 60 :=
      (Nat.div_div_eq_div_mul _ 60 60).symm
    omega
  simp only [signedOffset, toList_offsetText, List.cons_append, List.append_assoc, sign_cons,
    two hours, passed, two (Nat.lt_trans small (by omega)), Option.bind_eq_bind, Option.bind_some,
    if_pos small, Option.some.injEq, Prod.mk.injEq, and_true]
  by_cases negative : offset < 0
  · simp only [negative, decide_true, if_true]
    omega
  · simp only [negative, decide_false, Bool.false_eq_true, if_false]
    omega

theorem zone_text (minutes : offset % 60 = 0) (day : offset.natAbs < 86400) (rest : List Char) :
    zone ((if offset = 0 then "Z" else offsetText ":" offset).toList ++ rest) =
      some (offset, rest) := by
  by_cases zero : offset = 0
  · rw [if_pos zero, zero]
    rfl
  · have read : signedOffset (mark ':') ((offsetText ":" offset).toList ++ rest) =
        some (offset, rest) := signedOffset_offsetText (fun c rest _ => rfl) minutes day rest
    rw [if_neg zero, ← read, toList_offsetText]
    split_ifs <;> rfl

theorem skipSeparators_cons {c : Char} (digit : c.isDigit) (rest : List Char) :
    (some ∘ skipSeparators) (c :: rest) = some (c :: rest) := by
  have other : c ≠ ':' := by
    rintro rfl
    exact Bool.false_ne_true digit
  simp [skipSeparators, other, Text.isBlank_of_isDigit digit]

end Offset

end Timestamp

namespace WrittenTime

/-- A date of four digits, a time of day and an offset of whole minutes within a day. -/
structure Civil (w : WrittenTime) : Prop where
  date : w.date.isValid
  year : 0 ≤ w.date.year ∧ w.date.year ≤ 9999
  hour : w.hour < 24
  minute : w.minute < 60
  second : w.second < 60
  nanos : w.nanos < 1000000000
  minutes : w.offset % 60 = 0
  day : w.offset.natAbs < 86400

theorem Civil.widths {w : WrittenTime} (civil : w.Civil) :
    w.date.year.toNat < 10 ^ 4 ∧ w.date.month < 100 ∧ w.date.day < 100 ∧ w.hour < 100 ∧
      w.minute < 100 ∧ w.second < 100 := by
  obtain ⟨date, ⟨_, lastYear⟩, hour, minute, second, -, -, -⟩ := civil
  obtain ⟨⟨_, lastMonth⟩, _, lastDay⟩ := Date.isValid_iff.mp date
  have days := lastDay.trans (Date.daysInMonth_le _ _)
  omega

end WrittenTime

namespace Timestamp

open Text (exists_zeroPadded trimLeft_zeroPadded)

variable {w : WrittenTime}

theorem bind_of_some {α β : Type} {x : Option α} {a : α} {f : α → Option β} {result : Option β}
    (read : x = some a) (rest : f a = result) : (x >>= f) = result := by
  rw [read]
  exact rest

theorem mark_cons (c : Char) (rest : List Char) : mark c (c :: rest) = some rest := if_pos rfl

theorem pair_zeroPadded (small : n < 100) (rest : List Char) :
    pair ((zeroPadded 2 n).toList ++ rest) = some (n, rest) := by
  rw [pair, trimLeft_zeroPadded (by omega) small]
  exact digits_two (by omega) small rest

theorem pair_blank (small : n < 100) (rest : List Char) :
    pair (Text.trimLeft (' ' :: ((zeroPadded 2 n).toList ++ rest))) = some (n, rest) := by
  rw [Text.trimLeft, List.dropWhile_cons_of_pos (by decide), ← Text.trimLeft,
    trimLeft_zeroPadded (by omega) small]
  exact pair_zeroPadded small rest

theorem year_zeroPadded (small : n < 10 ^ 4) (rest : List Char) :
    year ((zeroPadded 4 n).toList ++ rest) = some ((n : Int), rest) := by
  have read : digits 1 4 ((zeroPadded 4 n).toList ++ rest) = some (n, rest) :=
    digits_zeroPadded (by omega) (by omega) small rest
  obtain ⟨c, others, same, digit⟩ := exists_zeroPadded (by omega) small
  have minus : c ≠ '-' := by
    rintro rfl
    exact Bool.false_ne_true digit
  have plus : c ≠ '+' := by
    rintro rfl
    exact Bool.false_ne_true digit
  rw [year, trimLeft_zeroPadded (by omega) small]
  rw [same, List.cons_append] at read ⊢
  split
  · rename_i text
    exact absurd (List.cons.inj text).1 minus
  · rename_i text
    exact absurd (List.cons.inj text).1 plus
  · rw [read]
    rfl

theorem rfc3339?_append (civil : w.Civil) {c : Char} (parts : c = 'T' ∨ c = ' ') {rest : List Char}
    (stops : Stops rest) (point : rest.head? ≠ some '.') :
    rfc3339? (w.dateChars.toList ++ c :: (w.timeChars.toList ++ rest)) =
      (zone rest).bind fun (offset, behind) =>
        if behind.isEmpty then some { w with offset := offset } else none := by
  obtain ⟨lastYear, month, day, hour, minute, second⟩ := civil.widths
  have year := Int.toNat_of_nonneg civil.year.1
  have two {n : Nat} (small : n < 100) (rest : List Char) :
      digits 2 2 ((zeroPadded 2 n).toList ++ rest) = some (n, rest) :=
    digits_two (by omega) small rest
  have fractionDigits := fraction_fractionText civil.nanos stops point
  have dash : "-".toList = ['-'] := rfl
  have colon : ":".toList = [':'] := rfl
  simp only [WrittenTime.dateChars, WrittenTime.timeChars, dash, colon,
    String.toList_append, List.append_assoc, List.cons_append, List.nil_append]
  unfold rfc3339?
  refine bind_of_some (digits_zeroPadded (by omega) (by omega) lastYear _) ?_
  refine bind_of_some (mark_cons _ _) <| bind_of_some (two month _) ?_
  refine bind_of_some (mark_cons _ _) <| bind_of_some (two day _) ?_
  rcases parts with rfl | rfl
  all_goals
    refine bind_of_some rfl <| bind_of_some (two hour _) ?_
    refine bind_of_some (mark_cons _ _) <| bind_of_some (two minute _) ?_
    refine bind_of_some (mark_cons _ _) <| bind_of_some (two second _) ?_
    refine bind_of_some fractionDigits ?_
    simp only [year]
    rfl

theorem spaced?_spaced (civil : w.Civil) : spaced? w.spaced.toList = some w := by
  obtain ⟨lastYear, month, day, hour, minute, second⟩ := civil.widths
  have number := Int.toNat_of_nonneg civil.year.1
  have dash : "-".toList = ['-'] := rfl
  have colon : ":".toList = [':'] := rfl
  have blank : " ".toList = [' '] := rfl
  have stops : Stops (' ' :: (offsetText "" w.offset).toList) := Json.stops_cons rfl
  have fractionDigits := fraction_fractionText civil.nanos stops (by simp)
  have trimmed : Text.trimLeft (' ' :: (offsetText "" w.offset).toList) =
      (offsetText "" w.offset).toList ++ [] := by
    rw [toList_offsetText, List.append_nil]
    split_ifs <;> rfl
  have offsetDigits : signedOffset (some ∘ skipSeparators)
      ((offsetText "" w.offset).toList ++ []) = some (w.offset, []) :=
    signedOffset_offsetText (fun c rest digit => skipSeparators_cons digit rest) civil.minutes
      civil.day []
  rw [← trimmed] at offsetDigits
  simp only [WrittenTime.spaced, WrittenTime.dateChars, WrittenTime.timeChars, dash, colon, blank,
    String.toList_append, List.append_assoc, List.cons_append, List.nil_append]
  unfold spaced?
  refine bind_of_some (year_zeroPadded lastYear _) ?_
  refine bind_of_some (mark_cons _ _) <| bind_of_some (pair_zeroPadded month _) ?_
  refine bind_of_some (mark_cons _ _) <| bind_of_some (pair_zeroPadded day _) ?_
  refine bind_of_some (pair_blank hour _) ?_
  refine bind_of_some (mark_cons _ _) <| bind_of_some (pair_zeroPadded minute _) ?_
  refine bind_of_some (mark_cons _ _) <| bind_of_some (pair_zeroPadded second _) ?_
  refine bind_of_some fractionDigits <| bind_of_some offsetDigits ?_
  simp only [number]
  rfl

end Timestamp

end CacheWatch
