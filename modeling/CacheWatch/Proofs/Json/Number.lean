import CacheWatch.Json.Printer
import CacheWatch.Json.Reader
import CacheWatch.Proofs.Number.Parts

/-! Printed numbers are read back.
A number is taken apart as it is written, into a sign, digits before and behind a point and an
exponent; reading gives the parts again, whatever ends the number. Both printers write such parts,
with so few digits that all are taken up. Integers come back, and floats are rounded anew.
-/
namespace CacheWatch.Json

open Text (decimalValue)

/-- What follows a value inside a larger one, or nothing. -/
def Ends (cs : List Char) : Prop := ∀ c ∈ cs.head?, c = ',' ∨ c = ']' ∨ c = '\x7d'

def Stops (cs : List Char) : Prop := ∀ c ∈ cs.head?, c.isDigit = false

theorem Ends.stops {cs : List Char} (ends : Ends cs) : Stops cs := fun c member => by
  rcases ends c member with rfl | rfl | rfl <;> rfl

theorem stops_cons {c : Char} {rest : List Char} (other : c.isDigit = false) :
    Stops (c :: rest) := by
  rintro _ ⟨⟩
  exact other

section Digits

variable {ds rest : List Char}

theorem takeWhile_digits (digits : ∀ c ∈ ds, c.isDigit) (stops : Stops rest) :
    (ds ++ rest).takeWhile Char.isDigit = ds ∧ (ds ++ rest).dropWhile Char.isDigit = rest := by
  rw [List.takeWhile_append_of_pos digits, List.dropWhile_append_of_pos digits]
  cases rest with
  | nil => exact ⟨List.append_nil ds, rfl⟩
  | cons c rest =>
    have other : ¬ c.isDigit := by simp [stops c rfl]
    rw [List.takeWhile_cons_of_neg other, List.dropWhile_cons_of_neg other]
    exact ⟨List.append_nil ds, rfl⟩

theorem decimalValue_append (ds es : List Char) :
    decimalValue (ds ++ es) = Nat.ofDigitChars 10 es (decimalValue ds) := by
  rw [decimalValue, List.foldl_append, Nat.ofDigitChars_eq_foldl]
  rfl

theorem decimalValue_toDigits (n : Nat) : decimalValue (Nat.toDigits 10 n) = n :=
  Nat.ofDigitChars_ten_toDigits

theorem isDigit_toDigits (n : Nat) : ∀ c ∈ Nat.toDigits 10 n, c.isDigit := fun _ member =>
  Nat.isDigit_of_mem_toDigits (by decide) (by decide) member

theorem isDigit_replicate (n : Nat) : ∀ c ∈ List.replicate n '0', c.isDigit := fun c member => by
  rw [List.eq_of_mem_replicate member]
  rfl

theorem decimalValue_eq (ds : List Char) : decimalValue ds = Nat.ofDigitChars 10 ds 0 :=
  decimalValue_append [] ds

theorem takeUp_eq {n : Nat} (fits : Nat.ofDigitChars 10 ds n < 2 ^ 64) :
    takeUp n ds = (Nat.ofDigitChars 10 ds n, 0) ∧ n ≤ Nat.ofDigitChars 10 ds n := by
  induction ds generalizing n with
  | nil => exact ⟨rfl, Nat.le_refl n⟩
  | cons d ds ih =>
    rw [Nat.ofDigitChars_cons] at fits ⊢
    obtain ⟨others, larger⟩ := ih fits
    have next : Word.fits 64 (10 * n + Text.digitValue d) = true :=
      decide_eq_true (Nat.lt_of_le_of_lt larger fits)
    rw [takeUp]
    simp only [next, if_true]
    exact ⟨others, by omega⟩

theorem digitChar_ne_zero {n : Nat} (small : n < 10) (positive : 0 < n) :
    n.digitChar ≠ '0' := by
  decide +revert

theorem exists_toDigits {n : Nat} (nonzero : n ≠ 0) :
    ∃ first rest, Nat.toDigits 10 n = first :: rest ∧ first ≠ '0' := by
  induction n using Nat.strongRecOn with
  | ind n ih =>
    rcases Nat.lt_or_ge n 10 with small | large
    · exact ⟨n.digitChar, [], Nat.toDigits_of_lt_base small,
        digitChar_ne_zero small (Nat.pos_of_ne_zero nonzero)⟩
    · obtain ⟨first, rest, digits, other⟩ := ih (n / 10) (by omega) (by omega)
      refine ⟨first, rest ++ [(n % 10).digitChar], ?_, other⟩
      rw [Nat.toDigits_of_base_le (by decide) large, digits]
      rfl

end Digits

/-- A number as it is written: the digits in front have no needless zero, and all fit a word. -/
structure Parts where
  negative : Bool
  whole : List Char
  behind : List Char
  exponent : Option Int
  digits : ∀ c ∈ whole ++ behind, c.isDigit
  fits : decimalValue (whole ++ behind) < 2 ^ 64
  leading : whole = ['0'] ∨ ∃ first rest, whole = first :: rest ∧ first ≠ '0'

namespace Parts

def fractionChars : List Char → List Char
  | [] => []
  | ds => '.' :: ds

theorem fractionChars_of_ne_nil {ds : List Char} (present : ds ≠ []) :
    fractionChars ds = '.' :: ds := by
  cases ds with
  | nil => exact absurd rfl present
  | cons d ds => rfl

def exponentChars : Option Int → List Char
  | none => []
  | some e => 'e' :: (if e < 0 then '-' else '+') :: Nat.toDigits 10 e.natAbs

def unsignedChars (p : Parts) : List Char :=
  p.whole ++ (fractionChars p.behind ++ exponentChars p.exponent)

def chars (p : Parts) : List Char :=
  if p.negative then '-' :: p.unsignedChars else p.unsignedChars

def numeral (p : Parts) : Numeral :=
  ⟨p.negative, decimalValue (p.whole ++ p.behind), p.exponent.getD 0 - p.behind.length,
    p.behind.isEmpty && p.exponent.isNone⟩

section Reading

variable {ds rest : List Char}

theorem wholePart_append (digits : ∀ c ∈ ds, c.isDigit) (stops : Stops rest)
    (leading : ds = ['0'] ∨ ∃ first rest, ds = first :: rest ∧ first ≠ '0') :
    wholePart (ds ++ rest) = some (ds, rest) := by
  obtain rfl | ⟨first, others, rfl, other⟩ := leading
  · rfl
  · obtain ⟨taken, dropped⟩ :=
      takeWhile_digits (fun c member => digits c (List.mem_cons_of_mem first member)) stops
    rw [List.cons_append, wholePart, if_neg other, if_pos (digits first List.mem_cons_self), taken,
      dropped]

theorem fraction_append (digits : ∀ c ∈ ds, c.isDigit) (stops : Stops rest)
    (point : rest.head? ≠ some '.') : fraction (fractionChars ds ++ rest) = some (ds, rest) := by
  cases ds with
  | nil =>
    rw [fractionChars, List.nil_append]
    unfold fraction
    split
    · exact absurd rfl point
    · rfl
  | cons d ds =>
    obtain ⟨taken, dropped⟩ := takeWhile_digits digits stops
    rw [fractionChars, List.cons_append, fraction, taken, dropped]
    rfl
    exact List.cons_ne_nil d ds

theorem exponentPart_append (exponent : Option Int) (ends : Ends rest) :
    exponentPart (exponentChars exponent ++ rest) = some (exponent, rest) := by
  cases exponent with
  | none =>
    rw [exponentChars, List.nil_append]
    cases rest with
    | nil => rfl
    | cons c rest =>
      have other : ¬ (c = 'e' || c = 'E') := by
        rcases ends c rfl with rfl | rfl | rfl <;> decide
      unfold exponentPart
      exact if_neg other
  | some e =>
    obtain ⟨taken, dropped⟩ := takeWhile_digits (isDigit_toDigits e.natAbs) ends.stops
    rw [exponentChars, List.cons_append, List.cons_append]
    rcases lt_or_ge e 0 with negative | positive
    · simp [exponentPart, negative, taken, dropped, decimalValue_toDigits, abs_of_neg negative]
    · simp [exponentPart, not_lt.mpr positive, taken, dropped, decimalValue_toDigits,
        abs_of_nonneg positive]

end Reading

theorem stops_exponent (exponent : Option Int) {rest : List Char} (ends : Ends rest) :
    Stops (exponentChars exponent ++ rest) ∧
      (exponentChars exponent ++ rest).head? ≠ some '.' := by
  cases exponent with
  | none =>
    refine ⟨ends.stops, fun point => ?_⟩
    rcases ends '.' point with wrong | wrong | wrong <;> exact absurd wrong (by decide)
  | some e => exact ⟨stops_cons rfl, by simp [exponentChars]⟩

theorem stops_fraction (ds : List Char) {rest : List Char} (stops : Stops rest) :
    Stops (fractionChars ds ++ rest) := by
  cases ds with
  | nil => exact stops
  | cons d ds => exact stops_cons rfl

theorem exists_whole (p : Parts) :
    ∃ first rest, p.whole = first :: rest ∧ first.isDigit := by
  have present : ∃ first rest, p.whole = first :: rest := by
    obtain zero | ⟨first, rest, whole, -⟩ := p.leading
    · exact ⟨'0', [], zero⟩
    · exact ⟨first, rest, whole⟩
  obtain ⟨first, rest, whole⟩ := present
  exact ⟨first, rest, whole, p.digits first (List.mem_append_left _ (whole ▸ List.mem_cons_self))⟩

theorem exists_first (p : Parts) : ∃ c rest, p.chars = c :: rest ∧ (c = '-' ∨ c.isDigit) := by
  obtain ⟨first, others, whole, digit⟩ := p.exists_whole
  unfold chars unsignedChars
  split
  · exact ⟨'-', _, rfl, .inl rfl⟩
  · exact ⟨first, _, by rw [whole, List.cons_append], .inr digit⟩

theorem takeUp_whole (p : Parts) : takeUp 0 p.whole = (decimalValue p.whole, 0) ∧
    takeUp (decimalValue p.whole) p.behind = (decimalValue (p.whole ++ p.behind), 0) := by
  have fits := p.fits
  rw [decimalValue_append] at fits ⊢
  obtain ⟨behind, larger⟩ := takeUp_eq fits
  have front := Nat.lt_of_le_of_lt larger fits
  rw [decimalValue_eq p.whole] at front ⊢
  exact ⟨(takeUp_eq front).1, by rwa [decimalValue_eq p.whole] at behind⟩

theorem numeral_chars (p : Parts) {rest : List Char} (ends : Ends rest) :
    Json.numeral (p.chars ++ rest) = some (p.numeral, rest) := by
  obtain ⟨stops, point⟩ := stops_exponent p.exponent ends
  have whole := wholePart_append (fun c member => p.digits c (List.mem_append_left _ member))
    (stops_fraction p.behind stops) p.leading
  have behind := fraction_append (fun c member => p.digits c (List.mem_append_right _ member))
    stops point
  have exponent := exponentPart_append p.exponent ends
  obtain ⟨front, all⟩ := p.takeUp_whole
  unfold Json.numeral numeral chars unsignedChars
  cases p.negative with
  | true =>
    simp [whole, behind, exponent, front, all]
  | false =>
    -- Without a sign the text begins with a digit.
    obtain ⟨first, others, present, digit⟩ := p.exists_whole
    have unsigned : first ≠ '-' := by
      rintro rfl
      exact absurd digit (by decide)
    simp only [present, List.cons_append] at whole front all ⊢
    simp [unsigned, whole, behind, exponent, front, all]

end Parts

/-- A text that is read as a number, wherever it ends, and what the number is worth. -/
def Spells (cs : List Char) (value : Option Json) : Prop :=
  (∃ c rest, cs = c :: rest ∧ (c = '-' ∨ c.isDigit)) ∧
    ∃ written : Numeral, (∀ rest, Ends rest → numeral (cs ++ rest) = some (written, rest)) ∧
      written.value? = value

theorem integerChars_eq (n : Int) : integerChars n =
    if n < 0 then '-' :: Nat.toDigits 10 n.natAbs else Nat.toDigits 10 n.natAbs := by
  cases n with
  | ofNat n => exact (if_neg (Int.not_lt.mpr (Int.natCast_nonneg n))).symm
  | negSucc n => exact (if_pos (Int.negSucc_lt_zero n)).symm

theorem leading_toDigits (n : Nat) :
    Nat.toDigits 10 n = ['0'] ∨ ∃ first rest, Nat.toDigits 10 n = first :: rest ∧ first ≠ '0' := by
  rcases Nat.eq_zero_or_pos n with rfl | positive
  · exact .inl (Nat.toDigits_zero 10)
  · exact .inr (exists_toDigits positive.ne')

theorem value?_integer {n : Int} (fits : -2 ^ 63 ≤ n ∧ n < 2 ^ 64) :
    Numeral.value? ⟨decide (n < 0), n.natAbs, 0, true⟩ = some (.integer n) := by
  have same : (if decide (n < 0) then -(n.natAbs : Int) else n.natAbs) = n := by
    split <;> rename_i sign <;> rw [decide_eq_true_eq] at sign <;> omega
  have signed : (decide (n < 0) && decide (n.natAbs = 0)) = false := by
    rw [Bool.and_eq_false_iff, decide_eq_false_iff_not, decide_eq_false_iff_not]
    omega
  have word : (Word.fitsSigned n || Word.fits 64 n.toNat && decide (0 ≤ n)) = true := by
    simp only [Word.fitsSigned, Word.fits, Bool.or_eq_true, Bool.and_eq_true, decide_eq_true_eq]
    simp only [Word.bound, Nat.pow_eq]
    omega
  rw [Numeral.value?]
  simp only [same, signed, word, Bool.not_false, Bool.and_true, if_true]

theorem integer_spells {n : Int} (fits : -2 ^ 63 ≤ n ∧ n < 2 ^ 64) :
    Spells (integerChars n) (some (.integer n)) := by
  let p : Parts :=
    { negative := decide (n < 0), whole := Nat.toDigits 10 n.natAbs, behind := [], exponent := none
      digits := by
        rw [List.append_nil]
        exact isDigit_toDigits n.natAbs
      fits := by
        rw [List.append_nil, decimalValue_toDigits]
        omega
      leading := leading_toDigits n.natAbs }
  have printed : integerChars n = p.chars := by
    simp [integerChars_eq, p, Parts.chars, Parts.unsignedChars, Parts.fractionChars,
      Parts.exponentChars]
  have numeral : p.numeral = ⟨decide (n < 0), n.natAbs, 0, true⟩ := by
    rw [Parts.numeral, List.append_nil, decimalValue_toDigits]
    rfl
  exact ⟨printed ▸ p.exists_first, p.numeral, fun rest ends => printed ▸ p.numeral_chars ends,
    numeral ▸ value?_integer fits⟩

section Float

open Binary64 (Decimal)

/-- A number without its sign that is taken up as this decimal, and not as an integer. -/
def Shows (body : List Char) (d : Decimal) : Prop := ∀ negative, ∃ p : Parts,
  p.negative = negative ∧ p.unsignedChars = body ∧
    p.numeral = ⟨negative, d.digits, d.exponent, false⟩

section Layout

variable {ds : List Char} (isDigit : ∀ c ∈ ds, c.isDigit)

theorem behind_shows {whole : List Char} {exponent : Int} (present : ds ≠ [])
    (digits : ∀ c ∈ whole ++ ds, c.isDigit) (fits : decimalValue (whole ++ ds) < 2 ^ 64)
    (leading : whole = ['0'] ∨ ∃ first rest, whole = first :: rest ∧ first ≠ '0')
    (shift : -(ds.length : Int) = exponent) :
    Shows (whole ++ '.' :: ds) ⟨decimalValue (whole ++ ds), exponent⟩ := fun negative => by
  refine ⟨⟨negative, whole, ds, none, digits, fits, leading⟩, rfl, ?_, ?_⟩
  · rw [Parts.unsignedChars, Parts.fractionChars_of_ne_nil present, Parts.exponentChars,
      List.append_nil]
  · rw [Parts.numeral, List.isEmpty_eq_false_iff.mpr present, Option.getD_none, Int.zero_sub, shift]
    rfl

theorem zero_shows : Shows ['0', '.', '0'] ⟨0, -1⟩ := fun negative =>
  ⟨⟨negative, ['0'], ['0'], none, isDigit_replicate 2, by decide, .inl rfl⟩, rfl, rfl, rfl⟩

include isDigit

theorem zeros_show (leading : ∃ first rest, ds = first :: rest ∧ first ≠ '0') {k : Nat}
    (fits : decimalValue ds * 10 ^ (k + 1) < 2 ^ 64) :
    Shows (ds ++ List.replicate k '0' ++ ['.', '0']) ⟨decimalValue ds * 10 ^ (k + 1), -1⟩ := by
  have shifted : decimalValue (ds ++ List.replicate k '0' ++ ['0']) =
      decimalValue ds * 10 ^ (k + 1) := by
    rw [decimalValue_append, decimalValue_append, Nat.ofDigitChars_replicate_zero, Nat.pow_succ,
      ← Nat.mul_assoc, Nat.mul_comm (decimalValue ds), Nat.mul_comm _ 10]
    rfl
  rw [← shifted] at fits ⊢
  refine behind_shows (List.cons_ne_nil '0' []) ?_ fits ?_ rfl
  · simp only [List.forall_mem_append]
    exact ⟨⟨isDigit, isDigit_replicate k⟩, isDigit_replicate 1⟩
  · obtain ⟨first, others, rfl, other⟩ := leading
    exact .inr ⟨first, others ++ List.replicate k '0', rfl, other⟩

theorem point_shows (leading : ∃ first rest, ds = first :: rest ∧ first ≠ '0') {k : Nat}
    {exponent : Int} (fits : decimalValue ds < 2 ^ 64) (inside : k + 1 < ds.length)
    (lead : exponent + ds.length - 1 = k) :
    Shows (ds.take (k + 1) ++ '.' :: ds.drop (k + 1)) ⟨decimalValue ds, exponent⟩ := by
  have behind : ds.drop (k + 1) ≠ [] := by
    rw [Ne, List.drop_eq_nil_iff]
    omega
  have shown : Shows (ds.take (k + 1) ++ '.' :: ds.drop (k + 1))
      ⟨decimalValue (ds.take (k + 1) ++ ds.drop (k + 1)), exponent⟩ := by
    refine behind_shows behind ?_ ?_ ?_ ?_
    · rwa [List.take_append_drop]
    · rwa [List.take_append_drop]
    · obtain ⟨first, others, rfl, other⟩ := leading
      exact .inr ⟨first, others.take k, List.take_succ_cons, other⟩
    · rw [List.length_drop]
      omega
  rwa [List.take_append_drop] at shown

theorem small_shows (present : ds ≠ []) {k : Nat} {exponent : Int}
    (fits : decimalValue ds < 2 ^ 64) (lead : -(exponent + ds.length - 1) - 1 = k) :
    Shows ('0' :: '.' :: (List.replicate k '0' ++ ds)) ⟨decimalValue ds, exponent⟩ := by
  have worth : decimalValue (['0'] ++ (List.replicate k '0' ++ ds)) = decimalValue ds := by
    rw [← List.append_assoc, decimalValue_append, decimalValue_append,
      Nat.ofDigitChars_replicate_zero]
    rfl
  rw [← worth] at fits ⊢
  refine behind_shows (List.append_ne_nil_of_right_ne_nil _ present) ?_ fits (.inl rfl) ?_
  · simp only [List.forall_mem_append]
    exact ⟨isDigit_replicate 1, isDigit_replicate k, isDigit⟩
  · rw [List.length_append, List.length_replicate]
    omega

omit isDigit in
theorem scientific_shows {first : Char} {others : List Char} {lead exponent : Int}
    (isDigit : ∀ c ∈ first :: others, c.isDigit) (other : first ≠ '0')
    (fits : decimalValue (first :: others) < 2 ^ 64) (shift : lead - others.length = exponent) :
    Shows ((match first :: others with
        | [] => []
        | [one] => [one]
        | first :: rest => first :: '.' :: rest) ++
          'e' :: (if lead < 0 then '-' else '+') :: Nat.toDigits 10 lead.natAbs)
      ⟨decimalValue (first :: others), exponent⟩ := fun negative => by
  refine ⟨⟨negative, [first], others, some lead, isDigit, fits, .inr ⟨first, [], rfl, other⟩⟩, rfl,
    ?_, ?_⟩
  · cases others with
    | nil => rfl
    | cons second others => rfl
  · rw [Parts.numeral, Option.isNone_some, Bool.and_false, Option.getD_some, shift]
    rfl

end Layout

end Float

end CacheWatch.Json

namespace CacheWatch.Binary64

/-- The decimal as it is printed: a whole number gets a zero behind its point. -/
def printed (x : Binary64) : Decimal :=
  let d := x.shortest
  if d.digits = 0 then ⟨0, -1⟩
  else if 0 ≤ d.exponent && d.exponent + (Nat.toDigits 10 d.digits).length - 1 < 16 then
    ⟨d.digits * 10 ^ (d.exponent.toNat + 1), -1⟩
  else d

def again (x : Binary64) : Option Binary64 :=
  ofParts x.negative x.printed.digits x.printed.exponent

/-- Printed with so few digits and so small an exponent that reading rounds only once. -/
def Short (x : Binary64) : Prop :=
  x.printed.digits < 2 ^ 53 ∧ x.printed.exponent.natAbs ≤ 22

theorem printed_value (x : Binary64) : x.printed.value = x.shortest.value := by
  rw [printed]
  generalize x.shortest = d
  obtain ⟨digits, exponent⟩ := d
  simp only
  split
  case isTrue zero => rw [Decimal.value, Decimal.value, zero, Nat.cast_zero, zero_mul, zero_mul]
  split
  case isTrue whole =>
    rw [Bool.and_eq_true, decide_eq_true_eq] at whole
    obtain ⟨k, rfl⟩ := Int.eq_ofNat_of_zero_le whole.1
    rw [Decimal.value, Decimal.value]
    simp
    ring
  case isFalse => rfl

theorem again_of_short {x : Binary64} (short : x.Short) : x.again = some x :=
  ofParts_of_nearest short.1 short.2 (x.printed_value ▸ x.shortest_nearest)

open Json in
theorem jsonChars_shows (x : Binary64) : ∃ body, Shows body x.printed ∧
    x.jsonChars = if x.negative then '-' :: body else body := by
  have small := x.shortest_digits_lt
  unfold jsonChars printed
  generalize x.shortest = d at small ⊢
  obtain ⟨digits, exponent⟩ := d
  refine ⟨_, ?_, rfl⟩
  simp only at small ⊢
  split
  case isTrue zero => exact zero_shows
  case isFalse nonzero =>
    have isDigit := isDigit_toDigits digits
    have leading := exists_toDigits nonzero
    have present : Nat.toDigits 10 digits ≠ [] := Nat.toDigits_ne_nil
    have worth := decimalValue_toDigits digits
    have few := lt_pow_length_toDigits digits
    generalize Nat.toDigits 10 digits = ds at isDigit leading present worth few ⊢
    subst worth
    split
    case isTrue large =>
      rw [Bool.and_eq_true, decide_eq_true_eq, decide_eq_true_eq] at large
      obtain ⟨k, rfl⟩ := Int.eq_ofNat_of_zero_le large.1
      refine zeros_show isDigit leading ?_
      calc
        _ < 10 ^ ds.length * 10 ^ (k + 1) :=
          Nat.mul_lt_mul_of_pos_right few (Nat.pow_pos (by decide))
        _ = 10 ^ (ds.length + (k + 1)) := (Nat.pow_add ..).symm
        _ ≤ 10 ^ 17 := Nat.pow_le_pow_right (by decide) (by omega)
        _ < 2 ^ 64 := by decide
    split
    case isTrue middle =>
      rw [Bool.and_eq_true, decide_eq_true_eq, decide_eq_true_eq] at middle
      obtain ⟨k, lead⟩ := Int.eq_ofNat_of_zero_le middle.2
      rw [lead]
      exact point_shows isDigit leading small (by omega) lead
    split
    case isTrue fraction =>
      rw [Bool.and_eq_true, decide_eq_true_eq, decide_eq_true_eq] at fraction
      obtain ⟨k, lead⟩ := Int.eq_ofNat_of_zero_le (by omega : 0 ≤ -(exponent + ds.length - 1) - 1)
      rw [lead]
      exact small_shows isDigit present small lead
    case isFalse =>
      obtain ⟨first, others, rfl, other⟩ := leading
      exact scientific_shows isDigit other small (by rw [List.length_cons]; omega)

end CacheWatch.Binary64

namespace CacheWatch.Json

theorem float_spells (x : Binary64) : Spells x.jsonChars (x.again.map .float) := by
  obtain ⟨body, shows, printed⟩ := x.jsonChars_shows
  obtain ⟨p, negative, unsigned, numeral⟩ := shows x.negative
  have chars : x.jsonChars = p.chars := by rw [printed, Parts.chars, negative, unsigned]
  refine ⟨chars ▸ p.exists_first, p.numeral, fun rest ends => chars ▸ p.numeral_chars ends, ?_⟩
  rw [numeral, Numeral.value?]
  simp only [Bool.false_and, if_neg Bool.false_ne_true]
  rfl

end CacheWatch.Json
