import CacheWatch.Event.Kind
import Mathlib.Data.List.DropRight
import Mathlib.Data.Nat.Digits.Defs
import Mathlib.Tactic.IntervalCases

/-! Which tags denote a kind, said as a grammar.
A tag is a number or a text. A text is a code or a name with white space around it, where a code has
any number of leading zeros and may carry a sign.
-/
namespace CacheWatch

namespace Text

def Blank (cs : List Char) : Prop := ∀ c ∈ cs, isBlank c

theorem trim_append {front core back : List Char} (before : Blank front) (behind : Blank back)
    (solid : ∀ c ∈ core, isBlank c = false) : trim (front ++ (core ++ back)) = core := by
  have left : trimLeft (front ++ (core ++ back)) = trimLeft (core ++ back) :=
    List.dropWhile_append_of_pos before
  have right : trimRight (core ++ back) = trimRight core := by
    rw [trimRight, List.reverse_append,
      List.dropWhile_append_of_pos fun c member => behind c (List.mem_reverse.mp member)]
    rfl
  have kept : trimRight core = core := by
    refine List.rdropWhile_eq_self_iff.mpr fun occupied => ?_
    rw [solid _ (List.getLast_mem occupied)]
    exact Bool.false_ne_true
  cases core with
  | nil =>
    have gone : trimLeft back = [] := List.dropWhile_eq_nil_iff.mpr behind
    rw [trim, left, List.nil_append, gone]
    rfl
  | cons c rest =>
    have starts : trimLeft (c :: rest ++ back) = c :: rest ++ back :=
      List.dropWhile_cons_of_neg (by simp [solid c List.mem_cons_self])
    rw [trim, left, starts, right, kept]

theorem exists_trim (cs : List Char) :
    ∃ front back, Blank front ∧ Blank back ∧ cs = front ++ (trim cs ++ back) := by
  refine ⟨cs.takeWhile isBlank, (trimLeft cs).rtakeWhile isBlank,
    fun c member => List.mem_takeWhile_imp member,
    fun c member => List.mem_rtakeWhile_imp member, ?_⟩
  have right : trim cs ++ (trimLeft cs).rtakeWhile isBlank = trimLeft cs :=
    List.rdropWhile_append_rtakeWhile
  rw [right, trimLeft, List.takeWhile_append_dropWhile]

def digitChars (digits : List (Fin 10)) : List Char := digits.map fun d => Nat.digitChar d.val

/-- What digits are worth by their places, the last one counting ones. -/
def placeValue (digits : List (Fin 10)) : Nat := Nat.ofDigits 10 (digits.reverse.map Fin.val)

theorem isDigit_digitChar (d : Fin 10) : (Nat.digitChar d.val).isDigit := by
  decide +revert

theorem isBlank_digitChar (d : Fin 10) : isBlank (Nat.digitChar d.val) = false := by
  decide +revert

theorem digitValue_digitChar (d : Fin 10) : digitValue (Nat.digitChar d.val) = d := by
  decide +revert

theorem exists_digitChar {c : Char} (digit : c.isDigit) :
    ∃ d : Fin 10, c = Nat.digitChar d.val := by
  have range : 48 ≤ c.toNat ∧ c.toNat ≤ 57 := by
    simpa [Char.isDigit, UInt32.le_iff_toNat_le] using digit
  obtain ⟨low, high⟩ := range
  refine ⟨⟨c.toNat - 48, by omega⟩, ?_⟩
  have same : c = Char.ofNat c.toNat := (Char.ofNat_toNat c).symm
  simp only
  generalize c.toNat = n at low high same
  subst same
  interval_cases n <;> rfl

theorem exists_digitChars {cs : List Char} (digits : ∀ c ∈ cs, c.isDigit) :
    ∃ ds, cs = digitChars ds := by
  induction cs with
  | nil => exact ⟨[], rfl⟩
  | cons c rest ih =>
    obtain ⟨d, first⟩ := exists_digitChar (digits c List.mem_cons_self)
    obtain ⟨ds, others⟩ := ih fun c member => digits c (List.mem_cons_of_mem _ member)
    exact ⟨d :: ds, by rw [first, others]; rfl⟩

theorem isDigit_of_mem_digitChars {ds : List (Fin 10)} {c : Char} (member : c ∈ digitChars ds) :
    c.isDigit := by
  obtain ⟨d, _, rfl⟩ := List.mem_map.mp member
  exact isDigit_digitChar d

theorem decimalValue_digitChars (ds : List (Fin 10)) :
    decimalValue (digitChars ds) = placeValue ds := by
  induction ds using List.reverseRecOn with
  | nil => rfl
  | append_singleton ds d ih =>
    have worth : decimalValue (digitChars (ds ++ [d])) =
        10 * decimalValue (digitChars ds) + digitValue (Nat.digitChar d.val) := by
      simp only [decimalValue, digitChars, List.map_append, List.map_cons, List.map_nil,
        List.foldl_append, List.foldl_cons, List.foldl_nil]
    rw [worth, ih, digitValue_digitChar, placeValue, placeValue, List.reverse_append,
      List.reverse_singleton, List.singleton_append, List.map_cons, Nat.ofDigits_cons]
    exact Nat.add_comm _ _

end Text

namespace EventKind

open Text (Blank digitChars placeValue)

inductive Written : List Char → Int → Prop
  | plain (digits : List (Fin 10)) (present : digits ≠ []) :
      Written (digitChars digits) (placeValue digits)
  | plus (digits : List (Fin 10)) (present : digits ≠ []) :
      Written ('+' :: digitChars digits) (placeValue digits)
  | minus (digits : List (Fin 10)) (present : digits ≠ []) :
      Written ('-' :: digitChars digits) (-placeValue digits)

inductive Denotes : Json → EventKind → Prop
  | number (kind : EventKind) : Denotes (.integer kind.code) kind
  | code {front core back : List Char} {kind : EventKind} (before : Blank front)
      (behind : Blank back) (written : Written core kind.code) :
      Denotes (.string (String.ofList (front ++ (core ++ back)))) kind
  | name {front back : List Char} {kind : EventKind} (before : Blank front)
      (behind : Blank back) :
      Denotes (.string (String.ofList (front ++ (kind.tag.toList ++ back)))) kind


theorem guard_digitChars {digits : List (Fin 10)} (present : digits ≠ []) :
    ((digitChars digits).isEmpty || !(digitChars digits).all Char.isDigit) = false := by
  have all : (digitChars digits).all Char.isDigit :=
    List.all_eq_true.mpr fun c member => Text.isDigit_of_mem_digitChars member
  have occupied : (digitChars digits).isEmpty = false := by
    simpa [digitChars] using present
  rw [all, occupied]
  rfl

theorem exists_of_guard {cs : List Char}
    (passed : (cs.isEmpty || !cs.all Char.isDigit) = false) :
    ∃ digits, digits ≠ [] ∧ cs = digitChars digits := by
  rw [Bool.or_eq_false_iff, Bool.not_eq_false', List.all_eq_true] at passed
  obtain ⟨occupied, all⟩ := passed
  obtain ⟨digits, rfl⟩ := Text.exists_digitChars all
  exact ⟨digits, by simpa [digitChars] using occupied, rfl⟩

theorem signedNumber?_eq_some_iff {cs : List Char} {n : Int} :
    signedNumber? cs = some n ↔ Written cs n := by
  constructor
  · intro read
    unfold signedNumber? at read
    split at read
    next negative ds shape =>
      simp only [Option.ite_none_left_eq_some, Bool.not_eq_true, Option.some.injEq] at read
      obtain ⟨passed, rfl⟩ := read
      obtain ⟨digits, present, rfl⟩ := exists_of_guard passed
      rw [Text.decimalValue_digitChars]
      split at shape
      · cases shape
        exact .minus digits present
      · cases shape
        exact .plus digits present
      · cases shape
        exact .plain digits present
  · intro written
    cases written with
    | plain digits present =>
      -- A sign is no digit, so the digits are read from the front.
      have unsigned : ∀ sign ∈ digitChars digits, sign.isDigit :=
        fun sign member => Text.isDigit_of_mem_digitChars member
      unfold signedNumber?
      split
      next negative ds shape =>
        split at shape
        · next rest same => exact absurd (unsigned '-' (by simp [same])) (by decide)
        · next rest same => exact absurd (unsigned '+' (by simp [same])) (by decide)
        · cases shape
          simp only [guard_digitChars present, Text.decimalValue_digitChars]
          rfl
    | plus digits present =>
      simp only [signedNumber?, guard_digitChars present, Text.decimalValue_digitChars]
      rfl
    | minus digits present =>
      simp only [signedNumber?, guard_digitChars present, Text.decimalValue_digitChars]
      rfl

theorem ofCode?_eq_some_iff {n : Int} {kind : EventKind} :
    ofCode? n = some kind ↔ n = kind.code := by
  constructor
  · intro found
    unfold ofCode? at found
    split_ifs at found with h0 h1 h2 h3 <;> cases found <;> assumption
  · rintro rfl
    cases kind <;> rfl

theorem ofTag?_eq_some_iff {name : String} {kind : EventKind} :
    ofTag? name = some kind ↔ name = kind.tag := by
  constructor
  · intro found
    have same := List.find?_some found
    exact (of_decide_eq_true same).symm
  · rintro rfl
    cases kind <;> rfl


theorem solid_of_written {cs : List Char} {n : Int} (written : Written cs n) :
    ∀ c ∈ cs, Text.isBlank c = false := by
  have solid : ∀ digits : List (Fin 10), ∀ c ∈ digitChars digits, Text.isBlank c = false := by
    intro digits c member
    obtain ⟨d, _, rfl⟩ := List.mem_map.mp member
    exact Text.isBlank_digitChar d
  cases written with
  | plain digits _ => exact solid digits
  | plus digits _ => exact List.forall_mem_cons.mpr ⟨by decide, solid digits⟩
  | minus digits _ => exact List.forall_mem_cons.mpr ⟨by decide, solid digits⟩

theorem solid_tag (kind : EventKind) : ∀ c ∈ kind.tag.toList, Text.isBlank c = false := by
  have solid : kind.tag.toList.all (!Text.isBlank ·) := by
    cases kind <;> decide
  intro c member
  simpa using List.all_eq_true.mp solid c member

theorem signedNumber?_tag (kind : EventKind) : signedNumber? kind.tag.toList = none := by
  cases kind <;> decide

theorem ofText?_eq_some_iff {s : String} {kind : EventKind} :
    ofText? s = some kind ↔ Written (Text.trim s.toList) kind.code ∨
      Text.trim s.toList = kind.tag.toList := by
  simp only [ofText?]
  constructor
  · intro found
    cases read : (signedNumber? (Text.trim s.toList)).bind ofCode? with
    | some first =>
      rw [read] at found
      cases found
      obtain ⟨n, number, code⟩ := Option.bind_eq_some_iff.mp read
      rw [ofCode?_eq_some_iff.mp code] at number
      exact .inl (signedNumber?_eq_some_iff.mp number)
    | none =>
      rw [read] at found
      have name := ofTag?_eq_some_iff.mp found
      exact .inr (by rw [← name, String.toList_ofList])
  · rintro (written | name)
    · rw [signedNumber?_eq_some_iff.mpr written, Option.bind_some, ofCode?_eq_some_iff.mpr rfl]
      rfl
    · rw [name, signedNumber?_tag, String.ofList_toList]
      exact ofTag?_eq_some_iff.mpr rfl

theorem ofJson?_eq_some_iff {tag : Json} {kind : EventKind} :
    ofJson? tag = some kind ↔ Denotes tag kind := by
  constructor
  · intro found
    cases tag with
    | integer n =>
      rw [ofCode?_eq_some_iff.mp found]
      exact .number kind
    | string s =>
      obtain ⟨front, back, before, behind, whole⟩ := Text.exists_trim s.toList
      rw [← String.ofList_toList (s := s), whole]
      rcases ofText?_eq_some_iff.mp found with written | name
      · exact .code before behind written
      · rw [name]
        exact .name before behind
    | null => contradiction
    | bool _ => contradiction
    | float _ => contradiction
    | array _ => contradiction
    | object _ => contradiction
  · intro denotes
    cases denotes with
    | number => exact ofCode?_eq_some_iff.mpr rfl
    | code before behind written =>
      refine ofText?_eq_some_iff.mpr (.inl ?_)
      rw [String.toList_ofList, Text.trim_append before behind (solid_of_written written)]
      exact written
    | name before behind =>
      refine ofText?_eq_some_iff.mpr (.inr ?_)
      rw [String.toList_ofList, Text.trim_append before behind (solid_tag kind)]

/-! Leading zeros are free, and a code beyond any machine word is still read by its value. -/

example : ofJson? (.string "\u2003+0000000000000000000000000000002\n") = some .profile := by
  decide

example : ofJson? (.string "18446744073709551618") = none := by decide

end EventKind
end CacheWatch
