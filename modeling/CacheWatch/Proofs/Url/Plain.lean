import CacheWatch.Proofs.Url.Authority

/-! Names and paths without anything that URLs rewrite.
A name in ASCII comes out in lower case, and a path without dot segments comes out as it is.
-/
namespace CacheWatch

namespace Url

/-- A letter, and letters and digits behind it. -/
def Label.isPlain : List Char → Bool
  | [] => false
  | c :: rest => c.isAlpha && rest.all Char.isAlphanum

def Path.isPlainChar (c : Char) : Bool := c.isAlphanum || c = '-' || c = '_' || c = '.'

def Path.isPlain (segment : List Char) : Bool :=
  segment.all isPlainChar && segment ≠ ['.'] && segment ≠ ['.', '.']

end Url

structure HostName where
  labels : List (List Char)
  present : labels ≠ []
  plain : ∀ label ∈ labels, Url.Label.isPlain label

def HostName.chars (h : HostName) : List Char := Text.joinWith '.' h.labels

structure PlainPath where
  segments : List (List Char)
  plain : ∀ segment ∈ segments, Url.Path.isPlain segment
  occupied : segments.getLast? ≠ some []

def PlainPath.chars (p : PlainPath) : List Char := p.segments.flatMap ('/' :: ·)


namespace Url

theorem not_inRanges_of_ascii (ranges : List (Nat × Nat)) (high : ∀ range ∈ ranges, 128 ≤ range.1)
    {c : Char} (ascii : c.toNat < 128) : Text.inRanges ranges c = false := by
  refine List.any_eq_false.mpr fun range member => ?_
  have above := high range member
  simp only [Bool.and_eq_true, decide_eq_true_eq]
  omega

theorem Direction.isMixed_of_ascii {text : List Char} (ascii : ∀ c ∈ text, c.toNat < 128) :
    isMixed text = false := by
  refine List.any_eq_false.mpr fun c member => ?_
  have letters := not_inRanges_of_ascii rightToLeftRanges (by decide) (ascii c member)
  have digits := not_inRanges_of_ascii arabicNumberRanges (by decide) (ascii c member)
  simp only [of, letters, digits, Bool.false_eq_true, if_false]
  split_ifs <;> decide

theorem mapM_self {α : Type} {f : α → Option α} {xs : List α} (kept : ∀ x ∈ xs, f x = some x) :
    xs.mapM f = some xs := by
  induction xs with
  | nil => rfl
  | cons x xs ih =>
    obtain ⟨first, others⟩ := List.forall_mem_cons.mp kept
    rw [List.mapM_cons, first, ih others]
    rfl

namespace Label

variable {label : List Char}

theorem exists_of_isPlain (plain : isPlain label) :
    ∃ c rest, label = c :: rest ∧ c.isAlpha ∧ ∀ d ∈ rest, d.isAlphanum := by
  cases label with
  | nil => cases plain
  | cons c rest =>
    obtain ⟨letter, others⟩ := Bool.and_eq_true_iff.mp plain
    exact ⟨c, rest, rfl, letter, List.all_eq_true.mp others⟩

theorem isAlphanum_of_isPlain (plain : isPlain label) : ∀ c ∈ label, c.isAlphanum := by
  obtain ⟨c, rest, rfl, letter, others⟩ := exists_of_isPlain plain
  exact List.forall_mem_cons.mpr ⟨Text.isAlphanum_of_isAlpha letter, others⟩

theorem ascii_of_isPlain (plain : isPlain label) : ∀ c ∈ label, c.toNat < 128 :=
  fun c member => Text.toNat_lt_of_isAlphanum (isAlphanum_of_isPlain plain c member)

theorem isAscii_of_isPlain (plain : isPlain label) : isAscii label :=
  List.all_eq_true.mpr fun c member => decide_eq_true (ascii_of_isPlain plain c member)

theorem isPlain_lower (plain : isPlain label) : isPlain (label.map Char.toLower) := by
  obtain ⟨c, rest, rfl, letter, others⟩ := exists_of_isPlain plain
  have lower {d : Char} (alphanum : d.isAlphanum) :
      d.toLower.isAlphanum ∧ (d.isAlpha → d.toLower.isAlpha) :=
    Text.of_ascii
      (P := fun d => d.isAlphanum → d.toLower.isAlphanum ∧ (d.isAlpha → d.toLower.isAlpha))
      (by decide) (Text.toNat_lt_of_isAlphanum alphanum) alphanum
  refine Bool.and_eq_true_iff.mpr ⟨(lower (Text.isAlphanum_of_isAlpha letter)).2 letter, ?_⟩
  rw [List.all_map]
  exact List.all_eq_true.mpr fun d member => (lower (others d member)).1

theorem text?_of_isPlain (plain : isPlain label) : text? label = some label := by
  have ascii := isAscii_of_isPlain plain
  unfold text?
  split
  · next coded =>
    have hyphen : '-'.isAlphanum := isAlphanum_of_isPlain plain '-' (by simp)
    cases hyphen
  · rw [ascii]
    rfl

theorem encode_of_isPlain (plain : isPlain label) : encode label = label :=
  if_pos (isAscii_of_isPlain plain)

theorem number?_of_isPlain (plain : isPlain label) : Ipv4.number? label = none := by
  obtain ⟨c, rest, rfl, letter, _⟩ := exists_of_isPlain plain
  have other := Text.isDigit_of_isAlpha letter
  unfold Ipv4.number?
  split
  · next empty => cases empty
  · next hex => cases hex; cases other
  · next hex => cases hex; cases other
  · next octal => cases octal; cases other
  · simp [other]

end Label

end Url

def HostName.lower (h : HostName) : HostName where
  labels := h.labels.map (List.map Char.toLower)
  present := by simpa using h.present
  plain := List.forall_mem_map.mpr fun label member =>
    Url.Label.isPlain_lower (h.plain label member)

namespace HostName

open Url

variable (h : HostName)

theorem chars_lower : h.lower.chars = h.chars.map Char.toLower :=
  (Text.map_joinWith (by decide) h.labels).symm

theorem point_or_alphanum : ∀ c ∈ h.chars, c = '.' ∨ c.isAlphanum :=
  Text.forall_mem_joinWith (.inl rfl) fun label member c inside =>
    .inr (Label.isAlphanum_of_isPlain (h.plain label member) c inside)

theorem of_mem_chars {c : Char} (member : c ∈ h.chars) :
    isNameText c ∧ Host.isForbidden c = false ∧ c ≠ '%' := by
  obtain rfl | letter := h.point_or_alphanum c member
  · decide
  · exact Text.of_ascii
      (P := fun c => c.isAlphanum → isNameText c ∧ Host.isForbidden c = false ∧ c ≠ '%')
      (by decide) (Text.toNat_lt_of_isAlphanum letter) letter

theorem chars_ne_nil : h.chars ≠ [] := by
  obtain ⟨labels, present, plain⟩ := h
  obtain ⟨label, more, rfl⟩ := List.exists_cons_of_ne_nil present
  obtain ⟨c, rest, rfl, -, -⟩ := Label.exists_of_isPlain (plain label List.mem_cons_self)
  cases more <;> exact List.cons_ne_nil _ _

theorem splitAt_chars : Text.splitAt '.' h.chars = h.labels :=
  Text.splitAt_joinWith h.present fun label member point => by
    cases Label.isAlphanum_of_isPlain (h.plain label member) '.' point

theorem written : HostText h.chars :=
  .name h.chars_ne_nil fun _ member => (h.of_mem_chars member).1

theorem nameOf?_chars : Host.nameOf? h.chars = some h.lower.chars := by
  have decoded : Text.percentDecode? h.chars = some h.chars :=
    Text.percentDecode?_of_free fun sign => (h.of_mem_chars sign).2.2 rfl
  have allowed : h.lower.chars.any Host.isForbidden = false :=
    List.any_eq_false.mpr fun c member => by simp [(h.lower.of_mem_chars member).2.1]
  have texts : h.lower.labels.mapM Label.text? = some h.lower.labels :=
    mapM_self fun label member => Label.text?_of_isPlain (h.lower.plain label member)
  have direct : h.lower.labels.any Direction.isMixed = false :=
    List.any_eq_false.mpr fun label member => by
      simp [Direction.isMixed_of_ascii (Label.ascii_of_isPlain (h.lower.plain label member))]
  have encoded : h.lower.labels.map Label.encode = h.lower.labels :=
    (List.map_congr_left fun label member =>
      Label.encode_of_isPlain (h.lower.plain label member)).trans (List.map_id' _)
  rw [Host.nameOf?, decoded, Option.map_some, ← chars_lower]
  simp only [allowed, h.lower.splitAt_chars, texts, direct, encoded, Bool.false_eq_true, if_false,
    Bool.false_and]
  rfl

theorem looksNumeric_chars : Ipv4.looksNumeric h.chars = false := by
  obtain ⟨last, ends⟩ : ∃ last, h.labels.getLast? = some last :=
    ⟨_, List.getLast?_eq_some_getLast h.present⟩
  have plain := h.plain last (List.mem_of_getLast? ends)
  obtain ⟨c, rest, rfl, letter, -⟩ := Label.exists_of_isPlain plain
  have labels : Ipv4.labels h.chars = h.labels := by
    simp [Ipv4.labels, h.splitAt_chars, ends]
  rw [Ipv4.looksNumeric, labels, ends]
  simp [Label.number?_of_isPlain plain, Text.isDigit_of_isAlpha letter]

theorem ofChars?_chars : Host.ofChars? h.chars = .ok (.name (String.ofList h.lower.chars)) := by
  have named : Host.ofName? h.chars = .ok (.name (String.ofList h.lower.chars)) := by
    simp only [Host.ofName?, h.nameOf?_chars, h.lower.looksNumeric_chars, Bool.false_eq_true,
      if_false]
  have open' : '[' ∉ h.chars := fun bracket => by cases (h.of_mem_chars bracket).1
  unfold Host.ofChars?
  split
  · next empty => exact absurd empty h.chars_ne_nil
  · next bracket => exact absurd (bracket ▸ List.mem_cons_self) open'
  · exact named

end HostName

namespace Url.Path

section Segment

variable {c : Char} {segment : List Char}

theorem of_isPlainChar (plain : isPlainChar c) :
    Text.isPlain c ∧ isPathSpecial c = false ∧ isEnd c = false ∧ isIgnored c = false ∧
      c.toLower ≠ '%' := by
  simp only [isPlainChar, Bool.or_eq_true, decide_eq_true_eq] at plain
  obtain ((letter | rfl) | rfl) | rfl := plain
  · exact Text.of_ascii
      (P := fun c => c.isAlphanum → Text.isPlain c ∧ isPathSpecial c = false ∧ isEnd c = false ∧
        isIgnored c = false ∧ c.toLower ≠ '%')
      (by decide) (Text.toNat_lt_of_isAlphanum letter) letter
  · decide
  · decide
  · decide

theorem isPlain_iff : isPlain segment ↔
    (∀ c ∈ segment, isPlainChar c) ∧ segment ≠ ['.'] ∧ segment ≠ ['.', '.'] := by
  simp [isPlain, and_assoc]

theorem not_isDot (plain : ∀ c ∈ segment, isPlainChar c) (other : segment ≠ ['.']) :
    isDot segment = false := by
  have coded : segment.map Char.toLower ≠ ['%', '2', 'e'] := by
    intro coded
    obtain ⟨c, member, sign⟩ :=
      List.mem_map.mp (coded ▸ List.mem_cons_self : '%' ∈ segment.map Char.toLower)
    obtain ⟨-, -, -, -, unsigned⟩ := of_isPlainChar (plain c member)
    exact unsigned sign
  simp [isDot, other, coded]

theorem not_isDoubleDot (plain : isPlain segment) : isDoubleDot segment = false := by
  obtain ⟨chars, -, other⟩ := isPlain_iff.mp plain
  unfold isDoubleDot
  split
  · next rest =>
    refine not_isDot (List.forall_mem_cons.mp chars).2 ?_
    rintro rfl
    exact other rfl
  · cases chars '%' List.mem_cons_self
  · rfl

end Segment

theorem resolveFrom_plain {segments : List (List Char)} (plain : ∀ s ∈ segments, isPlain s)
    (above : List (List Char)) : resolveFrom above segments = above.reverse ++ segments := by
  induction segments generalizing above with
  | nil => simp [resolveFrom]
  | cons s rest ih =>
    obtain ⟨first, others⟩ := List.forall_mem_cons.mp plain
    have single : isDot s = false := not_isDot (isPlain_iff.mp first).1 (isPlain_iff.mp first).2.1
    have double := not_isDoubleDot first
    cases rest with
    | nil => simp [resolveFrom, single, double]
    | cons next rest => simp [resolveFrom, single, double, ih others]

theorem flatMap_slash (segments : List (List Char)) :
    segments.flatMap ('/' :: ·) ++ ['/'] = '/' :: Text.joinWith '/' (segments ++ [[]]) := by
  induction segments with
  | nil => rfl
  | cons s rest ih =>
    have more : rest ++ [[]] ≠ [] := List.append_ne_nil_of_right_ne_nil rest (List.cons_ne_nil _ _)
    rw [List.flatMap_cons, List.append_assoc, ih, List.cons_append, List.cons_append,
      Text.joinWith_cons more]

end Url.Path

def PlainPath.directory (p : PlainPath) : List (List Char) := p.segments ++ [[]]

namespace PlainPath

open Url Url.Path

variable (p : PlainPath)

theorem directory_plain : ∀ s ∈ p.directory, isPlain s :=
  List.forall_mem_append.mpr ⟨p.plain, List.forall_mem_singleton.mpr (by decide)⟩

theorem chars_slash : p.chars ++ ['/'] = '/' :: Text.joinWith '/' p.directory :=
  flatMap_slash p.segments

theorem of_mem_directory {s : List Char} (member : s ∈ p.directory) :
    ∀ c ∈ s, isPlainChar c := (isPlain_iff.mp (p.directory_plain s member)).1

theorem slash_or_plain : ∀ c ∈ Text.joinWith '/' p.directory, c = '/' ∨ isPlainChar c :=
  Text.forall_mem_joinWith (.inl rfl) fun _ member c inside =>
    .inr (p.of_mem_directory member c inside)

theorem of_mem_joined {c : Char} (member : c ∈ Text.joinWith '/' p.directory) :
    c ≠ '\\' ∧ c ≠ '?' ∧ c ≠ '#' ∧ isIgnored c = false := by
  obtain rfl | plain := p.slash_or_plain c member
  · decide
  · obtain ⟨-, -, inside, kept, -⟩ := of_isPlainChar plain
    simp only [isEnd, Bool.or_eq_false_iff, decide_eq_false_iff_not] at inside
    exact ⟨inside.1.1.2, inside.1.2, inside.2, kept⟩

theorem splitTail_chars : splitTail (p.chars ++ ['/']) = (p.chars ++ ['/'], none, none) := by
  have free : ∀ c ∈ p.chars ++ ['/'], c ≠ '#' ∧ c ≠ '?' := by
    rw [chars_slash]
    refine List.forall_mem_cons.mpr ⟨by decide, fun c member => ?_⟩
    obtain ⟨-, query, fragment, -⟩ := p.of_mem_joined member
    exact ⟨fragment, query⟩
  have whole {mark : Char} (other : ∀ c ∈ p.chars ++ ['/'], c ≠ mark) :
      (p.chars ++ ['/']).takeWhile (· ≠ mark) = p.chars ++ ['/'] ∧
        (p.chars ++ ['/']).dropWhile (· ≠ mark) = [] :=
    ⟨List.takeWhile_eq_self_iff.mpr fun c member => decide_eq_true (other c member),
      List.dropWhile_eq_nil_iff.mpr fun c member => decide_eq_true (other c member)⟩
  obtain ⟨beforeFragment, noFragment⟩ := whole fun c member => (free c member).1
  obtain ⟨beforeQuery, noQuery⟩ := whole fun c member => (free c member).2
  simp only [splitTail, beforeFragment, noFragment, beforeQuery, noQuery]

theorem ofChars_chars : Path.ofChars (p.chars ++ ['/']) = p.directory := by
  have slashed : (Text.joinWith '/' p.directory).map (fun c => if c = '\\' then '/' else c) =
      Text.joinWith '/' p.directory :=
    (List.map_congr_left fun c member => if_neg (p.of_mem_joined member).1).trans (List.map_id' _)
  have pieces : Text.splitAt '/' (Text.joinWith '/' p.directory) = p.directory :=
    Text.splitAt_joinWith (List.append_ne_nil_of_right_ne_nil _ (List.cons_ne_nil _ _))
      fun s member slash => by cases p.of_mem_directory member '/' slash
  have encoded : p.directory.map (Text.percentEncode isPathSpecial) = p.directory :=
    (List.map_congr_left fun s member => Text.percentEncode_of_plain fun c inside =>
      (of_isPlainChar (p.of_mem_directory member c inside)).imp_right And.left).trans
      (List.map_id' _)
  rw [Path.ofChars, chars_slash, List.map_cons, slashed, if_neg (by decide)]
  simp only [pieces, encoded]
  exact resolveFrom_plain p.directory_plain []

theorem chars_directory : Path.chars p.directory = p.chars ++ ['/'] := p.chars_slash.symm

theorem dropWhile_slashes (slashes : Nat) :
    ((p.chars ++ List.replicate slashes '/').reverse.dropWhile (· = '/')).reverse = p.chars := by
  have all : ∀ c ∈ (List.replicate slashes '/').reverse, decide (c = '/') := by
    simp
  rw [List.reverse_append, List.dropWhile_append_of_pos all]
  refine List.rdropWhile_eq_self_iff.mpr fun present => ?_
  obtain ⟨segments, plain, occupied⟩ := p
  obtain rfl | ⟨front, last, rfl⟩ := segments.eq_nil_or_concat'
  · exact absurd rfl present
  · have filled : last ≠ [] := by simpa using occupied
    have written : chars ⟨front ++ [last], plain, occupied⟩ =
        (front.flatMap ('/' :: ·) ++ ['/']) ++ last := by
      simp [chars]
    have inside : isPlainChar (last.getLast filled) :=
      (isPlain_iff.mp (plain last (by simp))).1 _ (List.getLast_mem filled)
    simp only [written, List.getLast_append_of_ne_nil _ filled, decide_eq_true_eq]
    intro slash
    rw [slash] at inside
    cases inside

end PlainPath

end CacheWatch
