import CacheWatch.Proofs.Text.Plain
import CacheWatch.Proofs.Text.Words
import CacheWatch.Url.Basic

/-! The authority of a URL, which is a host and perhaps a port.
A colon inside brackets belongs to the host, and the first one outside them begins the port.
-/
namespace CacheWatch

namespace Url

/-- What stands before a path: no white space, nothing that ends it, and no user. -/
def isAuthorityText (c : Char) : Bool := !Text.isBlank c && !isEnd c && c ≠ '@'

def isNameText (c : Char) : Bool := isAuthorityText c && c ≠ ':' && c ≠ '[' && c ≠ ']'

def isIpv6Text (c : Char) : Bool := (Text.hexValue? c).isSome || c = ':' || c = '.'

end Url

/-- A host as it is written: a name or an IPv4 address, or an IPv6 address in brackets. -/
inductive HostText : List Char → Prop where
  | name {cs : List Char} (present : cs ≠ []) (plain : ∀ c ∈ cs, Url.isNameText c) : HostText cs
  | bracketed {inner : List Char} (plain : ∀ c ∈ inner, Url.isIpv6Text c) :
      HostText ('[' :: inner ++ [']'])

structure HostPort where
  host : List Char
  port : Option (List Char)
  written : HostText host
  digits : ∀ ds ∈ port, ds ≠ [] ∧ ∀ d ∈ ds, d.isDigit

namespace HostPort

def portChars (a : HostPort) : List Char := (a.port.map (':' :: ·)).getD []

def chars (a : HostPort) : List Char := a.host ++ a.portChars

/-- The port that is meant: the one that is written, or the default one of the scheme. -/
def number (a : HostPort) (secure : Bool) : Nat :=
  (a.port.map Text.decimalValue).getD (Url.defaultPort secure)

end HostPort

namespace Url

section Characters

variable {c : Char}

theorem isNameText_iff :
    isNameText c ↔ isAuthorityText c ∧ c ≠ ':' ∧ c ≠ '[' ∧ c ≠ ']' := by
  simp [isNameText, and_assoc]

theorem toNat_lt_of_isIpv6Text (plain : isIpv6Text c) : c.toNat < 128 := by
  simp only [isIpv6Text, Bool.or_eq_true, decide_eq_true_eq] at plain
  obtain (digit | rfl) | rfl := plain
  · exact Text.toNat_lt_of_hexValue? digit
  · decide
  · decide

theorem of_isIpv6Text (plain : isIpv6Text c) : isAuthorityText c ∧ c ≠ '[' ∧ c ≠ ']' :=
  Text.of_ascii (P := fun c => isIpv6Text c → isAuthorityText c ∧ c ≠ '[' ∧ c ≠ ']') (by decide)
    (toNat_lt_of_isIpv6Text plain) plain

theorem isAuthorityText_of_isDigit (digit : c.isDigit) : isAuthorityText c := by
  obtain ⟨d, rfl⟩ := Text.exists_digitChar digit
  decide +revert

theorem isAuthorityText_iff :
    isAuthorityText c ↔ Text.isBlank c = false ∧ isEnd c = false ∧ c ≠ '@' := by
  simp [isAuthorityText, and_assoc]

theorem isIgnored_of_not_isBlank (solid : Text.isBlank c = false) : isIgnored c = false := by
  by_contra ignored
  simp only [isIgnored, Bool.or_eq_true, decide_eq_true_eq, Bool.not_eq_false] at ignored
  obtain (rfl | rfl) | rfl := ignored <;> cases solid

theorem isSlash_of_not_isEnd (inside : isEnd c = false) : Path.isSlash c = false := by
  simp_all [isEnd, Path.isSlash]

end Characters

theorem splitHost_append {inBrackets : Bool} {cs : List Char}
    (flat : ∀ c ∈ cs, c ≠ '[' ∧ c ≠ ']') (whole : inBrackets ∨ ':' ∉ cs) (rest : List Char) :
    splitHost inBrackets (cs ++ rest) =
      (cs ++ (splitHost inBrackets rest).1, (splitHost inBrackets rest).2) := by
  induction cs with
  | nil => rfl
  | cons c cs ih =>
    obtain ⟨⟨opens, closes⟩, others⟩ := List.forall_mem_cons.mp flat
    have inside : (c = ':' && !inBrackets) = false := by
      obtain rfl | free := whole
      · exact Bool.and_false _
      · simp [Ne.symm (List.ne_of_not_mem_cons free)]
    have rest := ih others (whole.imp_right List.not_mem_of_not_mem_cons)
    simp only [List.cons_append, splitHost, inside, if_neg opens, if_neg closes, rest,
      Bool.false_eq_true, if_false]

end Url

namespace HostText

open Url

variable {host : List Char}

theorem ne_nil (written : HostText host) : host ≠ [] := by
  cases written with
  | name present _ => exact present
  | bracketed _ => exact List.cons_ne_nil _ _

theorem isAuthorityText (written : HostText host) : ∀ c ∈ host, isAuthorityText c := by
  cases written with
  | name _ plain => exact fun c member => (isNameText_iff.mp (plain c member)).1
  | bracketed plain =>
    refine List.forall_mem_append.mpr ⟨List.forall_mem_cons.mpr ⟨by decide, fun c member => ?_⟩, ?_⟩
    · exact (of_isIpv6Text (plain c member)).1
    · exact List.forall_mem_singleton.mpr (by decide)

/-- Brackets close within a host, so that it goes on outside them. -/
theorem splitHost_append (written : HostText host) (rest : List Char) :
    splitHost false (host ++ rest) =
      (host ++ (splitHost false rest).1, (splitHost false rest).2) := by
  cases written with
  | name _ plain =>
    have flat (c) (member : c ∈ host) := (isNameText_iff.mp (plain c member)).2
    exact Url.splitHost_append (fun c member => (flat c member).2)
      (.inr fun colon => (flat ':' colon).1 rfl) rest
  | @bracketed inner plain =>
    have flat (c) (member : c ∈ inner) := (of_isIpv6Text (plain c member)).2
    have opened : splitHost true (inner ++ (']' :: rest)) =
        (inner ++ ']' :: (splitHost false rest).1, (splitHost false rest).2) :=
      Url.splitHost_append flat (.inl rfl) (']' :: rest)
    have begun : splitHost false ('[' :: (inner ++ (']' :: rest))) =
        ('[' :: (splitHost true (inner ++ (']' :: rest))).1,
          (splitHost true (inner ++ (']' :: rest))).2) := rfl
    simp only [List.cons_append, List.append_assoc, List.nil_append, begun, opened]

end HostText

namespace HostPort

open Url

variable (a : HostPort)

theorem portChars_cases : a.port = none ∧ a.portChars = [] ∨
    ∃ ds, a.port = some ds ∧ ds ≠ [] ∧ (∀ d ∈ ds, d.isDigit) ∧ a.portChars = ':' :: ds := by
  unfold portChars
  cases stated : a.port with
  | none => exact .inl ⟨rfl, rfl⟩
  | some ds =>
    obtain ⟨present, digits⟩ := a.digits ds stated
    exact .inr ⟨ds, rfl, present, digits, rfl⟩

theorem number_of_none {secure : Bool} (absent : a.port = none) :
    a.number secure = defaultPort secure := by
  rw [number, absent]
  rfl

theorem number_of_some {secure : Bool} {ds : List Char} (stated : a.port = some ds) :
    a.number secure = Text.decimalValue ds := by
  rw [number, stated]
  rfl

theorem isAuthorityText_chars : ∀ c ∈ a.chars, isAuthorityText c := by
  refine List.forall_mem_append.mpr ⟨a.written.isAuthorityText, ?_⟩
  obtain ⟨_, behind⟩ | ⟨ds, _, _, digits, behind⟩ := a.portChars_cases
  · rw [behind]
    nofun
  · rw [behind]
    exact List.forall_mem_cons.mpr
      ⟨by decide, fun d member => isAuthorityText_of_isDigit (digits d member)⟩

theorem chars_ne_nil : a.chars ≠ [] := List.append_ne_nil_of_left_ne_nil a.written.ne_nil _

theorem solid_chars : Text.Solid a.chars := fun c member =>
  (isAuthorityText_iff.mp (a.isAuthorityText_chars c member)).1

theorem splitHost_chars : splitHost false a.chars = (a.host, a.portChars) := by
  have behind : splitHost false a.portChars = ([], a.portChars) := by
    obtain ⟨_, none⟩ | ⟨ds, _, _, _, stated⟩ := a.portChars_cases
    · rw [none]
      rfl
    · rw [stated]
      rfl
  rw [chars, a.written.splitHost_append, behind, List.append_nil]

end HostPort

namespace Url

theorem ofChars_eq_ok_iff (a : HostPort) (secure : Bool) (tail : List Char) (url : Url) :
    ofChars secure (a.chars ++ '/' :: tail) = .ok url ↔
      ∃ host port, Host.ofChars? a.host = .ok host ∧ portOf secure a.portChars = .ok port ∧
        url =
          let (path, query, fragment) := splitTail ('/' :: tail.filter (!isIgnored ·))
          ⟨secure, [], [], host, port, Path.ofChars path,
            query.map (Text.percentEncode isQuerySpecial),
            fragment.map (Text.percentEncode isFragmentSpecial)⟩ := by
  have plain := a.isAuthorityText_chars
  have inside (c) (member : c ∈ a.chars) : isEnd c = false :=
    (isAuthorityText_iff.mp (plain c member)).2.1
  have kept : a.chars.filter (!isIgnored ·) = a.chars :=
    List.filter_eq_self.mpr fun c member => by
      rw [isIgnored_of_not_isBlank (a.solid_chars c member)]
      rfl
  have read : ((a.chars ++ '/' :: tail).filter (!isIgnored ·)).dropWhile Path.isSlash =
      a.chars ++ '/' :: tail.filter (!isIgnored ·) := by
    rw [List.filter_append, kept, List.filter_cons_of_pos (by decide)]
    obtain ⟨c, rest, starts⟩ := List.exists_cons_of_ne_nil a.chars_ne_nil
    have first : c ∈ a.chars := starts ▸ List.mem_cons_self
    rw [starts]
    exact List.dropWhile_cons_of_neg (by simp [isSlash_of_not_isEnd (inside c first)])
  have authority :
      (a.chars ++ '/' :: tail.filter (!isIgnored ·)).takeWhile (!isEnd ·) = a.chars := by
    rw [List.takeWhile_append_of_pos fun c member => by simp [inside c member]]
    exact List.append_nil _
  have behind : (a.chars ++ '/' :: tail.filter (!isIgnored ·)).dropWhile (!isEnd ·) =
      '/' :: tail.filter (!isIgnored ·) :=
    List.dropWhile_append_of_pos fun c member => by simp [inside c member]
  have noUser : splitUser a.chars = none := by
    refine if_neg fun sign => ?_
    exact (isAuthorityText_iff.mp (plain '@' (List.contains_iff_mem.mp sign))).2.2 rfl
  simp only [ofChars, read, authority, behind, noUser, Option.getD_none, a.splitHost_chars]
  constructor
  · intro found
    split at found
    · cases found
    next host named =>
      split at found
      · cases found
      next port numbered => exact ⟨host, port, named, numbered, (Except.ok.inj found).symm⟩
  · rintro ⟨host, port, named, numbered, rfl⟩
    rw [named, numbered]
    rfl

theorem portOf_portChars (a : HostPort) (secure : Bool) :
    portOf secure a.portChars =
      if 65535 < a.number secure then .error .invalidPort
      else .ok (if a.number secure = defaultPort secure then none
        else some (a.number secure)) := by
  have small : ¬ 65535 < defaultPort secure := by cases secure <;> decide
  obtain ⟨absent, behind⟩ | ⟨ds, stated, present, digits, behind⟩ := a.portChars_cases
  · rw [behind, a.number_of_none absent, if_neg small, if_pos rfl]
    rfl
  · have all : ds.all Char.isDigit := List.all_eq_true.mpr digits
    rw [behind, a.number_of_some stated, portOf, all]
    simp only [Bool.not_true, Bool.false_or, decide_eq_true_eq,
      List.isEmpty_eq_false_iff.mpr present]
    split_ifs <;> rfl

namespace Ipv6

theorem splitAtGap_of_free {cs : List Char} (free : ':' ∉ cs) : splitAtGap cs = none := by
  induction cs with
  | nil => rfl
  | cons c cs ih =>
    obtain ⟨other, rest⟩ := List.ne_and_not_mem_of_not_mem_cons free
    rw [splitAtGap, ih rest]
    · rfl
    · exact fun _ colon => absurd colon.symm other

theorem length_quad? {cs : List Char} {groups : List Nat} (read : quad? cs = some groups) :
    groups.length = 2 := by
  unfold quad? at read
  split at read
  · cases read
    rfl
  · cases read

/-- Eight groups have a colon between them, or a double one for those that are left out. -/
theorem colon_mem_of_groups? {cs : List Char} {groups : List Nat}
    (read : groups? cs = some groups) : ':' ∈ cs := by
  by_contra free
  have few {found : List Nat} (side : side? true cs = some found) : found.length ≤ 2 := by
    unfold side? at side
    split at side
    · cases side
      exact Nat.zero_le _
    · rw [Text.splitAt_of_free free, pieces?] at side
      split at side
      · cases side
        exact Nat.le_succ _
      · exact (length_quad? side).le
  rw [groups?, splitAtGap_of_free free] at read
  cases side : side? true cs with
  | none => simp [side] at read
  | some found =>
    have short := few side
    simp only [side, Option.ite_none_right_eq_some] at read
    omega

end Ipv6

end Url

end CacheWatch
