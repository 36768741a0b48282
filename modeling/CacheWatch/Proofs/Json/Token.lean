import CacheWatch.Proofs.Json.Number

/-! Printed text as tokens.
A token is found at the head of a text whatever follows it, and the number of steps that a text is
given is never used up, so a text is taken apart token by token.
-/
namespace CacheWatch.Json

/-- The tokens of a text, with any number of steps that is large enough. -/
def Lexes (cs : List Char) (ts : List Token) : Prop :=
  ∀ n, cs.length ≤ n → tokensWithin n cs = some ts

theorem Lexes.tokens {cs : List Char} {ts : List Token} (lexes : Lexes cs ts) :
    tokens cs = some ts := lexes cs.length (Nat.le_refl _)

theorem lexes_nil : Lexes [] [] := fun n _ => by cases n <;> rfl

theorem Lexes.cons (c : Char) (part : List Char) {rest : List Char} {t : Token} {ts : List Token}
    (solid : isBlank c = false) (first : token (c :: part ++ rest) = some (t, rest))
    (others : Lexes rest ts) : Lexes (c :: part ++ rest) (t :: ts) := by
  intro n enough
  cases n with
  | zero => exact absurd enough (by simp)
  | succ n =>
    have shorter : rest.length ≤ n := by
      rw [List.length_append, List.length_cons] at enough
      omega
    rw [List.cons_append] at first ⊢
    rw [tokensWithin, solid, first, if_neg Bool.false_ne_true]
    simp only [Option.bind_eq_bind, Option.bind_some, others n shorter]

section Strings

variable {tail rest : List Char} {written : List Unit16}

theorem stringBody_escape {x c : Char} (other : x ≠ 'u') (escape : simpleEscape? x = some c)
    (read : stringBody tail = some (written, rest)) :
    stringBody ('\\' :: x :: tail) = some (.plain c :: written, rest) := by
  rw [stringBody, escape, read]
  intro a b c d rest starts
  exact absurd starts other

theorem hexValue?_hexDigit {n : Nat} (small : n < 32) :
    Text.hexValue? (hexDigit n) = some (n % 16) := by
  decide +revert

theorem stringBody_control {n : Nat} (small : n < 32)
    (read : stringBody tail = some (written, rest)) :
    stringBody ('\\' :: 'u' :: '0' :: '0' :: hexDigit (n / 16) :: hexDigit n :: tail) =
      some (.code n :: written, rest) := by
  have zero : Text.hexValue? '0' = some 0 := rfl
  rw [stringBody, zero, hexValue?_hexDigit (by omega), hexValue?_hexDigit small, read]
  simp only
  congr 4
  omega

theorem stringBody_plain {c : Char} (quote : c ≠ '"') (backslash : c ≠ '\\')
    (printed : ¬ c.toNat < 32)
    (read : stringBody tail = some (written, rest)) :
    stringBody (c :: tail) = some (.plain c :: written, rest) := by
  rw [stringBody, if_neg (by simp [backslash, printed]), read]
  · rfl
  all_goals simp [quote, backslash]

theorem resolve_code {n : Nat} (single : n < 0xD800) :
    resolve (.code n :: written) = (resolve written).map (Char.ofNat n :: ·) := by
  have high : ¬ (0xD800 ≤ n && n < 0xDC00) := by simp; omega
  have low : ¬ (0xDC00 ≤ n && n < 0xE000) := by simp; omega
  have alone : ¬ (0xD800 ≤ n && n < 0xE000) := by simp; omega
  cases written with
  | nil => exact if_neg alone
  | cons u rest =>
    cases u with
    | plain c => exact if_neg alone
    | code m => rw [resolve, if_neg high, if_neg low]

theorem exists_unit (c : Char) : ∃ u : Unit16,
    (∀ tail written rest, stringBody tail = some (written, rest) →
      stringBody (escaped c ++ tail) = some (u :: written, rest)) ∧
    ∀ written, resolve (u :: written) = (resolve written).map (c :: ·) := by
  have escape {x c : Char} (other : x ≠ 'u') (value : simpleEscape? x = some c) : ∃ u : Unit16,
      (∀ tail written rest, stringBody tail = some (written, rest) →
        stringBody (['\\', x] ++ tail) = some (u :: written, rest)) ∧
      ∀ written, resolve (u :: written) = (resolve written).map (c :: ·) :=
    ⟨.plain c, fun _ _ _ read => stringBody_escape other value read, fun _ => rfl⟩
  unfold escaped
  split_ifs with quote backslash back form line carriage tab control
  · obtain rfl := quote
    exact escape (by decide) rfl
  · obtain rfl := backslash
    exact escape (by decide) rfl
  · obtain rfl := back
    exact escape (by decide) rfl
  · obtain rfl := form
    exact escape (by decide) rfl
  · obtain rfl := line
    exact escape (by decide) rfl
  · obtain rfl := carriage
    exact escape (by decide) rfl
  · obtain rfl := tab
    exact escape (by decide) rfl
  · refine ⟨.code c.toNat, fun _ _ _ read => stringBody_control control read, fun written => ?_⟩
    rw [resolve_code (by omega), Char.ofNat_toNat]
  · exact ⟨.plain c, fun _ _ _ read => stringBody_plain quote backslash control read, fun _ => rfl⟩

theorem exists_written (cs : List Char) : ∃ written : List Unit16,
    (∀ rest, stringBody (cs.flatMap escaped ++ '"' :: rest) = some (written, rest)) ∧
      resolve written = some cs := by
  induction cs with
  | nil => exact ⟨[], fun rest => by rw [List.flatMap_nil, List.nil_append, stringBody], rfl⟩
  | cons c cs ih =>
    obtain ⟨written, read, resolved⟩ := ih
    obtain ⟨u, first, value⟩ := exists_unit c
    refine ⟨u :: written, fun rest => ?_, by rw [value, resolved]; rfl⟩
    rw [List.flatMap_cons, List.append_assoc]
    exact first _ _ _ (read rest)

theorem exists_token_quoted (s : String) : ∃ written : List Unit16,
    (∀ rest, token (quoted s ++ rest) = some (.string written, rest)) ∧
      resolveText written = some s := by
  obtain ⟨written, read, resolved⟩ := exists_written s.toList
  refine ⟨written, fun rest => ?_, ?_⟩
  · rw [quoted, List.cons_append, List.append_assoc, token]
    simp only [List.singleton_append, read, Option.map_some]
  · rw [resolveText, resolved, Option.map_some, String.ofList_toList]

theorem lexes_quoted {s : String} {ts : List Token}
    (read : ∀ rest, token (quoted s ++ rest) = some (.string written, rest))
    (others : Lexes rest ts) : Lexes (quoted s ++ rest) (.string written :: ts) :=
  Lexes.cons '"' (s.toList.flatMap escaped ++ ['"']) rfl (read rest) others

end Strings

theorem token_number {c : Char} {rest : List Char} (starts : c = '-' ∨ c.isDigit) :
    token (c :: rest) =
      (numeral (c :: rest)).map fun (written, after) => (.number written, after) := by
  unfold token
  split
  case h_11 => rfl
  all_goals
    rename_i same
    obtain ⟨rfl, -⟩ := List.cons.inj same
    exact absurd starts (by decide)

theorem lexes_number {cs rest : List Char} {written : Numeral} {ts : List Token}
    (starts : ∃ c rest, cs = c :: rest ∧ (c = '-' ∨ c.isDigit))
    (read : numeral (cs ++ rest) = some (written, rest)) (others : Lexes rest ts) :
    Lexes (cs ++ rest) (.number written :: ts) := by
  obtain ⟨c, part, rfl, first⟩ := starts
  refine Lexes.cons c part ?_ ?_ others
  · rw [← Bool.not_eq_true]
    intro blank
    simp only [isBlank, Bool.or_eq_true, decide_eq_true_eq] at blank
    obtain ((rfl | rfl) | rfl) | rfl := blank <;> exact absurd first (by decide)
  · rw [List.cons_append] at read ⊢
    rw [token_number first, read, Option.map_some]

end CacheWatch.Json
