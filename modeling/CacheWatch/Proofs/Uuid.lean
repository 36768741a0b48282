import CacheWatch.Uuid
import Mathlib.Algebra.GroupWithZero.Nat
import Mathlib.Data.List.Basic

/-! An identifier in writing is read back. -/
namespace CacheWatch.Uuid

theorem hexDigit?_digitChar (d : Fin 16) : hexDigit? (Nat.digitChar d.val) = some d := by
  decide +revert

theorem toLower_digitChar (d : Fin 16) : (Nat.digitChar d.val).toLower ≠ 'u' := by
  decide +revert

theorem digitChar_ne_brace (d : Fin 16) : Nat.digitChar d.val ≠ '\x7b' := by
  decide +revert

def hexChars (ds : List (Fin 16)) : List Char := ds.map fun d => Nat.digitChar d.val

theorem hexDigits?_hexChars (ds : List (Fin 16)) : hexDigits? (hexChars ds) = some ds := by
  induction ds with
  | nil => rfl
  | cons d ds ih =>
    have first := hexDigit?_digitChar d
    have others : hexDigits? (ds.map fun d => Nat.digitChar d.val) = some ds := ih
    simp only [hexChars, List.map_cons, hexDigits?, first, others]

theorem group_cons (n m : Nat) (sizes : List Nat) (cs : List Char) :
    group (n :: m :: sizes) cs = cs.take n ++ '-' :: group (m :: sizes) (cs.drop n) := rfl

theorem ungroup_append {n : Nat} {front : List Char} (long : front.length = n) (m : Nat)
    (sizes : List Nat) (rest : List Char) : ungroup (n :: m :: sizes) (front ++ '-' :: rest) =
      (ungroup (m :: sizes) rest).map (front ++ ·) := by
  simp only [ungroup, List.drop_left' long, List.take_left' long]

theorem ungroup_group (sizes : List Nat) (cs : List Char) (whole : cs.length = sizes.sum) :
    ungroup sizes (group sizes cs) = some cs := by
  induction sizes generalizing cs with
  | nil =>
    have empty : cs = [] := List.eq_nil_of_length_eq_zero whole
    rw [empty]
    rfl
  | cons n sizes ih =>
    cases sizes with
    | nil =>
      have long : cs.length = n := by simpa using whole
      rw [group, ungroup, if_pos long]
    | cons m sizes =>
      rw [List.sum_cons] at whole
      have enough : (cs.take n).length = n := List.length_take_of_le (by omega)
      have later := ih (cs.drop n) (by rw [List.length_drop]; omega)
      rw [group_cons, ungroup_append enough, later, Option.map_some, List.take_append_drop]

theorem length_group (sizes : List Nat) (cs : List Char) (whole : cs.length = sizes.sum) :
    (group sizes cs).length = cs.length + (sizes.length - 1) := by
  induction sizes generalizing cs with
  | nil =>
    have empty : cs = [] := List.eq_nil_of_length_eq_zero whole
    rw [empty]
    rfl
  | cons n sizes ih =>
    cases sizes with
    | nil => rfl
    | cons m sizes =>
      rw [List.sum_cons] at whole
      have later := ih (cs.drop n) (by rw [List.length_drop]; omega)
      rw [group_cons, List.length_append, List.length_cons, later, List.length_take,
        List.length_drop]
      simp only [List.length_cons]
      omega

/-- An identifier begins with a digit, so its text is neither marked nor in braces. -/
theorem ofText?_text (id : Uuid) : ofText? id.text = some id := by
  obtain ⟨digits, length⟩ := id
  have whole : (hexChars digits).length = groups.sum := by
    rw [hexChars, List.length_map, length]
    rfl
  have read : ofHyphenated? (group groups (hexChars digits)) = some ⟨digits, length⟩ := by
    simp [ofHyphenated?, ofPlain?, ungroup_group groups _ whole, hexDigits?_hexChars, ofDigits?,
      length]
  have long := length_group groups _ whole
  cases digits with
  | nil => contradiction
  | cons d ds =>
    obtain ⟨rest, starts⟩ : ∃ rest, group groups (hexChars (d :: ds)) =
        Nat.digitChar d.val :: rest := ⟨_, rfl⟩
    have text : (text ⟨d :: ds, length⟩).toList = group groups (hexChars (d :: ds)) :=
      String.toList_ofList
    rw [ofText?, text, ← read]
    have unmarked : ¬ ((group groups (hexChars (d :: ds))).take 9).map Char.toLower =
        resourceName := by
      rw [starts, List.take_succ_cons, List.map_cons, resourceName, List.cons.injEq]
      exact fun same => toLower_digitChar d same.1
    have hyphenated : (group groups (hexChars (d :: ds))).length ≠ 32 := by
      rw [long, whole]
      decide
    simp only [if_neg unmarked]
    split
    · next same =>
      rw [starts] at same
      exact absurd (List.cons.inj same).1 (digitChar_ne_brace d)
    · rw [if_neg hyphenated]

end CacheWatch.Uuid
