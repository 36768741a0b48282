import CacheWatch.Proofs.Text.Plain
import Mathlib.Data.List.Flatten

/-! Texts that are printed line by line.
Every line is ended by a line feed. One that holds line feeds itself falls apart, so the lines
that are read are those that were printed just if none holds one.
-/
namespace CacheWatch.Text

/-- The lines of a text that is empty or ends with a line feed. -/
def linesOf (text : String) : List String :=
  (splitAt '\n' text.toList).dropLast.map String.ofList

def pieces (line : String) : List String := (splitAt '\n' line.toList).map String.ofList

theorem free_append_iff {front back : String} : '\n' ∉ (front ++ back).toList ↔
    '\n' ∉ front.toList ∧ '\n' ∉ back.toList := by
  rw [String.toList_append, List.mem_append, not_or]

theorem splitAt_ne_nil (mark : Char) (cs : List Char) : splitAt mark cs ≠ [] := by
  rw [splitAt_eq_splitOn]
  exact List.splitOnP_ne_nil _ cs

theorem splitAt_append (mark : Char) (front back : List Char) :
    splitAt mark (front ++ mark :: back) = splitAt mark front ++ splitAt mark back := by
  induction front with
  | nil => simp [splitAt]
  | cons c front ih =>
    rw [List.cons_append, splitAt, splitAt, ih]
    split
    · rfl
    · obtain ⟨piece, pieces, split⟩ := List.exists_cons_of_ne_nil (splitAt_ne_nil mark front)
      rw [split]
      rfl

theorem pieces_ne_nil (line : String) : pieces line ≠ [] :=
  fun none => splitAt_ne_nil _ _ (List.map_eq_nil_iff.mp none)

theorem pieces_of_free {line : String} (free : '\n' ∉ line.toList) : pieces line = [line] := by
  rw [pieces, splitAt_of_free free, List.map_singleton, String.ofList_toList]

theorem length_pieces_eq_one_iff {line : String} :
    (pieces line).length = 1 ↔ '\n' ∉ line.toList := by
  refine ⟨fun single broken => ?_, fun free => by rw [pieces_of_free free, List.length_singleton]⟩
  obtain ⟨front, back, is⟩ := List.append_of_mem broken
  have several := List.length_pos_iff.mpr (splitAt_ne_nil '\n' front)
  have more := List.length_pos_iff.mpr (splitAt_ne_nil '\n' back)
  rw [pieces, is, splitAt_append, List.length_map, List.length_append] at single
  omega

variable {lines : List String}

theorem linesOf_join (lines : List String) :
    linesOf (String.join (lines.map (· ++ "\n"))) = lines.flatMap pieces := by
  induction lines with
  | nil => rfl
  | cons first rest ih =>
    have text : (String.join ((first :: rest).map (· ++ "\n"))).toList =
        first.toList ++ '\n' :: (String.join (rest.map (· ++ "\n"))).toList := by
      simp
    rw [linesOf, text, splitAt_append, List.dropLast_append_of_ne_nil (splitAt_ne_nil _ _),
      List.map_append, List.flatMap_cons, ← ih]
    rfl

theorem length_flatMap_pieces_iff :
    (lines.flatMap pieces).length = lines.length ↔ ∀ line ∈ lines, '\n' ∉ line.toList := by
  have enough (lines : List String) : lines.length ≤ (lines.flatMap pieces).length := by
    induction lines with
    | nil => exact Nat.zero_le _
    | cons first rest ih =>
      have some := List.length_pos_iff.mpr (pieces_ne_nil first)
      rw [List.flatMap_cons, List.length_append, List.length_cons]
      omega
  induction lines with
  | nil => simp
  | cons first rest ih =>
    have some := List.length_pos_iff.mpr (pieces_ne_nil first)
    have others := enough rest
    rw [List.flatMap_cons, List.length_append, List.length_cons, List.forall_mem_cons,
      ← length_pieces_eq_one_iff]
    refine Iff.trans ?_ (and_congr_right' ih)
    omega

theorem flatMap_pieces_of_free (free : ∀ line ∈ lines, '\n' ∉ line.toList) :
    lines.flatMap pieces = lines := by
  induction lines with
  | nil => rfl
  | cons first rest ih =>
    obtain ⟨here, others⟩ := List.forall_mem_cons.mp free
    rw [List.flatMap_cons, pieces_of_free here, ih others, List.singleton_append]

theorem sublist_flatMap_pieces {kept : List String} (among : kept.Sublist lines)
    (free : ∀ line ∈ kept, '\n' ∉ line.toList) : kept.Sublist (lines.flatMap pieces) := by
  rw [← flatMap_pieces_of_free free]
  exact among.flatMap pieces

/-- Lines are read as they were printed just if none holds a line feed. -/
theorem linesOf_join_eq_iff :
    linesOf (String.join (lines.map (· ++ "\n"))) = lines ↔ ∀ line ∈ lines, '\n' ∉ line.toList := by
  rw [linesOf_join]
  exact ⟨fun same => length_flatMap_pieces_iff.mp (congrArg List.length same),
    flatMap_pieces_of_free⟩

end CacheWatch.Text
