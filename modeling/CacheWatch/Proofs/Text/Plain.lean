import CacheWatch.Text.Percent
import CacheWatch.Text.Split
import Mathlib.Data.List.Basic
import Mathlib.Tactic.SplitIfs

/-! Text that survives: pieces without the mark that parts them, and characters that need no
percent-encoding and do not look like encoded bytes.
-/
namespace CacheWatch.Text

section Ascii

variable {c : Char}

/-- A fact about ASCII is checked character by character. -/
theorem of_ascii {P : Char → Prop} (checked : ∀ n : Fin 128, P (Char.ofNat n))
    (ascii : c.toNat < 128) : P c :=
  Char.ofNat_toNat c ▸ checked ⟨c.toNat, ascii⟩

theorem toNat_lt_of_le (last : Char) (le : c ≤ last) (ascii : last.toNat < 128) : c.toNat < 128 :=
  Nat.lt_of_le_of_lt (UInt32.le_iff_toNat_le.mp le) ascii

theorem toNat_lt_of_isAlphanum (plain : c.isAlphanum) : c.toNat < 128 := by
  obtain letter | digit := Bool.or_eq_true_iff.mp plain
  · obtain upper | lower := Bool.or_eq_true_iff.mp letter
    · exact toNat_lt_of_le 'Z' (of_decide_eq_true upper).2 (by decide)
    · exact toNat_lt_of_le 'z' (of_decide_eq_true (Bool.and_eq_true_iff.mp lower).2) (by decide)
  · exact toNat_lt_of_le '9' (of_decide_eq_true (Bool.and_eq_true_iff.mp digit).2) (by decide)

theorem isAlphanum_of_isAlpha (letter : c.isAlpha) : c.isAlphanum :=
  Bool.or_eq_true_iff.mpr (.inl letter)

theorem isDigit_of_isAlpha (letter : c.isAlpha) : c.isDigit = false :=
  of_ascii (P := fun c => c.isAlpha → c.isDigit = false) (by decide)
    (toNat_lt_of_isAlphanum (isAlphanum_of_isAlpha letter)) letter

theorem toNat_lt_of_hexValue? (digit : (hexValue? c).isSome) : c.toNat < 128 := by
  unfold hexValue? at digit
  split_ifs at digit with decimal lower upper
  · exact toNat_lt_of_le '9' (of_decide_eq_true (Bool.and_eq_true_iff.mp decimal).2) (by decide)
  · exact toNat_lt_of_le 'f' (of_decide_eq_true (Bool.and_eq_true_iff.mp lower).2) (by decide)
  · exact toNat_lt_of_le 'F' (of_decide_eq_true (Bool.and_eq_true_iff.mp upper).2) (by decide)
  · cases digit

end Ascii

section Split

variable {mark : Char} {pieces : List (List Char)}

theorem splitAt_eq_splitOn (mark : Char) (cs : List Char) : splitAt mark cs = cs.splitOn mark := by
  induction cs with
  | nil => rfl
  | cons c cs ih =>
    rw [splitAt, ih]
    simp only [List.splitOn, List.splitOnP_cons_eq_if_modifyHead, beq_iff_eq]
    split
    · rfl
    · obtain ⟨piece, pieces, found⟩ :=
        List.exists_cons_of_ne_nil (List.splitOnP_ne_nil (· == mark) cs)
      rw [found]
      rfl

theorem joinWith_cons {piece : List Char} (more : pieces ≠ []) :
    joinWith mark (piece :: pieces) = piece ++ mark :: joinWith mark pieces := by
  cases pieces with
  | nil => exact absurd rfl more
  | cons next pieces => rfl

theorem joinWith_eq_intercalate (mark : Char) (pieces : List (List Char)) :
    joinWith mark pieces = [mark].intercalate pieces := by
  induction pieces with
  | nil => rfl
  | cons piece pieces ih =>
    cases pieces with
    | nil => simp [joinWith]
    | cons next pieces => simp [joinWith_cons, ih]

theorem splitAt_joinWith (present : pieces ≠ []) (free : ∀ piece ∈ pieces, mark ∉ piece) :
    splitAt mark (joinWith mark pieces) = pieces := by
  rw [splitAt_eq_splitOn, joinWith_eq_intercalate]
  exact List.splitOn_intercalate mark free present

theorem splitAt_of_free {cs : List Char} (free : mark ∉ cs) : splitAt mark cs = [cs] :=
  @splitAt_joinWith mark [cs] (List.cons_ne_nil _ _) (List.forall_mem_singleton.mpr free)

theorem map_joinWith {f : Char → Char} (kept : f mark = mark) (pieces : List (List Char)) :
    (joinWith mark pieces).map f = joinWith mark (pieces.map (List.map f)) := by
  induction pieces with
  | nil => rfl
  | cons piece pieces ih =>
    cases pieces with
    | nil => rfl
    | cons next pieces =>
      have more : (next :: pieces).map (List.map f) ≠ [] := List.cons_ne_nil _ _
      rw [joinWith_cons (List.cons_ne_nil _ _), List.map_append, List.map_cons, ih, kept]
      exact (joinWith_cons more).symm

theorem forall_mem_joinWith {P : Char → Prop} (between : P mark)
    (within : ∀ piece ∈ pieces, ∀ c ∈ piece, P c) : ∀ c ∈ joinWith mark pieces, P c := by
  induction pieces with
  | nil => nofun
  | cons piece pieces ih =>
    obtain ⟨first, others⟩ := List.forall_mem_cons.mp within
    cases pieces with
    | nil => exact first
    | cons next pieces =>
      rw [joinWith_cons (List.cons_ne_nil _ _)]
      exact List.forall_mem_append.mpr ⟨first, List.forall_mem_cons.mpr ⟨between, ih others⟩⟩

end Split

section Percent

variable {cs : List Char}

theorem percentEncode_of_plain {isSpecial : Char → Bool}
    (plain : ∀ c ∈ cs, isPlain c ∧ isSpecial c = false) : percentEncode isSpecial cs = cs := by
  induction cs with
  | nil => rfl
  | cons c cs ih =>
    obtain ⟨⟨visible, unspecial⟩, others⟩ := List.forall_mem_cons.mp plain
    have kept : percentChar isSpecial c = [c] := by simp [percentChar, visible, unspecial]
    have rest : cs.flatMap (percentChar isSpecial) = cs := ih others
    rw [percentEncode, List.flatMap_cons, kept, rest]
    rfl

theorem percentBytes_of_free (free : '%' ∉ cs) :
    percentBytes cs = cs.flatMap String.utf8EncodeChar := by
  induction cs with
  | nil => rfl
  | cons c cs ih =>
    obtain ⟨other, rest⟩ := List.ne_and_not_mem_of_not_mem_cons free
    have head : percentBytes (c :: cs) = String.utf8EncodeChar c ++ percentBytes cs := by
      rw [percentBytes]
      exact fun _ _ _ sign => absurd sign.symm other
    rw [head, ih rest]
    rfl

theorem percentDecode?_of_free (free : '%' ∉ cs) : percentDecode? cs = some cs := by
  have bytes : (⟨(percentBytes cs).toArray⟩ : ByteArray) = (String.ofList cs).toByteArray := by
    rw [percentBytes_of_free free, String.toByteArray_ofList, List.utf8Encode]
    exact ByteArray.ext List.data_toByteArray.symm
  rw [percentDecode?, bytes, String.fromUTF8?, dif_pos (String.ofList cs).isValidUTF8]
  exact congrArg some String.toList_ofList

end Percent

end CacheWatch.Text
