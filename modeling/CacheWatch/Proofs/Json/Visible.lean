import CacheWatch.Proofs.Json.Number

/-! Printed JSON has no control characters, so it stays on one line. -/
namespace CacheWatch.Json

def Visible (cs : List Char) : Prop := ∀ c ∈ cs, 32 ≤ c.toNat

instance (cs : List Char) : Decidable (Visible cs) :=
  decidable_of_iff (cs.all (32 ≤ ·.toNat)) (by simp [Visible])

section Parts

variable {cs ds : List Char}

theorem visible_nil : Visible [] := List.forall_mem_nil _

theorem Visible.cons {c : Char} (first : 32 ≤ c.toNat) (rest : Visible cs) : Visible (c :: cs) :=
  List.forall_mem_cons.mpr ⟨first, rest⟩

theorem Visible.append (front : Visible cs) (back : Visible ds) : Visible (cs ++ ds) :=
  List.forall_mem_append.mpr ⟨front, back⟩

theorem visible_digits (digits : ∀ c ∈ ds, c.isDigit) : Visible ds := fun c member => by
  have digit : '0' ≤ c := (Char.isDigit_iff_toNat.mp (digits c member)).1
  exact Nat.le_trans (by decide) (UInt32.le_iff_toNat_le.mp digit)

theorem visible_chars (p : Parts) : Visible p.chars := by
  have whole := visible_digits p.digits
  obtain ⟨front, behind⟩ := List.forall_mem_append.mp whole
  have fraction {ds : List Char} (digits : Visible ds) : Visible (Parts.fractionChars ds) := by
    cases ds with
    | nil => exact visible_nil
    | cons d ds => exact .cons (by decide) digits
  have exponent : Visible (Parts.exponentChars p.exponent) := by
    cases p.exponent with
    | none => exact visible_nil
    | some e =>
      refine .cons (by decide) (.cons ?_ (visible_digits (isDigit_toDigits _)))
      split <;> decide
  have unsigned : Visible p.unsignedChars :=
    Visible.append front ((fraction behind).append exponent)
  unfold Parts.chars
  split
  · exact .cons (by decide) unsigned
  · exact unsigned

theorem visible_integer (n : Int) : Visible (integerChars n) := by
  have digits := visible_digits (isDigit_toDigits n.natAbs)
  rw [integerChars_eq]
  split
  · exact .cons (by decide) digits
  · exact digits

theorem visible_float (x : Binary64) : Visible x.jsonChars := by
  obtain ⟨body, shows, printed⟩ := x.jsonChars_shows
  obtain ⟨p, negative, unsigned, -⟩ := shows x.negative
  rw [printed, ← unsigned, ← negative]
  exact visible_chars p

theorem visible_escaped (c : Char) : Visible (escaped c) := by
  have hex (n : Nat) : 32 ≤ (hexDigit n).toNat := by
    have checked : ∀ k : Fin 16, 32 ≤ (Nat.digitChar k).toNat := by decide
    exact checked ⟨n % 16, Nat.mod_lt n (by decide)⟩
  unfold escaped
  split_ifs with quote backslash back form line carriage tab control
  · decide
  · decide
  · decide
  · decide
  · decide
  · decide
  · decide
  · simp [Visible, hex]
  · simpa [Visible] using control

theorem visible_quoted (s : String) : Visible (quoted s) := by
  refine .cons (by decide) (.append ?_ (.cons (by decide) visible_nil))
  exact List.forall_mem_flatMap.mpr fun c _ => visible_escaped c

theorem visible_items {items : List Json} (each : ∀ item ∈ items, Visible item.chars) :
    Visible (itemsChars items) := by
  induction items with
  | nil => exact visible_nil
  | cons item items ih =>
    obtain ⟨first, others⟩ := List.forall_mem_cons.mp each
    cases items with
    | nil => exact first
    | cons next items =>
      rw [itemsChars]
      · exact first.append (.cons (by decide) (ih others))
      · exact List.cons_ne_nil next items

theorem visible_members {members : List (String × Json)}
    (each : ∀ m ∈ members, Visible m.2.chars) : Visible (membersChars members) := by
  induction members with
  | nil => exact visible_nil
  | cons m members ih =>
    obtain ⟨first, others⟩ := List.forall_mem_cons.mp each
    have key := visible_quoted m.1
    cases members with
    | nil => exact key.append (.cons (by decide) first)
    | cons next members =>
      rw [membersChars]
      · exact key.append (.cons (by decide) (first.append (.cons (by decide) (ih others))))
      · exact List.cons_ne_nil next members

end Parts

theorem visible (v : Json) : Visible v.chars := by
  cases v with
  | null => rw [chars]; decide
  | bool b => cases b <;> rw [chars] <;> decide
  | integer n => rw [chars]; exact visible_integer n
  | float x => rw [chars]; exact visible_float x
  | string s => rw [chars]; exact visible_quoted s
  | array items =>
    rw [chars]
    exact .cons (by decide) (.append (visible_items fun item member => visible item)
      (.cons (by decide) visible_nil))
  | object members =>
    rw [chars]
    exact .cons (by decide) (.append (visible_members fun m member => visible m.2)
      (.cons (by decide) visible_nil))
decreasing_by
  · have smaller := List.sizeOf_lt_of_mem member
    rw [array.sizeOf_spec]
    omega
  · have smaller := List.sizeOf_lt_of_mem member
    have part : sizeOf m = 1 + sizeOf m.1 + sizeOf m.2 := rfl
    rw [object.sizeOf_spec]
    omega

theorem text_free (v : Json) : '\n' ∉ v.text.toList := fun broken => by
  rw [text, String.toList_ofList] at broken
  exact absurd (v.visible '\n' broken) (by decide)

end CacheWatch.Json
