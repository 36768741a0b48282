import CacheWatch.Proofs.Text.Lines
import CacheWatch.Tool.Outcome
import Mathlib.Data.List.Forall2

/-! How a table looks, line by line.
The mark stands in the same column of every line, because a label is filled up to the width of the
longest key and no text has more characters than bytes. Behind the mark a rule is as long as a value
has bytes at most, which can be more than any value has characters.
-/
namespace CacheWatch.Tool.Table

inductive Entry where
  | cell (label value : String)
  | rule

def rowEntries (row : Row) : List Entry :=
  row.values.mapIdx fun i value => .cell (if i = 0 then row.key else "") value

def entries (rows : List Row) : List Entry :=
  .cell "Key" "Value" :: .rule :: [Entry.rule].intercalate (rows.map rowEntries)

/-- A line shows an entry: the mark stands behind as many characters as the column says, and a rule
has as many dashes behind the mark as the width says. -/
inductive Shows (column width : Nat) : Entry → String → Prop where
  | cell {label value : String} {blanks : Nat} (filled : label.length + blanks = column) :
      Shows column width (.cell label value)
        (label ++ String.ofList (List.replicate blanks ' ') ++ " | " ++ value)
  | rule : Shows column width .rule (dashes column ++ "-+-" ++ dashes width)

/-- The largest size among texts, and no less than a given one. -/
def largest (size : String → Nat) (least : Nat) (texts : List String) : Nat :=
  texts.foldl (fun width text => max width (size text)) least

def valueChars (rows : List Row) : Nat := largest String.length 5 (rows.flatMap Row.values)

def Plain (row : Row) : Prop :=
  '\n' ∉ row.key.toList ∧ ∀ value ∈ row.values, '\n' ∉ value.toList

instance (row : Row) : Decidable (Plain row) := inferInstanceAs (Decidable (_ ∧ _))

section Width

variable {size : String → Nat} {least bound : Nat} {texts : List String} {rows : List Row}

theorem largest_le_iff :
    largest size least texts ≤ bound ↔ least ≤ bound ∧ ∀ text ∈ texts, size text ≤ bound := by
  induction texts generalizing least with
  | nil => simp [largest]
  | cons first rest ih =>
    have step : largest size least (first :: rest) = largest size (max least (size first)) rest :=
      rfl
    rw [step, ih, Nat.max_le, List.forall_mem_cons, and_assoc]

theorem le_largest {text : String} (member : text ∈ texts) :
    size text ≤ largest size least texts :=
  (largest_le_iff.mp (Nat.le_refl _)).2 text member

theorem least_le_largest : least ≤ largest size least texts :=
  (largest_le_iff.mp (Nat.le_refl _)).1

theorem longest_eq (least : Nat) (texts : List String) :
    longest least texts = largest String.utf8ByteSize least texts := rfl

theorem length_le_utf8ByteSize (text : String) : text.length ≤ text.utf8ByteSize := by
  have bytes (cs : List Char) : cs.length ≤ (String.ofList cs).utf8ByteSize := by
    induction cs with
    | nil => exact Nat.zero_le _
    | cons c cs ih =>
      rw [String.ofList_cons, String.utf8ByteSize_append, String.utf8ByteSize_singleton,
        List.length_cons, Nat.add_comm]
      exact Nat.add_le_add c.utf8Size_pos ih
  have all := bytes text.toList
  rwa [String.ofList_toList, String.length_toList] at all

theorem length_le_longest {text : String} (member : text ∈ texts) :
    text.length ≤ longest least texts := by
  rw [longest_eq]
  exact Nat.le_trans (length_le_utf8ByteSize text) (le_largest member)

theorem heading_le_keyWidth (rows : List Row) : "Key".length ≤ keyWidth rows := by
  rw [keyWidth, longest_eq]
  exact least_le_largest

theorem key_le_keyWidth {row : Row} (member : row ∈ rows) : row.key.length ≤ keyWidth rows :=
  length_le_longest (List.mem_map_of_mem member)

theorem value_le_valueWidth {row : Row} {value : String} (member : row ∈ rows)
    (within : value ∈ row.values) : value.length ≤ valueWidth rows :=
  length_le_longest (List.mem_flatMap.mpr ⟨row, member, within⟩)

theorem valueWidth_eq_valueChars_iff :
    valueWidth rows = valueChars rows ↔
      ∀ row ∈ rows, ∀ value ∈ row.values, value.utf8ByteSize ≤ valueChars rows := by
  have enough : valueChars rows ≤ valueWidth rows :=
    largest_le_iff.mpr ⟨least_le_largest, fun _ member => length_le_longest member⟩
  have short : valueWidth rows ≤ valueChars rows ↔
      ∀ value ∈ rows.flatMap Row.values, value.utf8ByteSize ≤ valueChars rows := by
    rw [valueWidth, longest_eq, largest_le_iff]
    exact and_iff_right least_le_largest
  rw [← List.forall_mem_flatMap, ← short]
  exact ⟨Nat.le_of_eq, fun le => Nat.le_antisymm le enough⟩

end Width

section Lines

variable {rows : List Row}

def lineFor (rows : List Row) : Entry → String
  | .cell label value => line rows label value
  | .rule => separator rows

theorem rowLines_eq (all : List Row) (row : Row) :
    rowLines all row = (rowEntries row).map (lineFor all) := by
  unfold rowLines rowEntries
  cases row.values with
  | nil => rfl
  | cons first others =>
    have unlabelled : others.map (line all "") =
        (others.mapIdx fun _ value => Entry.cell "" value).map (lineFor all) :=
      List.ext_getElem (by simp) (by simp [lineFor])
    rw [List.mapIdx_cons, List.map_cons]
    exact congrArg (List.cons _) unlabelled

theorem bodyLines_eq (all rows : List Row) :
    bodyLines all rows = ([Entry.rule].intercalate (rows.map rowEntries)).map (lineFor all) := by
  induction rows with
  | nil => rfl
  | cons row rest ih =>
    -- No rule follows the last row, which is a case of its own in both.
    cases rest with
    | nil => simp [bodyLines, rowLines_eq]
    | cons next rest =>
      have between : [Entry.rule].intercalate ((row :: next :: rest).map rowEntries) =
          rowEntries row ++ [.rule] ++ [Entry.rule].intercalate ((next :: rest).map rowEntries) :=
        List.intercalate_cons_cons
      rw [bodyLines, ih, rowLines_eq, between, List.map_append, List.map_append, List.append_assoc]
      · rfl
      · exact List.cons_ne_nil next rest

theorem lines_eq (rows : List Row) : lines rows = (entries rows).map (lineFor rows) := by
  rw [lines, bodyLines_eq]
  rfl

theorem forall_mem_intercalate {P : Entry → Prop} {groups : List (List Entry)} (rule : P .rule)
    (within : ∀ group ∈ groups, ∀ e ∈ group, P e) :
    ∀ e ∈ [Entry.rule].intercalate groups, P e := by
  induction groups with
  | nil => simp
  | cons group rest ih =>
    obtain ⟨first, others⟩ := List.forall_mem_cons.mp within
    cases rest with
    | nil => simpa using first
    | cons next rest =>
      rw [List.intercalate_cons_cons]
      simp only [List.forall_mem_append, List.forall_mem_singleton]
      exact ⟨⟨first, rule⟩, ih others⟩

theorem forall_mem_entries {P : Entry → Prop} (heading : P (.cell "Key" "Value"))
    (rule : P .rule)
    (cells : ∀ row ∈ rows, ∀ value ∈ row.values, ∀ label ∈ [row.key, ""], P (.cell label value)) :
    ∀ e ∈ entries rows, P e := by
  refine List.forall_mem_cons.mpr ⟨heading, List.forall_mem_cons.mpr ⟨rule, ?_⟩⟩
  refine forall_mem_intercalate rule fun group member e within => ?_
  obtain ⟨row, present, rfl⟩ := List.mem_map.mp member
  obtain ⟨i, inside, rfl⟩ := List.mem_mapIdx.mp within
  refine cells row present _ (List.getElem_mem inside) _ ?_
  split <;> simp

theorem lineFor_shows :
    ∀ e ∈ entries rows, Shows (keyWidth rows) (valueWidth rows) e (lineFor rows e) := by
  have filled {label : String} (value : String) (fits : label.length ≤ keyWidth rows) :
      Shows (keyWidth rows) (valueWidth rows) (.cell label value) (line rows label value) :=
    .cell (Nat.add_sub_of_le fits)
  refine forall_mem_entries (filled _ (heading_le_keyWidth rows)) .rule ?_
  intro row member value _ label labels
  apply filled
  rcases List.mem_pair.mp labels with rfl | rfl
  · exact key_le_keyWidth member
  · exact Nat.zero_le _

theorem Shows.marked {column width : Nat} {e : Entry} {line : String}
    (shown : Shows column width e line) :
    ∃ left right : String, left.length = column ∧
      (line = left ++ " | " ++ right ∨ line = left ++ "-+-" ++ right) := by
  cases shown with
  | cell filled =>
    refine ⟨_, _, ?_, .inl rfl⟩
    rw [String.length_append, String.length_ofList, List.length_replicate, filled]
  | rule =>
    refine ⟨_, _, ?_, .inr rfl⟩
    rw [dashes, String.length_ofList, List.length_replicate]

theorem lineFor_free (plain : ∀ row ∈ rows, Plain row) :
    ∀ e ∈ entries rows, '\n' ∉ (lineFor rows e).toList := by
  have free {label value : String} (labelled : '\n' ∉ label.toList)
      (valued : '\n' ∉ value.toList) : '\n' ∉ (line rows label value).toList := by
    simp [line, Text.padRight, labelled, valued]
  refine forall_mem_entries (free (by decide) (by decide)) ?_ ?_
  · simp [lineFor, separator, dashes]
  · intro row member value within label labels
    obtain ⟨keyed, valued⟩ := plain row member
    apply free
    · rcases List.mem_pair.mp labels with rfl | rfl
      · exact keyed
      · decide
    · exact valued value within

theorem splitAt_join {lines : List String} (free : ∀ line ∈ lines, '\n' ∉ line.toList) :
    Text.splitAt '\n' (String.join (lines.map (· ++ "\n"))).toList =
      lines.map String.toList ++ [[]] := by
  induction lines with
  | nil => rfl
  | cons first rest ih =>
    obtain ⟨here, others⟩ := List.forall_mem_cons.mp free
    have broken : (String.join ((first :: rest).map (· ++ "\n"))).toList =
        first.toList ++ '\n' :: (String.join (rest.map (· ++ "\n"))).toList := by
      simp
    rw [broken, Text.splitAt_append, Text.splitAt_of_free here, ih others]
    rfl

/-- A table of texts without line breaks has the lines that its rows call for, all with their mark
in one column. No value reaches past the rule, which is as long as the longest value just if no
value has more bytes than that one has characters. -/
theorem lines_aligned (rows : List Row) (plain : ∀ row ∈ rows, Plain row) :
    Text.splitAt '\n' (text rows).toList = (lines rows).map String.toList ++ [[]] ∧
      List.Forall₂ (Shows (keyWidth rows) (valueWidth rows)) (entries rows) (lines rows) ∧
      (∀ line ∈ lines rows, ∃ left right : String, left.length = keyWidth rows ∧
        (line = left ++ " | " ++ right ∨ line = left ++ "-+-" ++ right)) ∧
      (∀ row ∈ rows, ∀ value ∈ row.values, value.length ≤ valueWidth rows) ∧
      (valueWidth rows = valueChars rows ↔
        ∀ row ∈ rows, ∀ value ∈ row.values, value.utf8ByteSize ≤ valueChars rows) := by
  refine ⟨splitAt_join ?_, ?_, ?_, fun _ member _ within => value_le_valueWidth member within,
    valueWidth_eq_valueChars_iff⟩
  · rw [lines_eq]
    exact List.forall_mem_map.mpr (lineFor_free plain)
  · rw [lines_eq, List.forall₂_map_right_iff, List.forall₂_same]
    exact lineFor_shows
  · rw [lines_eq]
    exact List.forall_mem_map.mpr fun e member => (lineFor_shows e member).marked

/-- A row without values leaves only the rule in front of it. -/
theorem lines_aligned_plugins :
    let rows : List Row := [⟨"Version", ["2.0.0"]⟩,
      ⟨"Plugins", ["redis v1.0.0", "mojang v2.1.0"]⟩, ⟨"Hosts", []⟩]
    let shown : List String := ["Key     | Value", "--------+--------------", "Version | 2.0.0",
      "--------+--------------", "Plugins | redis v1.0.0", "        | mojang v2.1.0",
      "--------+--------------"]
    (∀ row ∈ rows, Plain row) ∧
      Text.splitAt '\n' (text rows).toList = shown.map String.toList ++ [[]] ∧
      valueWidth rows = valueChars rows := by
  intro rows shown
  have plain : ∀ row ∈ rows, Plain row := by decide +kernel
  have is : lines rows = shown := by decide +kernel
  have short : ∀ row ∈ rows, ∀ value ∈ row.values, value.utf8ByteSize ≤ valueChars rows := by
    decide +kernel
  obtain ⟨split, -, -, -, exact⟩ := lines_aligned rows plain
  exact ⟨plain, is ▸ split, exact.mpr short⟩

/-- The status of a server with a plugin whose name is not ASCII: the rule is one character longer
than the longest value. -/
theorem ruled_past_values :
    let arrivals : List Arrival := [⟨0, ⟨0, 0⟩, .system ⟨"2.0.0", true, [⟨"Übersetzer", "1.0.0"⟩]⟩⟩,
      ⟨0, ⟨0, 0⟩, .rateLimit 45⟩]
    let rows : List Row := [⟨"Address", ["127.0.0.1:36623"]⟩, ⟨"Version", ["2.0.0"]⟩,
      ⟨"Plugins", ["Übersetzer v1.0.0"]⟩, ⟨"RateLimit", ["45 / 600 (7.5%)"]⟩]
    Outcome.ofStatus .default 5 arrivals = ⟨0, text rows, ""⟩ ∧
      (∀ row ∈ rows, Plain row) ∧ valueChars rows = 17 ∧
      (lines rows)[1]? = some (dashes 9 ++ "-+-" ++ dashes 18) := by
  decide +kernel

end Lines

end CacheWatch.Tool.Table
