import CacheWatch.Proofs.Event.Tag
import Mathlib.Tactic.SplitIfs

/-! Trimming and words.
The words of a text are a scan from its right end, which carries the word that is being read and the
words behind it. A run of other characters is a word when a blank or the end follows, and blanks at
the ends of a text do not count.
-/
namespace CacheWatch.Text

def Solid (cs : List Char) : Prop := ∀ c ∈ cs, isBlank c = false

def Apart (cs : List Char) : Prop := ∀ c ∈ cs.head?, isBlank c

instance (cs : List Char) : Decidable (Blank cs) := List.decidableBAll (fun c => isBlank c) cs

instance (cs : List Char) : Decidable (Solid cs) :=
  List.decidableBAll (fun c => isBlank c = false) cs

instance (cs : List Char) : Decidable (Apart cs) :=
  match cs with
  | [] => isTrue nofun
  | c :: _ => decidable_of_iff (isBlank c) (by simp [Apart])

section Solid

variable {cs ds : List Char}

theorem Solid.append (first : Solid cs) (second : Solid ds) : Solid (cs ++ ds) := by
  intro c member
  rcases List.mem_append.mp member with before | behind
  · exact first c before
  · exact second c behind

theorem solid_cons {c : Char} (first : isBlank c = false) (rest : Solid cs) : Solid (c :: cs) :=
  List.forall_mem_cons.mpr ⟨first, rest⟩

theorem isBlank_of_isDigit {c : Char} (digit : c.isDigit) : isBlank c = false := by
  obtain ⟨d, rfl⟩ := exists_digitChar digit
  exact isBlank_digitChar d

theorem solid_of_digits (digits : ∀ c ∈ cs, c.isDigit) : Solid cs := fun c member =>
  isBlank_of_isDigit (digits c member)

end Solid

section Trim

variable {front word : List Char}

theorem trimLeft_of_solid (solid : Solid word) (present : word ≠ []) (rest : List Char) :
    trimLeft (word ++ rest) = word ++ rest := by
  obtain ⟨c, others, rfl⟩ := List.exists_cons_of_ne_nil present
  have other : ¬ isBlank c := by simp [solid c List.mem_cons_self]
  exact List.dropWhile_cons_of_neg other

theorem trimRight_append (solid : Solid word) (present : word ≠ []) (cs rest : List Char) :
    trimRight (cs ++ word ++ rest) = cs ++ word ++ trimRight rest := by
  induction rest using List.reverseRecOn with
  | nil =>
    have kept : trimRight (cs ++ word) = cs ++ word := by
      refine List.rdropWhile_eq_self_iff.mpr fun occupied => ?_
      rw [List.getLast_append_of_ne_nil occupied present, solid _ (List.getLast_mem present)]
      exact Bool.false_ne_true
    rw [List.append_nil, kept]
    exact (List.append_nil _).symm
  | append_singleton rest c ih =>
    rw [← List.append_assoc]
    by_cases blank : isBlank c
    · have cut (ds : List Char) : trimRight (ds ++ [c]) = trimRight ds :=
        List.rdropWhile_concat_pos isBlank ds c blank
      rw [cut, cut, ih]
    · have kept (ds : List Char) : trimRight (ds ++ [c]) = ds ++ [c] :=
        List.rdropWhile_concat_neg isBlank ds c blank
      rw [kept, kept, List.append_assoc]

theorem trim_words {first last : List Char} (before : Blank front) (starts : Solid first)
    (ends : Solid last) (opened : first ≠ []) (closed : last ≠ []) (cs rest : List Char) :
    trim (front ++ (first ++ cs ++ last ++ rest)) = first ++ cs ++ last ++ trimRight rest := by
  have left : trimLeft (front ++ (first ++ cs ++ last ++ rest)) = first ++ cs ++ last ++ rest := by
    have dropped : trimLeft (front ++ (first ++ cs ++ last ++ rest)) =
        trimLeft (first ++ cs ++ last ++ rest) := List.dropWhile_append_of_pos before
    rw [dropped]
    simpa only [List.append_assoc] using trimLeft_of_solid starts opened (cs ++ (last ++ rest))
  rw [trim, left, trimRight_append ends closed]

end Trim

def close : List Char × List (List Char) → List (List Char)
  | ([], done) => done
  | (c :: word, done) => (c :: word) :: done

def scan : List Char → List Char × List (List Char)
  | [] => ([], [])
  | c :: cs => if isBlank c then ([], close (scan cs)) else (c :: (scan cs).1, (scan cs).2)

theorem close_append (word : List Char) (done more : List (List Char)) :
    close (word, done ++ more) = close (word, done) ++ more := by
  cases word <;> rfl

theorem foldr_eq_scan {step : Char → List Char × List (List Char) → List Char × List (List Char)}
    (steps : ∀ c state, step c state =
      if isBlank c then ([], close state) else (c :: state.1, state.2)) (cs : List Char) :
    cs.foldr step ([], []) = scan cs := by
  induction cs with
  | nil => rfl
  | cons c cs ih => rw [List.foldr_cons, ih, steps, scan]

theorem words_eq (cs : List Char) : words cs = close (scan cs) := by
  have closed (state : List Char × List (List Char)) :
      (if state.1.isEmpty then state.2 else state.1 :: state.2) = close state := by
    obtain ⟨_ | _, _⟩ := state <;> rfl
  rw [words, foldr_eq_scan fun c state => by rw [← closed]]
  exact closed (scan cs)

/-- A blank parts the words; the facts below follow from this. -/
theorem words_append_cons {c : Char} (blank : isBlank c) (cs ds : List Char) :
    words (cs ++ c :: ds) = words cs ++ words ds := by
  have scanned : scan (cs ++ c :: ds) = ((scan cs).1, (scan cs).2 ++ words ds) := by
    induction cs with
    | nil => simp only [List.nil_append, scan, if_pos blank, words_eq]
    | cons b cs ih =>
      rw [List.cons_append, scan, ih, scan, close_append]
      split_ifs <;> rfl
  rw [words_eq, scanned, close_append, ← words_eq]

section Words

variable {front word rest back : List Char}

theorem words_cons_of_blank {c : Char} (blank : isBlank c) (cs : List Char) :
    words (c :: cs) = words cs := words_append_cons blank [] cs

theorem words_append_of_blank (blank : Blank front) (rest : List Char) :
    words (front ++ rest) = words rest := by
  induction front with
  | nil => rfl
  | cons c front ih =>
    rw [List.cons_append, words_cons_of_blank (blank c List.mem_cons_self),
      ih fun c member => blank c (List.mem_cons_of_mem _ member)]

theorem words_of_solid (solid : Solid word) (present : word ≠ []) : words word = [word] := by
  have scanned : scan word = (word, []) := by
    clear present
    induction word with
    | nil => rfl
    | cons c word ih =>
      have first : ¬ isBlank c := by simp [solid c List.mem_cons_self]
      rw [scan, if_neg first, ih fun c member => solid c (List.mem_cons_of_mem _ member)]
  obtain ⟨c, others, rfl⟩ := List.exists_cons_of_ne_nil present
  rw [words_eq, scanned, close]

theorem words_append (solid : Solid word) (present : word ≠ []) (apart : Apart rest) :
    words (word ++ rest) = word :: words rest := by
  cases rest with
  | nil => rw [List.append_nil, words_of_solid solid present]; rfl
  | cons c rest =>
    have blank : isBlank c := apart c rfl
    rw [words_append_cons blank, words_of_solid solid present, words_cons_of_blank blank]
    rfl

theorem words_trim (cs : List Char) : words (trim cs) = words cs := by
  obtain ⟨front, back, before, behind, text⟩ := exists_trim cs
  have none : words back = [] := by
    rw [← List.append_nil back, words_append_of_blank behind]
    rfl
  conv_rhs => rw [text, words_append_of_blank before]
  cases back with
  | nil => rw [List.append_nil]
  | cons c back =>
    have blank : isBlank c := behind c List.mem_cons_self
    rw [words_cons_of_blank blank] at none
    rw [words_append_cons blank, none, List.append_nil]

end Words

end CacheWatch.Text
