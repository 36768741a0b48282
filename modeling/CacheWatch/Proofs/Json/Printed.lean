import CacheWatch.Proofs.Json.Token
import Mathlib.Data.List.Forall2

/-! What a printed value is read as.
The tree of a value is what its text spells; building it from its own tokens gives it again under
any open brackets, and the value is taken from it when the brackets nest no deeper than allowed.
All of a value comes back but its floats, each of which is rounded anew.
-/
namespace CacheWatch.Json

namespace Tree

mutual

def tokens : Tree → List Token
  | null => [.null]
  | bool b => [.bool b]
  | number written => [.number written]
  | string written => [.string written]
  | array items => .openArray :: (itemsTokens items ++ [.closeArray])
  | object members => .openObject :: (membersTokens members ++ [.closeObject])

def itemsTokens : List Tree → List Token
  | [] => []
  | item :: rest => item.tokens ++ furtherItems rest

def furtherItems : List Tree → List Token
  | [] => []
  | item :: rest => .comma :: (item.tokens ++ furtherItems rest)

def membersTokens : List (List Unit16 × Tree) → List Token
  | [] => []
  | (key, item) :: rest => .string key :: .colon :: (item.tokens ++ furtherMembers rest)

def furtherMembers : List (List Unit16 × Tree) → List Token
  | [] => []
  | (key, item) :: rest => .comma :: .string key :: .colon :: (item.tokens ++ furtherMembers rest)

end

/-- Only a closing bracket tells a first item from any other. -/
theorem build_firstItem {t : Token} {ts : List Token} {up : List Open} (opens : t ≠ .closeArray) :
    build (t :: ts) .firstItem up = build (t :: ts) .value up := by
  cases t <;> first | rfl | exact absurd rfl opens

theorem exists_tokens (t : Tree) :
    ∃ first rest, t.tokens = first :: rest ∧ first ≠ .closeArray := by
  cases t <;> exact ⟨_, _, by rw [tokens], by simp⟩

/-- A tree is built from its tokens, whatever stands around it. -/
def Builds (t : Tree) : Prop :=
  ∀ rest up, build (t.tokens ++ rest) .value up = build rest (.behind t) up

theorem Builds.firstItem {t : Tree} (builds : t.Builds) (rest : List Token) (up : List Open) :
    build (t.tokens ++ rest) .firstItem up = build rest (.behind t) up := by
  obtain ⟨first, others, tokens, opens⟩ := t.exists_tokens
  rw [← builds rest up, tokens, List.cons_append, build_firstItem opens]

theorem build_furtherItems {items : List Tree} (builds : ∀ t ∈ items, t.Builds) (item : Tree)
    (done : List Tree) (rest : List Token) (up : List Open) :
    build (furtherItems items ++ .closeArray :: rest) (.behind item) (.array done :: up) =
      build rest (.behind (.array (done.reverse ++ item :: items))) up := by
  induction items generalizing item done with
  | nil =>
    rw [furtherItems, List.nil_append, build, List.reverse_cons]
  | cons next items ih =>
    rw [furtherItems, List.cons_append, List.append_assoc, build,
      builds next List.mem_cons_self, ih fun t member => builds t (List.mem_cons_of_mem _ member),
      List.reverse_cons, List.append_assoc, List.singleton_append]

theorem builds_array {items : List Tree} (builds : ∀ t ∈ items, t.Builds) :
    (array items).Builds := by
  intro rest up
  rw [tokens, List.cons_append, List.append_assoc]
  cases items with
  | nil => rfl
  | cons item items =>
    rw [itemsTokens, List.append_assoc, build, builds item List.mem_cons_self |>.firstItem]
    exact build_furtherItems (fun t member => builds t (List.mem_cons_of_mem _ member)) item []
      rest up

theorem build_furtherMembers {members : List (List Unit16 × Tree)}
    (builds : ∀ m ∈ members, m.2.Builds) (key : List Unit16) (item : Tree)
    (done : List (List Unit16 × Tree)) (rest : List Token) (up : List Open) :
    build (furtherMembers members ++ .closeObject :: rest) (.behind item) (.object done key :: up) =
      build rest (.behind (.object (done.reverse ++ (key, item) :: members))) up := by
  induction members generalizing key item done with
  | nil =>
    rw [furtherMembers, List.nil_append, build, List.reverse_cons]
  | cons next members ih =>
    obtain ⟨nextKey, nextItem⟩ := next
    rw [furtherMembers, List.cons_append, List.cons_append, List.cons_append, List.append_assoc,
      build, build, build, builds _ List.mem_cons_self,
      ih fun m member => builds m (List.mem_cons_of_mem _ member), List.reverse_cons,
      List.append_assoc, List.singleton_append]

theorem builds_object {members : List (List Unit16 × Tree)} (builds : ∀ m ∈ members, m.2.Builds) :
    (object members).Builds := by
  intro rest up
  rw [tokens, List.cons_append, List.append_assoc]
  cases members with
  | nil => rfl
  | cons first members =>
    obtain ⟨key, item⟩ := first
    rw [membersTokens, List.cons_append, List.cons_append, List.append_assoc, build, build, build,
      builds _ List.mem_cons_self]
    exact build_furtherMembers (fun m member => builds m (List.mem_cons_of_mem _ member)) key
      item []
      rest up

theorem builds (t : Tree) : t.Builds := by
  cases t with
  | null => intro _ _; rw [tokens]; rfl
  | bool b => intro _ _; rw [tokens]; rfl
  | number written => intro _ _; rw [tokens]; rfl
  | string written => intro _ _; rw [tokens]; rfl
  | array items => exact builds_array fun item member => builds item
  | object members => exact builds_object fun m member => builds m.2
decreasing_by
  · have smaller := List.sizeOf_lt_of_mem member
    rw [array.sizeOf_spec]
    omega
  · have smaller := List.sizeOf_lt_of_mem member
    have part : sizeOf m = 1 + sizeOf m.1 + sizeOf m.2 := rfl
    rw [object.sizeOf_spec]
    omega

end Tree

namespace Members

theorem insert_last {members : Members} {key : String} (value : Json)
    (above : ∀ m ∈ members, m.1 < key) : insert key value members = members ++ [(key, value)] := by
  induction members with
  | nil => rfl
  | cons m members ih =>
    obtain ⟨k, v⟩ := m
    have below : k < key := above (k, v) List.mem_cons_self
    have other : k ≠ key := fun same => String.lt_irrefl key (same ▸ below)
    rw [insert, if_neg (String.lt_asymm below), if_neg other,
      ih fun m member => above m (List.mem_cons_of_mem _ member), List.cons_append]

theorem ofList_sorted {members : Members} (sorted : members.Sorted) : ofList members = members := by
  have fold (done rest : Members) (sorted : Sorted (done ++ rest)) :
      rest.foldl (fun done member => insert member.1 member.2 done) done = done ++ rest := by
    induction rest generalizing done with
    | nil => exact (List.append_nil done).symm
    | cons m rest ih =>
      have last := (List.pairwise_append.mp sorted).2.2
      rw [List.foldl_cons,
        insert_last m.2 fun other member => last other member m List.mem_cons_self,
        ih, List.append_assoc, List.singleton_append]
      rwa [List.append_assoc]
  exact fold [] members sorted

end Members

/-- The values of the data type: whole numbers fit a word, and the members of an object are in
key order. -/
inductive Proper : Json → Prop
  | null : Proper .null
  | bool (b : Bool) : Proper (.bool b)
  | integer {n : Int} (fits : -2 ^ 63 ≤ n ∧ n < 2 ^ 64) : Proper (.integer n)
  | float (x : Binary64) : Proper (.float x)
  | string (s : String) : Proper (.string s)
  | array {items : List Json} (all : ∀ item ∈ items, Proper item) : Proper (.array items)
  | object {members : Members} (sorted : members.Sorted) (all : ∀ m ∈ members, Proper m.2) :
      Proper (.object members)

mutual

def depth : Json → Nat
  | null | bool _ | integer _ | float _ | string _ => 0
  | array items => itemsDepth items + 1
  | object members => membersDepth members + 1

def itemsDepth : List Json → Nat
  | [] => 0
  | item :: rest => max item.depth (itemsDepth rest)

def membersDepth : List (String × Json) → Nat
  | [] => 0
  | (_, item) :: rest => max item.depth (membersDepth rest)

end

mutual

/-- The value with every float rounded anew, if that leaves them all in range. -/
def again : Json → Option Json
  | float x => x.again.map .float
  | array items => (itemsAgain items).map .array
  | object members => (membersAgain members).map .object
  | value => some value

def itemsAgain : List Json → Option (List Json)
  | [] => some []
  | item :: rest =>
    match item.again, itemsAgain rest with
    | some item, some rest => some (item :: rest)
    | _, _ => none

def membersAgain : List (String × Json) → Option (List (String × Json))
  | [] => some []
  | (key, item) :: rest =>
    match item.again, membersAgain rest with
    | some item, some rest => some ((key, item) :: rest)
    | _, _ => none

end

theorem membersAgain_keys {members rounded : List (String × Json)}
    (again : membersAgain members = some rounded) :
    rounded.map Prod.fst = members.map Prod.fst := by
  induction members generalizing rounded with
  | nil =>
    rw [membersAgain] at again
    exact congrArg (List.map Prod.fst) (Option.some.inj again).symm
  | cons m members ih =>
    obtain ⟨key, item⟩ := m
    rw [membersAgain] at again
    split at again
    case h_1 item rest first others =>
      rw [← Option.some.inj again, List.map_cons, List.map_cons, ih others]
    case h_2 => cases again

theorem membersAgain_sorted {members : Members} {rounded : List (String × Json)}
    (sorted : members.Sorted) (again : membersAgain members = some rounded) :
    Members.Sorted rounded := by
  rw [Members.Sorted, ← List.pairwise_map (f := Prod.fst) (R := (· < ·))] at sorted ⊢
  rwa [membersAgain_keys again]

inductive Kept : Json → Prop
  | null : Kept .null
  | bool (b : Bool) : Kept (.bool b)
  | integer (n : Int) : Kept (.integer n)
  | float {x : Binary64} (short : x.Short) : Kept (.float x)
  | string (s : String) : Kept (.string s)
  | array {items : List Json} (all : ∀ item ∈ items, Kept item) : Kept (.array items)
  | object {members : Members} (all : ∀ m ∈ members, Kept m.2) : Kept (.object members)

theorem itemsAgain_eq {items : List Json} (kept : ∀ item ∈ items, item.again = some item) :
    itemsAgain items = some items := by
  induction items with
  | nil => rfl
  | cons item items ih =>
    obtain ⟨first, others⟩ := List.forall_mem_cons.mp kept
    rw [itemsAgain, first, ih others]

theorem membersAgain_eq {members : List (String × Json)}
    (kept : ∀ m ∈ members, m.2.again = some m.2) : membersAgain members = some members := by
  induction members with
  | nil => rfl
  | cons m members ih =>
    obtain ⟨first, others⟩ := List.forall_mem_cons.mp kept
    rw [membersAgain, first, ih others]

theorem Kept.again_eq {v : Json} (kept : v.Kept) : v.again = some v := by
  induction kept with
  | float short => rw [again, Binary64.again_of_short short, Option.map_some]
  | array _ ih => rw [again, itemsAgain_eq ih, Option.map_some]
  | object _ ih => rw [again, membersAgain_eq ih, Option.map_some]
  | _ => rw [again] <;> simp

theorem itemsDepth_le {items : List Json} {limit : Nat}
    (shallow : ∀ item ∈ items, item.depth ≤ limit) : itemsDepth items ≤ limit := by
  induction items with
  | nil => exact Nat.zero_le limit
  | cons item items ih =>
    rw [itemsDepth, Nat.max_le]
    exact ⟨shallow item List.mem_cons_self, ih fun other member =>
      shallow other (List.mem_cons_of_mem _ member)⟩

/-- The text of a value has the tokens of a tree, and the tree is worth the value with its floats
rounded anew where that is not too deep. -/
structure Written (v : Json) (t : Tree) : Prop where
  lexes : ∀ {rest ts}, Ends rest → Lexes rest ts → Lexes (v.chars ++ rest) (t.tokens ++ ts)
  value : ∀ limit, t.valueWithin limit = if v.depth ≤ limit then v.again else none

structure MemberWritten (m : String × Json) (t : List Unit16 × Tree) : Prop where
  token : ∀ rest, token (quoted m.1 ++ rest) = some (.string t.1, rest)
  key : resolveText t.1 = some m.1
  item : Written m.2 t.2

theorem ends_cons {c : Char} {rest : List Char} (closes : c = ',' ∨ c = ']' ∨ c = '\x7d') :
    Ends (c :: rest) := by
  rintro _ ⟨⟩
  exact closes

section Lists

variable {rest : List Char} {ts : List Token}

theorem lexes_furtherItems {items : List Json} {trees : List Tree} {item : Json} {tree : Tree}
    (written : List.Forall₂ Written items trees) (first : Written item tree)
    (others : Lexes rest ts) : Lexes (itemsChars (item :: items) ++ ']' :: rest)
      (tree.tokens ++ (Tree.furtherItems trees ++ .closeArray :: ts)) := by
  induction written generalizing item tree with
  | nil =>
    rw [itemsChars, Tree.furtherItems, List.nil_append]
    exact first.lexes (ends_cons (by decide)) (Lexes.cons ']' [] rfl rfl others)
  | cons next more ih =>
    rw [itemsChars, Tree.furtherItems, List.append_assoc, List.cons_append, List.cons_append,
      List.append_assoc]
    · exact first.lexes (ends_cons (by decide)) (Lexes.cons ',' [] rfl rfl (ih next))
    · exact List.cons_ne_nil _ _

theorem lexes_array {items : List Json} {trees : List Tree}
    (written : List.Forall₂ Written items trees) (others : Lexes rest ts) :
    Lexes ((array items).chars ++ rest) ((Tree.array trees).tokens ++ ts) := by
  rw [chars, Tree.tokens, List.cons_append, List.cons_append, List.append_assoc, List.append_assoc]
  suffices inside : Lexes (itemsChars items ++ ']' :: rest)
      (Tree.itemsTokens trees ++ .closeArray :: ts) from Lexes.cons '[' [] rfl rfl inside
  cases written with
  | nil => exact Lexes.cons ']' [] rfl rfl others
  | cons first more =>
    rw [Tree.itemsTokens, List.append_assoc]
    exact lexes_furtherItems more first others

theorem value_items {items : List Json} {trees : List Tree}
    (written : List.Forall₂ Written items trees) (limit : Nat) :
    itemsWithin limit trees = if itemsDepth items ≤ limit then itemsAgain items else none := by
  induction written with
  | nil => rw [itemsWithin, itemsDepth, if_pos (Nat.zero_le limit), itemsAgain]
  | @cons item tree items trees first _ ih =>
    rw [itemsWithin, first.value, ih, itemsDepth, itemsAgain]
    simp only [Nat.max_le]
    cases item.again <;> cases itemsAgain items <;> split_ifs <;> simp_all

theorem lexes_furtherMembers {members : List (String × Json)}
    {trees : List (List Unit16 × Tree)} {m : String × Json} {tree : List Unit16 × Tree}
    (written : List.Forall₂ MemberWritten members trees) (first : MemberWritten m tree)
    (others : Lexes rest ts) : Lexes (membersChars (m :: members) ++ '\x7d' :: rest)
      (.string tree.1 :: .colon ::
        (tree.2.tokens ++ (Tree.furtherMembers trees ++ .closeObject :: ts))) := by
  induction written generalizing m tree with
  | nil =>
    rw [membersChars, Tree.furtherMembers, List.nil_append, List.append_assoc, List.cons_append]
    exact lexes_quoted first.token (Lexes.cons ':' [] rfl rfl
      (first.item.lexes (ends_cons (by decide)) (Lexes.cons '\x7d' [] rfl rfl others)))
  | cons next more ih =>
    rw [membersChars, Tree.furtherMembers, List.append_assoc, List.cons_append, List.append_assoc,
      List.cons_append, List.cons_append, List.cons_append, List.cons_append, List.append_assoc]
    · exact lexes_quoted first.token (Lexes.cons ':' [] rfl rfl
        (first.item.lexes (ends_cons (by decide)) (Lexes.cons ',' [] rfl rfl (ih next))))
    · exact List.cons_ne_nil _ _

theorem lexes_object {members : List (String × Json)} {trees : List (List Unit16 × Tree)}
    (written : List.Forall₂ MemberWritten members trees) (others : Lexes rest ts) :
    Lexes ((object members).chars ++ rest) ((Tree.object trees).tokens ++ ts) := by
  rw [chars, Tree.tokens, List.cons_append, List.cons_append, List.append_assoc, List.append_assoc]
  suffices inside : Lexes (membersChars members ++ '\x7d' :: rest)
      (Tree.membersTokens trees ++ .closeObject :: ts) from Lexes.cons '\x7b' [] rfl rfl inside
  cases written with
  | nil => exact Lexes.cons '\x7d' [] rfl rfl others
  | cons first more =>
    rw [Tree.membersTokens, List.cons_append, List.cons_append, List.append_assoc]
    exact lexes_furtherMembers more first others

theorem value_members {members : List (String × Json)} {trees : List (List Unit16 × Tree)}
    (written : List.Forall₂ MemberWritten members trees) (limit : Nat) :
    membersWithin limit trees =
      if membersDepth members ≤ limit then membersAgain members else none := by
  induction written with
  | nil => rw [membersWithin, membersDepth, if_pos (Nat.zero_le limit), membersAgain]
  | @cons m tree members trees first _ ih =>
    rw [membersWithin, first.key, first.item.value, ih, membersDepth, membersAgain]
    simp only [Nat.max_le]
    cases m.2.again <;> cases membersAgain members <;> split_ifs <;> simp_all

end Lists

/-- A bracket takes one level of the depth that is allowed. -/
theorem within_bracket {α : Type} (limit depth : Nat) (inside : Option α) (f : α → Json) :
    (if limit = 0 then none else (if depth ≤ limit - 1 then inside else none).map f) =
      if depth + 1 ≤ limit then inside.map f else none := by
  cases limit with
  | zero => rfl
  | succ limit =>
    rw [if_neg (Nat.succ_ne_zero limit), Nat.add_sub_cancel]
    simp only [Nat.add_le_add_iff_right]
    split <;> rfl

theorem exists_forall₂ {α β : Type} {R : α → β → Prop} {as : List α}
    (each : ∀ a ∈ as, ∃ b, R a b) : ∃ bs, List.Forall₂ R as bs := by
  induction as with
  | nil => exact ⟨[], .nil⟩
  | cons a as ih =>
    obtain ⟨b, first⟩ := each a List.mem_cons_self
    obtain ⟨bs, others⟩ := ih fun a member => each a (List.mem_cons_of_mem _ member)
    exact ⟨b :: bs, .cons first others⟩

theorem exists_written_number {cs : List Char} {v : Json} (printed : v.chars = cs)
    (flat : v.depth = 0) (spells : Spells cs v.again) : ∃ t, Written v t := by
  obtain ⟨starts, written, read, value⟩ := spells
  refine ⟨.number written, fun {rest ts} ends others => ?_, fun limit => ?_⟩
  · rw [printed, Tree.tokens]
    exact lexes_number starts (read rest ends) others
  · rw [Tree.valueWithin, value, flat, if_pos (Nat.zero_le limit)]

theorem written_word {c : Char} {part : List Char} {v : Json} {t : Tree} {first : Token}
    (printed : v.chars = c :: part) (solid : isBlank c = false)
    (token : ∀ rest, token (c :: part ++ rest) = some (first, rest)) (tokens : t.tokens = [first])
    (flat : v.depth = 0) (value : ∀ limit, t.valueWithin limit = v.again) : Written v t where
  lexes _ others := by
    rw [printed, tokens]
    exact Lexes.cons c part solid (token _) others
  value limit := by rw [value, flat, if_pos (Nat.zero_le limit)]

theorem exists_tree {v : Json} (proper : v.Proper) : ∃ t, Written v t := by
  induction proper with
  | null =>
    exact ⟨.null, written_word (by rw [chars]) rfl (fun _ => rfl) (by rw [Tree.tokens]) rfl
      fun limit => by rw [Tree.valueWithin]; rfl⟩
  | bool b =>
    cases b <;> exact ⟨.bool _, written_word (by rw [chars]) rfl (fun _ => rfl)
      (by rw [Tree.tokens]) rfl fun limit => by rw [Tree.valueWithin]; rfl⟩
  | integer fits =>
    exact exists_written_number (by rw [chars]) (by rw [depth]) (integer_spells fits)
  | float x =>
    refine exists_written_number (by rw [chars]) (by rw [depth]) ?_
    rw [again]
    exact float_spells x
  | string s =>
    obtain ⟨written, read, value⟩ := exists_token_quoted s
    refine ⟨.string written, fun {rest ts} _ others => ?_, fun limit => ?_⟩
    · rw [chars, Tree.tokens]
      exact lexes_quoted read others
    · rw [Tree.valueWithin, value, depth, if_pos (Nat.zero_le limit)]
      rfl
  | @array items all ih =>
    obtain ⟨trees, written⟩ := exists_forall₂ ih
    refine ⟨.array trees, fun {rest ts} _ others => lexes_array written others, fun limit => ?_⟩
    rw [Tree.valueWithin, depth, value_items written, again, within_bracket]
  | @object members sorted all ih =>
    obtain ⟨trees, written⟩ : ∃ trees, List.Forall₂ MemberWritten _ trees :=
      exists_forall₂ fun m member => by
        obtain ⟨item, written⟩ := ih m member
        obtain ⟨key, read, value⟩ := exists_token_quoted m.1
        exact ⟨(key, item), read, value, written⟩
    refine ⟨.object trees, fun {rest ts} _ others => lexes_object written others, fun limit => ?_⟩
    have ordered : (membersAgain members).map (fun ms => object (Members.ofList ms)) =
        (membersAgain members).map object := by
      refine Option.map_congr fun rounded some => ?_
      rw [Members.ofList_sorted (membersAgain_sorted sorted some)]
    rw [Tree.valueWithin, depth, value_members written, again, ← ordered, within_bracket]

/-- A printed value is read with its floats rounded anew, unless its brackets nest too deep: then
nothing is read. -/
theorem read_chars {v : Json} (proper : v.Proper) :
    read v.chars = if v.depth ≤ depthLimit then v.again else none := by
  obtain ⟨t, written⟩ := exists_tree proper
  have ends : Ends [] := by
    rintro _ ⟨⟩
  have lexes := (written.lexes ends lexes_nil).tokens
  rw [List.append_nil, List.append_nil] at lexes
  have built := t.builds [] []
  rw [List.append_nil, build] at built
  rw [read, tree, lexes, Option.bind_eq_bind, Option.bind_eq_bind, Option.bind_some, built,
    Option.bind_some]
  exact written.value depthLimit

def nested : Nat → Json
  | 0 => .array []
  | n + 1 => .array [nested n]

theorem proper_nested (n : Nat) : (nested n).Proper := by
  induction n with
  | zero => exact .array fun _ member => absurd member List.not_mem_nil
  | succ n ih => exact .array fun item member => List.mem_singleton.mp member ▸ ih

theorem depth_nested (n : Nat) : (nested n).depth = n + 1 := by
  induction n with
  | zero => rfl
  | succ n ih => rw [nested, depth, itemsDepth, itemsDepth, ih, Nat.max_eq_left (Nat.zero_le _)]

end CacheWatch.Json
