import CacheWatch.Proofs.Json.Printed

/-! Members of objects, put in order and found by their keys.
Setting members one after the other is told from what is found afterwards, and two objects in key
order are the same if the same is found in both.
-/
namespace CacheWatch.Json.Members

theorem mem_insert {m : String × Json} {key : String} {value : Json} {members : Members}
    (member : m ∈ insert key value members) : m = (key, value) ∨ m ∈ members := by
  induction members with
  | nil => exact .inl (List.mem_singleton.mp member)
  | cons first members ih =>
    obtain ⟨k, v⟩ := first
    rw [insert] at member
    split_ifs at member
    · exact List.mem_cons.mp member
    · exact (List.mem_cons.mp member).imp_right (List.mem_cons_of_mem _)
    · rcases List.mem_cons.mp member with rfl | later
      · exact .inr List.mem_cons_self
      · exact (ih later).imp_right (List.mem_cons_of_mem _)

theorem insert_sorted {members : Members} (sorted : members.Sorted) (key : String) (value : Json) :
    (insert key value members).Sorted := by
  induction members with
  | nil => exact List.pairwise_singleton _ _
  | cons first members ih =>
    obtain ⟨k, v⟩ := first
    obtain ⟨least, others⟩ := List.pairwise_cons.mp sorted
    rw [insert]
    split_ifs with before same
    · refine List.pairwise_cons.mpr ⟨fun m member => ?_, sorted⟩
      rcases List.mem_cons.mp member with rfl | later
      · exact before
      · exact String.lt_trans before (least m later)
    · exact List.pairwise_cons.mpr ⟨same ▸ least, others⟩
    · have behind : k < key := Std.lt_of_le_of_ne (String.not_lt.mp before) same
      refine List.pairwise_cons.mpr ⟨fun m member => ?_, ih others⟩
      rcases mem_insert member with rfl | later
      · exact behind
      · exact least m later

theorem ofList_keeps (members : List (String × Json)) :
    Sorted (ofList members) ∧ ∀ m ∈ ofList members, m ∈ members := by
  have fold (rest done : Members) (sorted : done.Sorted) :
      Sorted (rest.foldl (fun done member => insert member.1 member.2 done) done) ∧
        ∀ m ∈ rest.foldl (fun done member => insert member.1 member.2 done) done,
          m ∈ done ∨ m ∈ rest := by
    induction rest generalizing done with
    | nil => exact ⟨sorted, fun m => .inl⟩
    | cons first rest ih =>
      obtain ⟨still, known⟩ := ih (insert first.1 first.2 done) (insert_sorted sorted _ _)
      refine ⟨still, fun m member => ?_⟩
      rcases known m member with inside | later
      · rcases mem_insert inside with rfl | before
        · exact .inr List.mem_cons_self
        · exact .inl before
      · exact .inr (List.mem_cons_of_mem _ later)
  obtain ⟨sorted, known⟩ := fold members [] List.Pairwise.nil
  exact ⟨sorted, fun m member => (known m member).resolve_left List.not_mem_nil⟩

theorem find?_insert (key : String) (value : Json) (members : Members) (other : String) :
    (insert key value members).find? other =
      if key = other then some value else members.find? other := by
  induction members with
  | nil => rfl
  | cons member rest ih =>
    obtain ⟨k, v⟩ := member
    rw [insert]
    by_cases before : key < k
    · rw [if_pos before]
      rfl
    · rw [if_neg before]
      by_cases same : k = key
      · subst same
        rw [if_pos rfl, find?, find?]
        by_cases here : k = other
        · rw [if_pos here, if_pos here]
        · rw [if_neg here, if_neg here, if_neg here]
      · rw [if_neg same, find?, find?, ih]
        by_cases here : k = other
        · rw [if_pos here, if_pos here, if_neg fun twice => same (here.trans twice.symm)]
        · rw [if_neg here, if_neg here]

theorem find?_append (front back : Members) (key : String) :
    find? key (front ++ back) = (find? key front).or (find? key back) := by
  induction front with
  | nil => rfl
  | cons member front ih =>
    obtain ⟨k, v⟩ := member
    rw [List.cons_append, find?, find?, ih]
    by_cases here : k = key
    · rw [if_pos here, if_pos here]
      rfl
    · rw [if_neg here, if_neg here]

def insertAll (new members : Members) : Members :=
  new.foldl (fun done member => insert member.1 member.2 done) members

theorem find?_insertAll (new members : Members) (key : String) :
    (insertAll new members).find? key = (find? key new.reverse).or (members.find? key) := by
  induction new generalizing members with
  | nil => rfl
  | cons member new ih =>
    obtain ⟨k, v⟩ := member
    have last : find? key [(k, v)] = if k = key then some v else none := rfl
    rw [insertAll, List.foldl_cons, ← insertAll, ih, find?_insert, List.reverse_cons, find?_append,
      last, Option.or_assoc]
    by_cases here : k = key
    · rw [if_pos here, if_pos here]
      rfl
    · rw [if_neg here, if_neg here]
      rfl

theorem insertAll_sorted (new : Members) {members : Members} (sorted : members.Sorted) :
    (insertAll new members).Sorted := by
  induction new generalizing members with
  | nil => exact sorted
  | cons member new ih => exact ih (insert_sorted sorted _ _)

theorem find?_eq_none_of_lt {members : Members} {key : String} (above : ∀ m ∈ members, key < m.1) :
    members.find? key = none := by
  induction members with
  | nil => rfl
  | cons member rest ih =>
    obtain ⟨k, v⟩ := member
    obtain ⟨first, others⟩ := List.forall_mem_cons.mp above
    have different : k ≠ key := fun same => String.lt_irrefl key (same ▸ first)
    rw [find?, if_neg different, ih others]

theorem Sorted.ext {members other : Members} (sorted : members.Sorted) (ordered : other.Sorted)
    (same : ∀ key, members.find? key = other.find? key) : members = other := by
  induction members generalizing other with
  | nil =>
    cases other with
    | nil => rfl
    | cons m other => simpa [find?] using same m.1
  | cons m members ih =>
    cases other with
    | nil => simpa [find?] using same m.1
    | cons n other =>
      obtain ⟨k, v⟩ := m
      obtain ⟨l, w⟩ := n
      obtain ⟨least, rest⟩ := List.pairwise_cons.mp sorted
      obtain ⟨smallest, others⟩ := List.pairwise_cons.mp ordered
      have first : k = l := by
        by_contra different
        by_cases before : k < l
        · have absent : find? k ((l, w) :: other) = none := find?_eq_none_of_lt <|
            List.forall_mem_cons.mpr
              ⟨before, fun m member => String.lt_trans before (smallest m member)⟩
          have clash := same k
          rw [absent, find?, if_pos rfl] at clash
          contradiction
        · have behind : l < k := Std.lt_of_le_of_ne (String.not_lt.mp before) (Ne.symm different)
          have absent : find? l ((k, v) :: members) = none := find?_eq_none_of_lt <|
            List.forall_mem_cons.mpr
              ⟨behind, fun m member => String.lt_trans behind (least m member)⟩
          have clash := same l
          rw [absent, find?, if_pos rfl] at clash
          contradiction
      subst first
      have value : v = w := by simpa [find?] using same k
      subst value
      refine congrArg (List.cons (k, v)) (ih rest others fun key => ?_)
      by_cases here : k = key
      · subst here
        rw [find?_eq_none_of_lt least, find?_eq_none_of_lt smallest]
      · simpa [find?, here] using same key

theorem mem_of_find? {members : Members} {key : String} {value : Json}
    (found : members.find? key = some value) : (key, value) ∈ members := by
  induction members with
  | nil => contradiction
  | cons member rest ih =>
    obtain ⟨k, v⟩ := member
    rw [find?] at found
    split_ifs at found with here
    · cases found
      exact here ▸ List.mem_cons_self
    · exact List.mem_cons_of_mem _ (ih found)

theorem insertAll_comm {new members : Members} (sorted : members.Sorted)
    (apart : ∀ m ∈ new, members.find? m.1 = none) :
    insertAll new members = ofList (new ++ members) := by
  refine (insertAll_sorted new sorted).ext (ofList_keeps _).1 fun key => ?_
  have kept : find? key members = find? key members.reverse := by
    conv_lhs => rw [← ofList_sorted sorted]
    have all := find?_insertAll members [] key
    rwa [find?, Option.or_none] at all
  have all := find?_insertAll (new ++ members) [] key
  rw [find?, Option.or_none, List.reverse_append, find?_append, ← kept] at all
  rw [find?_insertAll, ofList, ← insertAll, all]
  cases set : find? key new.reverse with
  | none => rw [Option.none_or, Option.or_none]
  | some value =>
    have absent := apart _ (List.mem_reverse.mp (mem_of_find? set))
    rw [absent, Option.none_or, Option.or_none]

theorem without_insert {keys : List String} {key : String} (named : key ∈ keys) (value : Json)
    (members : Members) : (insert key value members).without keys = members.without keys := by
  have drop (v : Json) (rest : Members) : without keys ((key, v) :: rest) = without keys rest :=
    List.filter_cons_of_neg (by simpa using named)
  induction members with
  | nil => exact drop value []
  | cons member rest ih =>
    obtain ⟨k, v⟩ := member
    rw [insert]
    split_ifs with before same
    · exact drop value _
    · subst same
      rw [drop, drop]
    · simp only [without, List.filter_cons] at ih ⊢
      rw [ih]

theorem without_insertAll {keys : List String} {new : Members} (named : ∀ m ∈ new, m.1 ∈ keys)
    (members : Members) : (insertAll new members).without keys = members.without keys := by
  induction new generalizing members with
  | nil => rfl
  | cons member new ih =>
    obtain ⟨first, others⟩ := List.forall_mem_cons.mp named
    exact (ih others _).trans (without_insert first _ _)

end CacheWatch.Json.Members
