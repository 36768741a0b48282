import CacheWatch.Channel.Packet
import CacheWatch.Proofs.Json.Printed
import Mathlib.Data.List.TakeWhile

/-! Which packets a text carries.
A packet is written as a kind, a namespace that may be left out, an acknowledgement number that may
be left out, and a body, with nothing between them but one comma. What decoding makes of every
written form is said first, then which texts are refused.
-/
namespace CacheWatch.Packet

structure IsNamespace (ns : String) : Prop where
  slash : ns.toList.head? = some '/'
  solid : ',' ∉ ns.toList

/-- What stands behind the kind: a namespace, and the rest behind its comma. -/
inductive Splits : List Char → String → List Char → Prop
  | omitted {rest : List Char} (apart : rest.head? ≠ some '/') : Splits rest rootNamespace rest
  | ended {ns : String} {rest : List Char} (isNamespace : IsNamespace ns) :
      Splits (ns.toList ++ ',' :: rest) ns rest
  | unended {ns : String} (isNamespace : IsNamespace ns) : Splits ns.toList ns []

def Carries (cs : List Char) (ns : String) (body : List Char) : Prop :=
  ∃ id : List Char, Splits cs ns (id ++ body) ∧ (∀ c ∈ id, c.isDigit) ∧ Json.Stops body

/-- How a namespace is written: the root namespace may be left out. -/
inductive Address : String → List Char → Prop
  | omitted : Address rootNamespace []
  | named {ns : String} (isNamespace : IsNamespace ns) : Address ns (ns.toList ++ [','])

inductive Denotes : List Char → Json → Prop
  | nothing : Denotes [] .null
  | printed {v rounded : Json} (proper : v.Proper) (shallow : v.depth ≤ 127)
      (again : v.again = some rounded) : Denotes v.chars rounded
  | json {body : List Char} {v : Json} (read : Json.read body = some v) : Denotes body v
  | text {body : List Char} (present : body ≠ []) (unreadable : Json.read body = none) :
      Denotes body (.string (String.ofList body))

section Splitting

variable {cs rest body : List Char} {ns : String}

theorem takeWhile_comma (rest : List Char) {ns : List Char} (solid : ',' ∉ ns) :
    (ns ++ ',' :: rest).takeWhile (· ≠ ',') = ns ∧
      (ns ++ ',' :: rest).dropWhile (· ≠ ',') = ',' :: rest := by
  have other : ∀ c ∈ ns, decide (c ≠ ',') = true := fun c member =>
    decide_eq_true fun comma => solid (comma ▸ member)
  rw [List.takeWhile_append_of_pos other, List.dropWhile_append_of_pos other]
  exact ⟨List.append_nil ns, rfl⟩

theorem Splits.splitNamespace_eq (splits : Splits cs ns rest) : splitNamespace cs = (ns, rest) := by
  cases splits with
  | omitted apart => exact if_neg apart
  | ended isNamespace =>
    obtain ⟨taken, dropped⟩ := takeWhile_comma rest isNamespace.solid
    have slash : (ns.toList ++ ',' :: rest).head? = some '/' := by
      rw [List.head?_append, isNamespace.slash, Option.some_or]
    rw [splitNamespace, if_pos slash, taken, dropped, String.ofList_toList]
    rfl
  | unended isNamespace =>
    have other : ∀ c ∈ ns.toList, decide (c ≠ ',') = true := fun c member =>
      decide_eq_true fun comma => isNamespace.solid (comma ▸ member)
    rw [splitNamespace, if_pos isNamespace.slash, List.takeWhile_eq_self_iff.mpr other,
      List.dropWhile_eq_nil_iff.mpr other, String.ofList_toList]
    rfl

theorem splits_splitNamespace (cs : List Char) :
    Splits cs (splitNamespace cs).1 (splitNamespace cs).2 := by
  by_cases slash : cs.head? = some '/'
  · have whole := List.takeWhile_append_dropWhile (p := (· ≠ ',')) (l := cs)
    have stop := List.head?_dropWhile_not (· ≠ ',') cs
    have isNamespace : IsNamespace (String.ofList (cs.takeWhile (· ≠ ','))) := by
      refine ⟨?_, fun member => ?_⟩
      · rw [String.toList_ofList, List.head?_takeWhile, slash]
        rfl
      · rw [String.toList_ofList] at member
        simpa using List.mem_takeWhile_imp member
    rw [splitNamespace, if_pos slash]
    cases behind : cs.dropWhile (· ≠ ',') with
    | nil =>
      rw [behind, List.append_nil] at whole
      have unended := Splits.unended isNamespace
      simpa only [String.toList_ofList, whole, List.drop_nil] using unended
    | cons c rest =>
      rw [behind] at whole stop
      obtain rfl : c = ',' := by simpa using stop
      have ended := @Splits.ended _ rest isNamespace
      simpa only [String.toList_ofList, whole, List.drop_succ_cons, List.drop_zero] using ended
  · rw [splitNamespace, if_neg slash]
    exact .omitted slash

theorem Carries.eq (carries : Carries cs ns body) :
    (splitNamespace cs).1 = ns ∧ (splitNamespace cs).2.dropWhile Char.isDigit = body := by
  obtain ⟨id, splits, digits, stops⟩ := carries
  rw [splits.splitNamespace_eq]
  exact ⟨rfl, (Json.takeWhile_digits digits stops).2⟩

theorem exists_carries (cs : List Char) : ∃ ns body, Carries cs ns body := by
  have splits := splits_splitNamespace cs
  generalize (splitNamespace cs).2 = rest at splits
  refine ⟨(splitNamespace cs).1, rest.dropWhile Char.isDigit, rest.takeWhile Char.isDigit, ?_, ?_,
    ?_⟩
  · rwa [List.takeWhile_append_dropWhile]
  · exact fun c member => List.mem_takeWhile_imp member
  · intro c first
    have stop := List.head?_dropWhile_not Char.isDigit rest
    rw [Option.mem_def.mp first] at stop
    simpa using stop

/-- A namespace that is left out has to be told from the body. -/
theorem Address.splits {address : List Char} (written : Address ns address)
    (apart : address = [] → rest.head? ≠ some '/') : Splits (address ++ rest) ns rest := by
  cases written with
  | omitted => exact .omitted (apart rfl)
  | named isNamespace =>
    rw [List.append_assoc]
    exact .ended isNamespace

end Splitting

/-- The written forms of packets. The payload of an event is its first argument, with every float
as its printed digits are rounded. -/
inductive Written : Packet → List Char → Prop
  | connect {ns : String} {address id body : List Char} (addressed : Address ns address)
      (digits : ∀ c ∈ id, c.isDigit) (apart : address = [] → (id ++ body).head? ≠ some '/') :
      Written (.connect ns) ('0' :: (address ++ (id ++ body)))
  | disconnect {ns : String} {address id body : List Char} (addressed : Address ns address)
      (digits : ∀ c ∈ id, c.isDigit) (apart : address = [] → (id ++ body).head? ≠ some '/') :
      Written (.disconnect ns) ('1' :: (address ++ (id ++ body)))
  | event {ns name : String} {address id : List Char} {arguments rounded : List Json}
      (addressed : Address ns address) (digits : ∀ c ∈ id, c.isDigit)
      (proper : ∀ a ∈ arguments, a.Proper) (shallow : ∀ a ∈ arguments, a.depth ≤ 126)
      (again : Json.itemsAgain arguments = some rounded) :
      Written (.event ns name (rounded.head?.getD .null))
        ('2' :: (address ++ (id ++ (Json.array (.string name :: arguments)).chars)))
  | error {ns : String} {address id body : List Char} {payload : Json}
      (addressed : Address ns address) (digits : ∀ c ∈ id, c.isDigit)
      (apart : address = [] → (id ++ body).head? ≠ some '/')
      (stops : ∀ c ∈ body.head?, c.isDigit = false) (denotes : Denotes body payload) :
      Written (.error ns payload) ('4' :: (address ++ (id ++ body)))

inductive Malformed : List Char → Prop
  | empty : Malformed []
  | kind {kind : Char} {rest : List Char} (unknown : kind ∉ ['0', '1', '2', '3', '4', '5', '6']) :
      Malformed (kind :: rest)
  | event {rest body : List Char} {ns : String} (carries : Carries rest ns body)
      (other : ∀ name arguments, Json.read body ≠ some (.array (.string name :: arguments))) :
      Malformed ('2' :: rest)

section Decoding

variable {rest body : List Char} {ns : String}

theorem errorBody_eq {payload : Json} (denotes : Denotes body payload) :
    errorBody body = payload := by
  have json {body : List Char} {v : Json} (read : Json.read body = some v) :
      errorBody body = v := by
    cases body with
    | nil => cases read
    | cons c rest =>
      rw [errorBody, read]
      rfl
  cases denotes with
  | nothing => rfl
  | printed proper shallow again =>
    exact json (((Json.read_chars proper).trans (if_pos shallow)).trans again)
  | json read => exact json read
  | text present unreadable =>
    rw [errorBody, unreadable, List.isEmpty_eq_false_iff.mpr present]
    rfl

theorem eventBody_ok_iff {name : String} {payload : Json} : eventBody body = .ok (name, payload) ↔
    ∃ arguments, Json.read body = some (.array (.string name :: arguments)) ∧
      payload = arguments.head?.getD .null := by
  unfold eventBody
  constructor
  · intro decoded
    split at decoded <;> try contradiction
    case h_3 name arguments read =>
      cases decoded
      exact ⟨arguments, read, rfl⟩
  · rintro ⟨arguments, read, rfl⟩
    rw [read]

theorem decodeChars_event (carries : Carries rest ns body) : decodeChars ('2' :: rest) =
    (eventBody body).map fun decoded => .event ns decoded.1 decoded.2 := by
  obtain ⟨rfl, rfl⟩ := carries.eq
  rw [decodeChars]
  simp only [Char.reduceEq, decide_false, Bool.or_self, if_false, Bool.false_eq_true, if_true]
  cases eventBody _ <;> rfl

theorem decodeChars_written {packet : Packet} {cs : List Char} (written : Written packet cs) :
    decodeChars cs = .ok packet := by
  cases written with
  | connect addressed digits apart =>
    rw [decodeChars, (addressed.splits apart).splitNamespace_eq]
    rfl
  | disconnect addressed digits apart =>
    rw [decodeChars, (addressed.splits apart).splitNamespace_eq]
    rfl
  | @event ns name address id arguments rounded addressed digits proper shallow again =>
    have body : (Json.array (.string name :: arguments)).chars =
        '[' :: (Json.itemsChars (.string name :: arguments) ++ [']']) := by rw [Json.chars]
    have apart : address = [] →
        (id ++ (Json.array (.string name :: arguments)).chars).head? ≠ some '/' := by
      intro _ slash
      cases id with
      | nil =>
        rw [body] at slash
        exact absurd slash (by simp)
      | cons c id =>
        obtain rfl : c = '/' := Option.some.inj slash
        exact absurd (digits '/' List.mem_cons_self) (by decide)
    have carries : Carries (address ++ (id ++ (Json.array (.string name :: arguments)).chars)) ns
        (Json.array (.string name :: arguments)).chars :=
      ⟨id, addressed.splits apart, digits, by rw [body]; exact Json.stops_cons rfl⟩
    have depth : (Json.array (.string name :: arguments)).depth ≤ Json.depthLimit := by
      rw [Json.depth]
      exact Nat.succ_le_succ (Json.itemsDepth_le
        (List.forall_mem_cons.mpr ⟨Nat.zero_le 126, shallow⟩))
    have values : (Json.array (.string name :: arguments)).again =
        some (.array (.string name :: rounded)) := by
      rw [Json.again, Json.itemsAgain, again]
      rfl
    have read : Json.read (Json.array (.string name :: arguments)).chars =
        some (.array (.string name :: rounded)) := by
      rw [Json.read_chars (.array (List.forall_mem_cons.mpr ⟨.string name, proper⟩)), if_pos depth,
        values]
    rw [decodeChars_event carries, eventBody_ok_iff.mpr ⟨rounded, read, rfl⟩]
    rfl
  | error addressed digits apart stops denotes =>
    rw [decodeChars, (addressed.splits apart).splitNamespace_eq]
    simp only [(Json.takeWhile_digits digits stops).2, errorBody_eq denotes]
    rfl

theorem decodeChars_error_iff {cs : List Char} :
    (∃ e, decodeChars cs = .error e) ↔ Malformed cs := by
  constructor
  · rintro ⟨e, failed⟩
    cases cs with
    | nil => exact .empty
    | cons kind rest =>
      by_cases known : kind ∈ ['0', '1', '2', '3', '4', '5', '6']
      · simp only [List.mem_cons, List.not_mem_nil, or_false] at known
        obtain ⟨ns, body, carries⟩ := exists_carries rest
        rcases known with rfl | rfl | rfl | rfl | rfl | rfl | rfl
        case inr.inr.inl =>
          refine .event carries fun name arguments read => ?_
          rw [decodeChars_event carries, eventBody_ok_iff.mpr ⟨arguments, read, rfl⟩] at failed
          contradiction
        all_goals exact absurd failed (by simp [decodeChars])
      · exact .kind known
  · intro malformed
    cases malformed with
    | empty => exact ⟨_, rfl⟩
    | @kind kind rest unknown =>
      simp only [List.mem_cons, List.not_mem_nil, or_false, not_or] at unknown
      exact ⟨.unknownPacket kind, by simp [decodeChars, unknown]⟩
    | event carries other =>
      rw [decodeChars_event carries]
      cases decoded : eventBody _ with
      | error e => exact ⟨e, rfl⟩
      | ok value =>
        obtain ⟨arguments, read, -⟩ := eventBody_ok_iff.mp decoded
        exact absurd read (other _ arguments)

end Decoding

/-- Decoding gives every written packet back, and fails on just the texts that carry none. Values
whose floats are short come back as they are. -/
theorem decode_exact (data : String) :
    (∀ packet, Written packet data.toList → decode data = .ok packet) ∧
      ((∃ e, decode data = .error e) ↔ Malformed data.toList) ∧
      ∀ v : Json, v.Kept → v.again = some v :=
  ⟨fun _ => decodeChars_written, decodeChars_error_iff, fun _ => Json.Kept.again_eq⟩

/-- An event in a namespace, with an acknowledgement number and an object for its argument. -/
theorem decode_exact_admin :
    Written (.event "/admin" "cache" (.object [("Type", .integer 3)]))
        "2/admin,13[\"cache\",\x7b\"Type\":3\x7d]".toList ∧
      decode "2/admin,13[\"cache\",\x7b\"Type\":3\x7d]" =
        .ok (.event "/admin" "cache" (.object [("Type", .integer 3)])) := by
  have written : Written (.event "/admin" "cache" (.object [("Type", .integer 3)]))
      "2/admin,13[\"cache\",\x7b\"Type\":3\x7d]".toList := by
    have text : "2/admin,13[\"cache\",\x7b\"Type\":3\x7d]".toList =
        '2' :: ("/admin".toList ++ [','] ++
        (['1', '3'] ++ (Json.array [.string "cache", .object [("Type", .integer 3)]]).chars)) := by
      decide
    have object : (Json.object [("Type", .integer 3)]).Proper :=
      .object (List.pairwise_singleton _ _)
        (List.forall_mem_singleton.mpr (.integer (by decide)))
    rw [text]
    exact .event (.named ⟨rfl, by decide⟩)
      (List.forall_mem_cons.mpr ⟨rfl, List.forall_mem_singleton.mpr rfl⟩)
      (List.forall_mem_singleton.mpr object) (List.forall_mem_singleton.mpr (by decide)) rfl
  exact ⟨written, (decode_exact _).1 _ written⟩

def single (argument : Json) : String :=
  String.ofList ('2' :: (Json.array [.string "a", argument]).chars)

theorem carries_single (argument : Json) :
    Carries (Json.array [.string "a", argument]).chars rootNamespace
      (Json.array [.string "a", argument]).chars := by
  rw [Json.chars]
  exact ⟨[], .omitted (by simp), by simp, Json.stops_cons rfl⟩

theorem decode_single_float {x y : Binary64} (again : x.again = some y) :
    decode (single (.float x)) = .ok (.event rootNamespace "a" (.float y)) := by
  have rounded : Json.itemsAgain [.float x] = some [.float y] := by
    rw [Json.itemsAgain, Json.again, again]
    rfl
  rw [decode, single, String.toList_ofList]
  exact decodeChars_written (.event .omitted (List.forall_mem_nil _)
    (List.forall_mem_singleton.mpr (.float x))
    (List.forall_mem_singleton.mpr (by rw [Json.depth]; exact Nat.zero_le _)) rounded)

theorem decode_single_deep {argument : Json} (proper : argument.Proper)
    (deep : 126 < argument.depth) : decode (single argument) = .error .unreadableJson := by
  have read : Json.read (Json.array [.string "a", argument]).chars = none := by
    rw [Json.read_chars (.array (List.forall_mem_cons.mpr ⟨.string "a",
      List.forall_mem_singleton.mpr proper⟩)), if_neg]
    rw [Json.depth, Json.itemsDepth, Json.itemsDepth, Json.itemsDepth, Json.depthLimit]
    omega
  rw [decode, single, String.toList_ofList, decodeChars_event (carries_single argument), eventBody,
    read]
  rfl

/-- An argument that nests one bracket deeper than is read, and a float that is read as the one
before it: `3e+23`. -/
theorem decode_loses_arguments :
    ((Json.nested 126).Proper ∧ decode (single (Json.nested 126)) = .error .unreadableJson) ∧
      ∃ x y : Binary64, x.jsonChars = "3e+23".toList ∧ y.place + 1 = x.place ∧
        decode (single (.float x)) = .ok (.event rootNamespace "a" (.float y)) := by
  refine ⟨⟨Json.proper_nested 126, decode_single_deep (Json.proper_nested 126) ?_⟩,
    ⟨false, 4958396687196483698, by decide⟩, ⟨false, 4958396687196483697, by decide⟩, ?_, rfl,
    decode_single_float ?_⟩
  · rw [Json.depth_nested]
    decide
  · decide +kernel
  · decide +kernel

end CacheWatch.Packet
