import CacheWatch.Event.Envelope
import CacheWatch.Proofs.Event.Payload
import CacheWatch.Proofs.Event.Tag

/-! Which envelopes are accepted, and why the others are refused.
An envelope needs one tag that denotes a kind. Its body decides nothing.
-/
namespace CacheWatch

open Json (Members)

namespace Envelope

/-- The one tag of an envelope, under either key but not under both. -/
def Tagged (members : Members) (tag : Json) : Prop :=
  (members.find? "Kind" = some tag ∧ members.find? "Type" = none) ∨
    (members.find? "Kind" = none ∧ members.find? "Type" = some tag)

def part (members : Members) (key : String) : Json := (members.find? key).getD .null

inductive Refused : Json → Rejection → Prop
  | shape {value : Json} (other : ∀ members, value ≠ .object members) :
      Refused value (.notAnObject value)
  | both {members : Members} {first second : Json} (kind : members.find? "Kind" = some first)
      (type : members.find? "Type" = some second) : Refused (.object members) .repeatedKind
  | untagged {members : Members} (kind : members.find? "Kind" = none)
      (type : members.find? "Type" = none) : Refused (.object members) .missingKind
  | null {members : Members} (tagged : Tagged members .null) :
      Refused (.object members) .missingKind
  | unknown {members : Members} {tag : Json} (tagged : Tagged members tag) (named : tag ≠ .null)
      (meaningless : ∀ kind, ¬ EventKind.Denotes tag kind) :
      Refused (.object members) (.unknownKind tag)

theorem tagged_cases (members : Members) :
    (∃ tag, Tagged members tag) ∨
      (members.find? "Kind" = none ∧ members.find? "Type" = none) ∨
      ∃ first second, members.find? "Kind" = some first ∧ members.find? "Type" = some second := by
  cases kind : members.find? "Kind" with
  | none =>
    cases type : members.find? "Type" with
    | none => exact .inr (.inl ⟨rfl, rfl⟩)
    | some tag => exact .inl ⟨tag, .inr ⟨kind, type⟩⟩
  | some tag =>
    cases type : members.find? "Type" with
    | none => exact .inl ⟨tag, .inl ⟨kind, type⟩⟩
    | some other => exact .inr (.inr ⟨tag, other, rfl, rfl⟩)

theorem ofMembers_both {members : Members} {first second : Json}
    (kind : members.find? "Kind" = some first) (type : members.find? "Type" = some second) :
    ofMembers members = .error .repeatedKind := by
  simp only [ofMembers, kind, type]

theorem ofMembers_untagged {members : Members} (kind : members.find? "Kind" = none)
    (type : members.find? "Type" = none) :
    ofMembers members = .ok ⟨none, part members "Key", part members "Object"⟩ := by
  simp only [ofMembers, kind, type]
  rfl

theorem ofMembers_null {members : Members} (tagged : Tagged members .null) :
    ofMembers members = .ok ⟨none, part members "Key", part members "Object"⟩ := by
  rcases tagged with ⟨kind, type⟩ | ⟨kind, type⟩
  · simp only [ofMembers, kind, type]
    rfl
  · simp only [ofMembers, kind, type]
    rfl

theorem ofMembers_tagged {members : Members} {tag : Json} (tagged : Tagged members tag)
    (named : tag ≠ .null) :
    ofMembers members = .ok ⟨some tag, part members "Key", part members "Object"⟩ := by
  rcases tagged with ⟨kind, type⟩ | ⟨kind, type⟩
  · simp only [ofMembers, kind, type]
    cases tag with
    | null => contradiction
    | _ => rfl
  · simp only [ofMembers, kind, type]
    cases tag with
    | null => contradiction
    | _ => rfl

end Envelope

namespace CacheEvent

open Envelope (Tagged Refused part)

theorem ofJson_denoted {members : Members} {tag : Json} {kind : EventKind}
    (tagged : Tagged members tag) (denotes : EventKind.Denotes tag kind) (now : Instant) :
    ofJson (.object members) now =
      .ok ⟨.ofBody kind (part members "Object"), part members "Key", now⟩ := by
  have named : tag ≠ .null := by
    rintro rfl
    cases denotes
  have found := EventKind.ofJson?_eq_some_iff.mpr denotes
  simp only [ofJson, Envelope.ofJson, Envelope.ofMembers_tagged tagged named, Envelope.classify,
    Envelope.kindOf, found]

theorem ofJson_refused {value : Json} {reason : Rejection} (refused : Refused value reason)
    (now : Instant) : ofJson value now = .error reason := by
  cases refused with
  | shape other =>
    cases value with
    | object members => exact absurd rfl (other members)
    | null => rfl
    | bool _ => rfl
    | integer _ => rfl
    | float _ => rfl
    | string _ => rfl
    | array _ => rfl
  | both kind type => simp only [ofJson, Envelope.ofJson, Envelope.ofMembers_both kind type]
  | untagged kind type =>
    simp only [ofJson, Envelope.ofJson, Envelope.ofMembers_untagged kind type, Envelope.classify]
  | null tagged =>
    simp only [ofJson, Envelope.ofJson, Envelope.ofMembers_null tagged, Envelope.classify]
  | @unknown members tag tagged named meaningless =>
    have absent : EventKind.ofJson? tag = none := by
      refine Option.eq_none_iff_forall_ne_some.mpr fun kind found => ?_
      exact meaningless kind (EventKind.ofJson?_eq_some_iff.mp found)
    simp only [ofJson, Envelope.ofJson, Envelope.ofMembers_tagged tagged named, Envelope.classify,
      Envelope.kindOf, absent]

theorem denoted_or_refused (value : Json) :
    (∃ members tag kind, value = .object members ∧ Tagged members tag ∧
      EventKind.Denotes tag kind) ∨ ∃ reason, Refused value reason := by
  by_cases object : ∃ members, value = .object members
  · obtain ⟨members, rfl⟩ := object
    rcases Envelope.tagged_cases members with ⟨tag, tagged⟩ | ⟨kind, type⟩ | ⟨_, _, kind, type⟩
    · by_cases denotes : ∃ kind, EventKind.Denotes tag kind
      · obtain ⟨kind, denotes⟩ := denotes
        exact .inl ⟨members, tag, kind, rfl, tagged, denotes⟩
      · by_cases null : tag = .null
        · subst null
          exact .inr ⟨_, .null tagged⟩
        · exact .inr ⟨_, .unknown tagged null (not_exists.mp denotes)⟩
    · exact .inr ⟨_, .untagged kind type⟩
    · exact .inr ⟨_, .both kind type⟩
  · exact .inr ⟨_, .shape (not_exists.mp object)⟩

theorem ofJson_eq_ok_iff {value : Json} {now : Instant} {event : CacheEvent} :
    ofJson value now = .ok event ↔
      ∃ members tag, value = .object members ∧ Tagged members tag ∧
        EventKind.Denotes tag event.kind ∧ event.key = part members "Key" ∧
        event.payload = .ofBody event.kind (part members "Object") ∧ event.receivedAt = now := by
  constructor
  · intro accepted
    rcases denoted_or_refused value with ⟨members, tag, kind, rfl, tagged, denotes⟩ | ⟨_, refused⟩
    · rw [ofJson_denoted tagged denotes] at accepted
      cases accepted
      have same : (Payload.ofBody kind (part members "Object")).kind = kind :=
        Payload.ofBody_kind kind _
      refine ⟨members, tag, rfl, tagged, ?_, rfl, ?_, rfl⟩
      · rw [CacheEvent.kind, same]
        exact denotes
      · rw [CacheEvent.kind, same]
    · rw [ofJson_refused refused] at accepted
      contradiction
  · rintro ⟨members, tag, rfl, tagged, denotes, key, payload, receivedAt⟩
    rw [ofJson_denoted tagged denotes, ← payload, ← key, ← receivedAt]

theorem ofJson_eq_error_iff {value : Json} {now : Instant} {reason : Rejection} :
    ofJson value now = .error reason ↔ Refused value reason := by
  refine ⟨fun refused => ?_, fun refused => ofJson_refused refused now⟩
  rcases denoted_or_refused value with ⟨members, tag, kind, rfl, tagged, denotes⟩ | ⟨other, cause⟩
  · rw [ofJson_denoted tagged denotes] at refused
    contradiction
  · rw [ofJson_refused cause] at refused
    cases refused
    exact cause

theorem refused_congr {members other : Members} {reason : Rejection}
    (kind : other.find? "Kind" = members.find? "Kind")
    (type : other.find? "Type" = members.find? "Type")
    (refused : Refused (.object members) reason) : Refused (.object other) reason := by
  cases refused with
  | shape none => exact absurd rfl (none members)
  | both first second => exact .both (kind.trans first) (type.trans second)
  | untagged first second => exact .untagged (kind.trans first) (type.trans second)
  | null tagged => exact .null (by rwa [Tagged, kind, type])
  | unknown tagged named meaningless =>
    exact .unknown (by rwa [Tagged, kind, type]) named meaningless

theorem ofJson_congr {members other : Members} (now : Instant)
    (agree : ∀ key ∈ ["Kind", "Type", "Key"], other.find? key = members.find? key) :
    (ofJson (.object other) now).map (fun event => (event.kind, event.key)) =
      (ofJson (.object members) now).map (fun event => (event.kind, event.key)) := by
  have kind := agree "Kind" (by simp)
  have type := agree "Type" (by simp)
  have key := agree "Key" (by simp)
  rcases denoted_or_refused (.object members) with
    ⟨_, tag, k, same, tagged, denotes⟩ | ⟨reason, refused⟩
  · cases same
    have another : Tagged other tag := by rwa [Tagged, kind, type]
    rw [ofJson_denoted tagged denotes, ofJson_denoted another denotes]
    simp only [Except.map, CacheEvent.kind, Payload.ofBody_kind, part, key]
  · rw [ofJson_refused refused, ofJson_refused (refused_congr kind type refused)]

/-- An envelope is accepted just if it has one tag that denotes a kind, and it is refused for what
its tag lacks. Its body and unknown members have no say. -/
theorem accepted_just_if_denoted (raw : Json) (now : Instant) :
    ((∃ event, ofJson raw now = .ok event) ↔
      ∃ members tag kind, raw = .object members ∧ Tagged members tag ∧
        EventKind.Denotes tag kind) ∧
    (∀ event, ofJson raw now = .ok event ↔
      ∃ members tag, raw = .object members ∧ Tagged members tag ∧
        EventKind.Denotes tag event.kind ∧ event.key = part members "Key" ∧
        event.payload = .ofBody event.kind (part members "Object") ∧ event.receivedAt = now) ∧
    (∀ reason, ofJson raw now = .error reason ↔ Refused raw reason) ∧
    (∀ tag, (Rejection.unknownKind tag).message = "unrecognized event kind " ++ tag.text) ∧
    ∀ members other, raw = .object members →
      (∀ key ∈ ["Kind", "Type", "Key"], Members.find? key other = Members.find? key members) →
      (ofJson (.object other) now).map (fun event => (event.kind, event.key)) =
        (ofJson raw now).map (fun event => (event.kind, event.key)) := by
  refine ⟨⟨?_, ?_⟩, fun event => ofJson_eq_ok_iff, fun reason => ofJson_eq_error_iff,
    fun tag => rfl, ?_⟩
  · rintro ⟨event, accepted⟩
    obtain ⟨members, tag, object, tagged, denotes, _⟩ := ofJson_eq_ok_iff.mp accepted
    exact ⟨members, tag, event.kind, object, tagged, denotes⟩
  · rintro ⟨members, tag, kind, rfl, tagged, denotes⟩
    exact ⟨_, ofJson_denoted tagged denotes now⟩
  · rintro members other rfl agree
    exact ofJson_congr now agree

/-- A code with a sign, a leading zero and white space is one; the body may be anything. -/
theorem accepted_just_if_denoted_padded_code :
    let raw := Json.object
      [("Key", .integer 7), ("Object", .array []), ("Type", .string "\t+03 ")]
    let other : Members := [("Key", .integer 7), ("Legacy", .null), ("Type", .string "\t+03 ")]
    (∃ event, ofJson raw ⟨0, 0⟩ = .ok event) ∧
      (ofJson (.object other) ⟨0, 0⟩).map (fun event => (event.kind, event.key)) =
        (ofJson raw ⟨0, 0⟩).map fun event => (event.kind, event.key) := by
  intro raw other
  have outcome := accepted_just_if_denoted raw ⟨0, 0⟩
  have denotes : EventKind.Denotes (.string "\t+03 ") .blacklist :=
    EventKind.ofJson?_eq_some_iff.mp (by decide)
  refine ⟨outcome.1.mpr ⟨_, _, .blacklist, rfl, .inr ⟨rfl, rfl⟩, denotes⟩, ?_⟩
  exact outcome.2.2.2.2 _ other rfl (by simp [other, Members.find?])

end CacheEvent
end CacheWatch
