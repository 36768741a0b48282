import CacheWatch.Channel.Transport
import CacheWatch.Proofs.Channel.Target
import CacheWatch.Proofs.Settings.Server
import CacheWatch.Settings.Load

/-! Which settings are loaded, and what those who use them can rely on.
The settings of a file are checked before the overrides are put in, and once more with them: an
override does not mend a file, and a bad one leaves no settings at all.
-/
namespace CacheWatch

structure ServerSettings.Typed (s : ServerSettings) : Prop where
  revision : Word.fits 8 s.revision
  initialDelay : Word.fits 64 s.initialDelay
  maxDelay : Word.fits 64 s.maxDelay

namespace Settings

structure Typed (s : Settings) : Prop where
  server : s.server.Typed
  capacity : Word.fits 64 s.capacity

section Document

variable {α : Type} {convert : Toml → Option α} {key : String} {members : Toml.Members}
  {value : Toml}

theorem field_cases {default a : α} (read : field convert key default members = some a) :
    a = default ∨ ∃ value, convert value = some a := by
  unfold field at read
  split at read
  · exact .inl (Option.some.inj read).symm
  · next value _ => exact .inr ⟨value, read⟩

theorem fits_of_word? {bits n : Nat} (read : word? bits value = some n) : Word.fits bits n := by
  unfold word? at read
  split at read
  · split_ifs at read with small
    cases read
    exact (Bool.and_eq_true_iff.mp small).2
  · cases read

theorem fits_of_field {bits default n : Nat} (known : Word.fits bits default)
    (read : field (word? bits) key default members = some n) : Word.fits bits n := by
  obtain rfl | ⟨_, read⟩ := field_cases read
  · exact known
  · exact fits_of_word? read

theorem default_typed : default.Typed := ⟨⟨by decide, by decide, by decide⟩, by decide⟩

theorem typed_of_server? {s : ServerSettings} (read : server? value = some s) : s.Typed := by
  simp only [server?, Option.bind_eq_bind, Option.bind_eq_some_iff] at read
  obtain ⟨members, -, address, -, path, -, secure, -, revision, spoken, initialDelay, first,
    maxDelay, last, is⟩ := read
  cases is
  exact ⟨fits_of_field default_typed.server.revision spoken,
    fits_of_field default_typed.server.initialDelay first,
    fits_of_field default_typed.server.maxDelay last⟩

theorem fits_of_capacity? {n : Nat} (read : capacity? value = some n) : Word.fits 64 n := by
  simp only [capacity?, Option.bind_eq_bind, Option.bind_eq_some_iff] at read
  obtain ⟨members, -, held⟩ := read
  exact fits_of_field default_typed.capacity held

theorem typed_of_text {content : String} {s : Settings} (read : ofText? content = some s) :
    s.Typed := by
  obtain ⟨members, -, read⟩ := Option.bind_eq_some_iff.mp read
  simp only [ofMembers?, Option.bind_eq_bind, Option.bind_eq_some_iff] at read
  obtain ⟨server, served, capacity, held, logLevel, -, is⟩ := read
  cases is
  constructor
  · obtain rfl | ⟨_, read⟩ := field_cases served
    · exact default_typed.server
    · exact typed_of_server? read
  · obtain rfl | ⟨_, read⟩ := field_cases held
    · exact default_typed.capacity
    · exact fits_of_capacity? read

end Document

/-- The text of a file denotes settings that are valid without any override. -/
inductive Holds : SettingsFile → Settings → Prop where
  | text {content : String} {s : Settings} (read : ofText? content = some s)
      (valid : s.server.validate = .ok ()) : Holds (.text content) s

/-- The settings that overrides are put into. Only the file at the default place may be absent. -/
inductive Chosen : Option PlacedFile → PlacedFile → Settings → Prop where
  | given {file placed : PlacedFile} {s : Settings} (holds : Holds file.file s) :
      Chosen (some file) placed s
  | placed {placed : PlacedFile} {s : Settings} (holds : Holds placed.file s) :
      Chosen none placed s
  | absent {placed : PlacedFile} {reason : String} (missing : placed.file = .absent reason) :
      Chosen none placed default

structure Overridden (o : Overrides) (base s : Settings) : Prop where
  address : Given o.address base.server.address s.server.address
  path : Given o.path base.server.path s.server.path
  secure : s.server.secure = base.server.secure
  revision : s.server.revision = base.server.revision
  initialDelay : s.server.initialDelay = base.server.initialDelay
  maxDelay : s.server.maxDelay = base.server.maxDelay
  capacity : s.capacity = base.capacity
  logLevel : s.logLevel = base.logLevel

variable {given : Option PlacedFile} {placed : PlacedFile} {o : Overrides} {base s : Settings}

theorem ofFile_eq_ok_iff {path : String} {file : SettingsFile} :
    ofFile path file = .ok s ↔ Holds file s := by
  constructor
  · intro loaded
    unfold ofFile at loaded
    split at loaded
    · cases loaded
    · cases loaded
    · split at loaded
      · cases loaded
      · next settings read =>
        split at loaded
        · cases loaded
        · next clean =>
          cases loaded
          exact .text read (ServerSettings.validate_eq_ok_iff.mpr clean)
  · rintro ⟨read, valid⟩
    simp only [ofFile, read, ServerSettings.validate_eq_ok_iff.mp valid]

theorem Holds.typed {file : SettingsFile} (holds : Holds file s) : s.Typed := by
  cases holds with
  | text read _ => exact typed_of_text read

theorem Chosen.typed (chosen : Chosen given placed base) : base.Typed := by
  cases chosen with
  | given holds => exact holds.typed
  | placed holds => exact holds.typed
  | absent _ => exact default_typed

theorem Holds.validates {file : SettingsFile} (holds : Holds file s) :
    s.server.validate = .ok () := by
  cases holds with
  | text _ valid => exact valid

theorem Chosen.validates (chosen : Chosen given placed base) :
    base.server.validate = .ok () := by
  cases chosen with
  | given holds => exact holds.validates
  | placed holds => exact holds.validates
  | absent _ => exact ServerSettings.default_validates

theorem mapError_eq_ok_iff {ε ε' α : Type} {f : ε → ε'} {e : Except ε α} {a : α} :
    e.mapError f = .ok a ↔ e = .ok a := by
  cases e <;> simp [Except.mapError]

theorem map_eq_ok_iff {ε α β : Type} {f : α → β} {e : Except ε α} {b : β} :
    e.map f = .ok b ↔ ∃ a, e = .ok a ∧ f a = b := by
  cases e <;> simp [Except.map]

theorem ofDefaultFile_eq_ok_iff {path : String} {file : SettingsFile} :
    ofDefaultFile path file = .ok s ↔
      Holds file s ∨ (∃ reason, file = .absent reason) ∧ s = default := by
  cases file with
  | absent reason =>
    have empty : ¬ Holds (.absent reason) s := nofun
    simp [ofDefaultFile, empty, eq_comm]
  | unreadable reason => simp [ofDefaultFile, ofFile_eq_ok_iff]
  | text content => simp [ofDefaultFile, ofFile_eq_ok_iff]

theorem source_eq_ok_iff : source given placed = .ok base ↔ Chosen given placed base := by
  cases given with
  | some file =>
    rw [source, mapError_eq_ok_iff, ofFile_eq_ok_iff]
    exact ⟨.given, fun | .given holds => holds⟩
  | none =>
    rw [source, mapError_eq_ok_iff, ofDefaultFile_eq_ok_iff]
    constructor
    · rintro (holds | ⟨⟨reason, missing⟩, rfl⟩)
      · exact .placed holds
      · exact .absent missing
    · rintro (_ | holds | missing)
      · exact .inl holds
      · exact .inr ⟨⟨_, missing⟩, rfl⟩

theorem overridden_override : Overridden o base (base.override o) where
  address := .of_getD _ _
  path := .of_getD _ _
  secure := rfl
  revision := rfl
  initialDelay := rfl
  maxDelay := rfl
  capacity := rfl
  logLevel := rfl

theorem Overridden.eq_override (overridden : Overridden o base s) : s = base.override o := by
  obtain ⟨⟨address, path, secure, revision, initialDelay, maxDelay⟩, capacity, logLevel⟩ := s
  obtain ⟨address, path, rfl, rfl, rfl, rfl, rfl, rfl⟩ := overridden
  rw [override, address.getD_eq, path.getD_eq]

theorem load_of_chosen (chosen : Chosen given placed base) (overridden : Overridden o base s) :
    load given placed o = (s.server.validate.map fun _ => s).mapError .overrides := by
  obtain rfl := overridden.eq_override
  simp only [load, source_eq_ok_iff.mpr chosen, ServerSettings.validate]
  cases (base.override o).server.fault? <;> rfl

theorem load_eq_ok_iff :
    load given placed o = .ok s ↔
      ∃ base, Chosen given placed base ∧ Overridden o base s ∧ s.server.validate = .ok () := by
  constructor
  · intro loaded
    cases found : source given placed with
    | error e =>
      rw [load, found] at loaded
      cases loaded
    | ok base =>
      have chosen := source_eq_ok_iff.mp found
      rw [load_of_chosen chosen overridden_override, mapError_eq_ok_iff] at loaded
      obtain ⟨_, valid, rfl⟩ := map_eq_ok_iff.mp loaded
      exact ⟨base, chosen, overridden_override, valid⟩
  · rintro ⟨base, chosen, overridden, valid⟩
    rw [load_of_chosen chosen overridden, mapError_eq_ok_iff, map_eq_ok_iff]
    exact ⟨(), valid, rfl⟩

theorem load_none (chosen : Chosen given placed base) : load given placed .none = .ok base :=
  load_eq_ok_iff.mpr ⟨base, chosen, overridden_override, chosen.validates⟩

theorem Overridden.typed (overridden : Overridden o base s) (typed : base.Typed) : s.Typed := by
  obtain rfl := overridden.eq_override
  exact ⟨⟨typed.server.revision, typed.server.initialDelay, typed.server.maxDelay⟩, typed.capacity⟩

end Settings

theorem Transport.start_of_revision {settings : ServerSettings}
    (spoken : settings.revision = 3 ∨ settings.revision = 4) (o : TargetOverrides) :
    ∃ revision, Revision.ofNumber? settings.revision = some revision ∧
      ((∃ url, channelUrl settings o revision = .ok url ∧ (start settings o).1.phase = .dialling ∧
          (start settings o).2.messages = [.connecting 1]) ∨
        ∃ e, channelUrl settings o revision = .error e ∧
          (start settings o).2.messages = [.disconnected e.message]) := by
  obtain ⟨revision, known⟩ : ∃ revision, Revision.ofNumber? settings.revision = some revision := by
    rcases spoken with three | four
    · exact ⟨.v3, by rw [three]; rfl⟩
    · exact ⟨.v4, by rw [four]; rfl⟩
  refine ⟨revision, known, ?_⟩
  cases read : channelUrl settings o revision with
  | ok url =>
    have found : target settings o = .ok ⟨url, revision⟩ := by simp only [target, known, read]
    refine .inl ⟨url, rfl, ?_, ?_⟩
    · rw [start, found]
      rfl
    · rw [start, found]
      rfl
  | error e =>
    have failed : target settings o = .error (.url e) := by simp only [target, known, read]
    refine .inr ⟨e, rfl, ?_⟩
    rw [start, failed]
    rfl

namespace Settings

/-- Settings are loaded just if the chosen file holds valid ones, or is absent where it may be, and
they are still valid with the overrides. Whatever is loaded can be used: it fits its words, and
nothing but a URL keeps a transport from dialling. Overrides that are refused leave an error, and
without any the file is loaded as it is. -/
theorem load_accepts_validated (given : Option PlacedFile) (placed : PlacedFile) (o : Overrides)
    (s : Settings) :
    (load given placed o = .ok s ↔
      ∃ base, Chosen given placed base ∧ Overridden o base s ∧ s.server.validate = .ok ()) ∧
    (load given placed o = .ok s →
      s.Typed ∧ s.server.Usable ∧ ∀ c : TargetOverrides,
        ∃ revision, Revision.ofNumber? s.server.revision = some revision ∧
          ((∃ url, channelUrl s.server c revision = .ok url ∧
              (Transport.start s.server c).1.phase = .dialling ∧
              (Transport.start s.server c).2.messages = [.connecting 1]) ∨
            ∃ e, channelUrl s.server c revision = .error e ∧
              (Transport.start s.server c).2.messages = [.disconnected e.message])) ∧
    (∀ base, Chosen given placed base → load given placed .none = .ok base) ∧
    ∀ base fault, Chosen given placed base → Overridden o base s →
      s.server.validate = .error fault → load given placed o = .error (.overrides fault) := by
  refine ⟨load_eq_ok_iff, fun loaded => ?_, fun base => load_none,
    fun base fault chosen overridden refused => ?_⟩
  · obtain ⟨base, chosen, overridden, valid⟩ := load_eq_ok_iff.mp loaded
    have usable := ServerSettings.validates_iff.mp valid
    exact ⟨overridden.typed chosen.typed, usable, Transport.start_of_revision usable.revision⟩
  · rw [load_of_chosen chosen overridden, refused]
    rfl

-- The path of the file is faulty, so the good one is not asked for.
example : load (some ⟨"config.toml", .text "[server]\npath = \"ui\"\n"⟩) ⟨"", .missing⟩
    ⟨none, some "/ui"⟩ = .error (.givenFile "config.toml" (.relativePath "ui")) := by
  decide +kernel

end Settings

end CacheWatch
