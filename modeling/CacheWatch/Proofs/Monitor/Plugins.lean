import CacheWatch.Proofs.Monitor.Run

/-! What a state says about the plugins of a server after several handshakes.
A handshake with plugins leaves the flag alone, and one without them leaves the list, so that each
of the two facts can be older than the version.
-/
namespace CacheWatch.Monitor

structure Describes (m : Monitor) (info : SystemInfo) : Prop where
  version : m.version = info.version
  unavailable : m.pluginsUnavailable = !info.pluginsSupported
  plugins : m.plugins = if info.pluginsSupported then info.plugins else []

structure Recalls (run : List (Instant × Message)) (m : Monitor) : Prop where
  plugins : m.plugins = (((systems run).find? (·.pluginsSupported)).map SystemInfo.plugins).getD []
  unavailable : m.pluginsUnavailable = (systems run).any (!·.pluginsSupported)

variable {run : List (Instant × Message)} {m : Monitor}

theorem onSystem_supported (m : Monitor) {info : SystemInfo} (supported : info.pluginsSupported) :
    m.onSystem info = { m with version := info.version, plugins := info.plugins } := by
  rw [onSystem, if_pos supported]

theorem onSystem_unsupported (m : Monitor) {info : SystemInfo}
    (unsupported : info.pluginsSupported = false) :
    m.onSystem info = { m with version := info.version, pluginsUnavailable := true } := by
  rw [onSystem, if_neg (by simp [unsupported])]

theorem onSystem_describes_supported (m : Monitor) {info : SystemInfo}
    (supported : info.pluginsSupported) :
    Describes (m.onSystem info) info ↔ m.pluginsUnavailable = false := by
  rw [onSystem_supported m supported]
  constructor
  · intro shown
    rw [← Bool.not_true, ← supported]
    exact shown.unavailable
  · intro clear
    refine ⟨rfl, ?_, ?_⟩
    · rw [supported]
      exact clear
    · rw [if_pos supported]

theorem onSystem_describes_unsupported (m : Monitor) {info : SystemInfo}
    (unsupported : info.pluginsSupported = false) :
    Describes (m.onSystem info) info ↔ m.plugins = [] := by
  have listed : (if info.pluginsSupported then info.plugins else []) = [] :=
    if_neg (Bool.eq_false_iff.mp unsupported)
  rw [onSystem_unsupported m unsupported]
  constructor
  · intro shown
    exact shown.plugins.trans listed
  · intro empty
    refine ⟨rfl, ?_, ?_⟩
    · rw [unsupported]
      rfl
    · rw [listed]
      exact empty

theorem apply_recalls (recalls : Recalls run m) (now : Instant) (message : Message) :
    Recalls ((now, message) :: run) (m.apply now message).1 := by
  cases message with
  | connecting attempt => exact { recalls with }
  | connected => exact { recalls with }
  | disconnected reason => exact { recalls with }
  | rateLimit allocation => exact { recalls with }
  | cache raw =>
    cases outcome : CacheEvent.ofJson raw now with
    | ok event =>
      rw [apply_accepted m outcome]
      exact { recalls with }
    | error reason =>
      rw [apply_rejected m outcome]
      exact { recalls with }
  | system info =>
    -- Each kind of handshake writes one of the two facts, and the other one is recalled.
    have latest : systems ((now, .system info) :: run) = info :: systems run := rfl
    rw [apply]
    cases supported : info.pluginsSupported with
    | true =>
      rw [onSystem_supported m supported]
      constructor
      · rw [latest, List.find?_cons_of_pos supported]
        rfl
      · rw [latest, List.any_cons, supported, recalls.unavailable]
        rfl
    | false =>
      rw [onSystem_unsupported m supported]
      constructor
      · rw [latest, List.find?_cons_of_neg (by simp [supported]), ← recalls.plugins]
      · rw [latest, List.any_cons, supported]
        rfl

theorem applyAll_recalls (origin : Origin) (capacity : Nat)
    (messages : List (Instant × Message)) :
    Recalls messages.reverse ((start origin capacity).applyAll messages) :=
  applyAll_keeps ⟨rfl, rfl⟩ apply_recalls messages

/-- The flag is kept from any handshake without plugins, and the list from the last one with
plugins. A handshake is shown as it is just if neither of them contradicts it. -/
theorem handshake_shown_iff (origin : Origin) (capacity : Nat)
    (earlier : List (Instant × Message)) (info : SystemInfo) :
    let supporting := (systems earlier).filter (·.pluginsSupported)
    let before := (start origin capacity).applyAll earlier
    let m := before.onSystem info
    m.version = info.version ∧
      m.pluginsUnavailable =
        (!info.pluginsSupported || (systems earlier).any (!·.pluginsSupported)) ∧
      m.plugins = (if info.pluginsSupported then info.plugins
        else (supporting.getLast?.map SystemInfo.plugins).getD []) ∧
      (Describes m info ↔
        if info.pluginsSupported then ∀ s ∈ systems earlier, s.pluginsSupported = true
        else ∀ s ∈ supporting.getLast?, s.plugins = []) := by
  intro supporting before m
  have recalls : Recalls earlier.reverse before := applyAll_recalls origin capacity earlier
  have reversed : systems earlier.reverse = (systems earlier).reverse := List.filterMap_reverse
  have unavailable := recalls.unavailable
  have plugins := recalls.plugins
  rw [reversed, List.any_reverse] at unavailable
  rw [reversed, ← List.head?_filter, List.filter_reverse, List.head?_reverse] at plugins
  cases supported : info.pluginsSupported with
  | true =>
    have after : m = _ := onSystem_supported before supported
    refine ⟨congrArg version after, ?_, congrArg Monitor.plugins after, ?_⟩
    · exact (congrArg pluginsUnavailable after).trans unavailable
    · rw [onSystem_describes_supported before supported, unavailable, List.any_eq_false]
      simp
  | false =>
    have after : m = _ := onSystem_unsupported before supported
    refine ⟨congrArg version after, congrArg pluginsUnavailable after, ?_, ?_⟩
    · exact (congrArg Monitor.plugins after).trans plugins
    · rw [onSystem_describes_unsupported before supported, plugins]
      cases supporting.getLast? with
      | none => simp
      | some last => simp

/-- A server that gains plugins is still shown without them, and one that loses them keeps their
names. -/
theorem handshake_shown_otherwise :
    let bare : SystemInfo := ⟨"2.0.0", false, [⟨"redis", "1.0.0"⟩]⟩
    let extended : SystemInfo := ⟨"2.0.0", true, [⟨"redis", "1.0.0"⟩]⟩
    let fresh := start ⟨"127.0.0.1:36623", false⟩ 50
    ¬ Describes ((fresh.applyAll [(⟨0, 0⟩, .system bare)]).onSystem extended) extended ∧
      ¬ Describes ((fresh.applyAll [(⟨0, 0⟩, .system extended)]).onSystem bare) bare := by
  refine ⟨fun shown => ?_, fun shown => ?_⟩
  · exact absurd shown.unavailable (by decide)
  · exact absurd shown.plugins (by decide)

end CacheWatch.Monitor
