import CacheWatch.Monitor
import CacheWatch.Proofs.Channel.Target
import CacheWatch.Proofs.Settings.Server

/-! The address that is shown, compared with the port that is dialled.
The one is completed unless it has a colon anywhere, while the other reads a URL, in which the
colons between brackets belong to the host.
-/
namespace CacheWatch

def NamesPort (host : List Char) (port : Nat) (shown : List Char) : Prop :=
  ∃ digits, digits ≠ [] ∧ (∀ d ∈ digits, d.isDigit) ∧ Text.decimalValue digits = port ∧
    shown = host ++ ':' :: digits

theorem not_namesPort_self (host : List Char) (port : Nat) : ¬ NamesPort host port host := by
  rintro ⟨digits, -, -, -, longer⟩
  exact absurd (List.append_right_eq_self.mp longer.symm) (List.cons_ne_nil _ _)

theorem namesPort_toDigits (host : List Char) (port : Nat) :
    NamesPort host port (host ++ ':' :: Nat.toDigits 10 port) :=
  ⟨_, Nat.toDigits_ne_nil, Json.isDigit_toDigits port, Json.decimalValue_toDigits port, rfl⟩

theorem HostText.colon_mem_iff {host : List Char} (written : HostText host) {read : Url.Host}
    (found : Url.Host.ofChars? host = .ok read) : ':' ∈ host ↔ host.head? = some '[' := by
  cases written with
  | name present plain =>
    have free : ':' ∉ host := fun colon => (Url.isNameText_iff.mp (plain ':' colon)).2.1 rfl
    have unbracketed : host.head? ≠ some '[' := fun first =>
      (Url.isNameText_iff.mp (plain '[' (List.mem_of_mem_head? first))).2.2.1 rfl
    exact iff_of_false free unbracketed
  | @bracketed inner plain =>
    refine iff_of_true ?_ rfl
    have ends : (inner ++ [']']).getLast? = some ']' := List.getLast?_concat
    simp only [Url.Host.ofChars?, List.cons_append, Url.Host.ofBracketed?, if_pos ends,
      List.dropLast_concat] at found
    cases groups : Url.Ipv6.groups? inner with
    | none => rw [groups] at found; cases found
    | some _ => simp [Url.Ipv6.colon_mem_of_groups? groups]

theorem ServerSettings.path_of_validate {settings : ServerSettings}
    (accepted : settings.validate = .ok ()) : settings.path.toList.head? = some '/' :=
  (validates_iff.mp accepted).path

theorem exists_tail {path : List Char} (absolute : path.head? = some '/') :
    ∃ tail, (path.reverse.dropWhile (· = '/')).reverse ++ ['/'] = '/' :: tail := by
  obtain ⟨rest, kept⟩ : path.rdropWhile (· = '/') <+: path := List.rdropWhile_prefix _ _
  change ∃ tail, path.rdropWhile (· = '/') ++ ['/'] = '/' :: tail
  cases dropped : path.rdropWhile (· = '/') with
  | nil => exact ⟨[], rfl⟩
  | cons c others =>
    rw [← kept, dropped] at absolute
    cases absolute
    exact ⟨others ++ ['/'], rfl⟩

section Address

variable {settings : ServerSettings} {front back : List Char} {revision : Revision} {url : Url}

theorem dialled_of_channelUrl (a : HostPort) (before : Text.Blank front)
    (behind : Text.Blank back)
    (address : settings.address = String.ofList (front ++ (a.chars ++ back)))
    (accepted : settings.validate = .ok ())
    (dialled : channelUrl settings ⟨none, none⟩ revision = .ok url) :
    Url.Host.ofChars? a.host = .ok url.host ∧ url.dialledPort = a.number settings.secure := by
  obtain ⟨tail, slashed⟩ := exists_tail (ServerSettings.path_of_validate accepted)
  have target : targetChars settings ⟨none, none⟩ = a.chars ++ '/' :: tail := by
    rw [targetChars_eq a before behind (address ▸ .configured _) (.configured _), slashed]
  rw [channelUrl, target] at dialled
  split at dialled
  · cases dialled
  · next read found =>
    obtain ⟨host, port, named, numbered, rfl⟩ := (Url.ofChars_eq_ok_iff ..).mp found
    cases dialled
    refine ⟨named, ?_⟩
    rw [Url.portOf_portChars] at numbered
    split_ifs at numbered with large standard
    · cases numbered
      exact standard.symm
    · cases numbered
      rfl

theorem Origin.toList_address (a : HostPort) (before : Text.Blank front)
    (behind : Text.Blank back)
    (address : settings.address = String.ofList (front ++ (a.chars ++ back))) :
    (ofSettings settings).address.toList =
      if ':' ∈ a.chars then a.chars
      else a.chars ++ ':' :: Nat.toDigits 10 (Url.defaultPort settings.secure) := by
  have host : (ofSettings settings).host = String.ofList a.chars := by
    rw [ofSettings, Text.trimmed, address, String.toList_ofList,
      Text.trim_append before behind a.solid_chars]
  have completed : (if settings.secure then ":443" else ":80").toList =
      ':' :: Nat.toDigits 10 (Url.defaultPort settings.secure) := by
    cases settings.secure <;> decide
  rw [Origin.address, host, String.toList_ofList, apply_ite String.toList, String.toList_append,
    String.toList_ofList]
  simp only [List.contains_iff_mem]
  exact congrArg (fun shown => if ':' ∈ a.chars then a.chars else a.chars ++ shown) completed

/-- The address names the port that is dialled, except for an IPv6 address without a port. -/
theorem Origin.address_names_port_iff (a : HostPort) (before : Text.Blank front)
    (behind : Text.Blank back)
    (address : settings.address = String.ofList (front ++ (a.chars ++ back)))
    (accepted : settings.validate = .ok ())
    (dialled : channelUrl settings ⟨none, none⟩ revision = .ok url) :
    url.dialledPort = a.number settings.secure ∧
      (NamesPort a.host url.dialledPort (ofSettings settings).address.toList ↔
        a.port.isSome ∨ a.host.head? ≠ some '[') ∧
      (a.port = none → a.host.head? = some '[' →
        (ofSettings settings).address.toList = a.host) := by
  obtain ⟨named, numbered⟩ := dialled_of_channelUrl a before behind address accepted dialled
  have bracketed := a.written.colon_mem_iff named
  have shown := toList_address a before behind address
  refine ⟨numbered, ?_⟩
  rw [numbered]
  obtain ⟨absent, bare⟩ | ⟨ds, stated, present, digits, behindHost⟩ := a.portChars_cases
  · have whole : a.chars = a.host := by rw [HostPort.chars, bare, List.append_nil]
    rw [whole] at shown
    by_cases brackets : a.host.head? = some '['
    · rw [if_pos (bracketed.mpr brackets)] at shown
      rw [shown]
      exact ⟨iff_of_false (not_namesPort_self _ _) (by simp [absent, brackets]), fun _ _ => rfl⟩
    · rw [if_neg (mt bracketed.mp brackets)] at shown
      rw [shown, a.number_of_none absent]
      exact ⟨iff_of_true (namesPort_toDigits _ _) (.inr brackets), fun _ first =>
        absurd first brackets⟩
  · have written : a.chars = a.host ++ ':' :: ds := by rw [HostPort.chars, behindHost]
    rw [written, if_pos (by simp)] at shown
    rw [shown, a.number_of_some stated, stated]
    exact ⟨iff_of_true ⟨ds, present, digits, rfl, rfl⟩ (.inl rfl), fun absent =>
      absurd absent (Option.some_ne_none ds)⟩

end Address

namespace Origin

/-- An IPv6 address with white space around it, and a port with a zero in front. -/
theorem address_names_port_iff_bracketed :
    let settings : ServerSettings := ⟨" [::1]:0443\n", "/ui/socket.io", true, 4, 1000, 10000⟩
    ∃ url, channelUrl settings ⟨none, none⟩ .v4 = .ok url ∧ url.dialledPort = 443 ∧
      NamesPort "[::1]".toList 443 (ofSettings settings).address.toList := by
  intro settings
  have loopback : "::1".toList.all Url.isIpv6Text := by decide
  have written : HostText "[::1]".toList := .bracketed (List.all_eq_true.mp loopback)
  let a : HostPort := ⟨"[::1]".toList, some "0443".toList, written, by simp⟩
  have before : Text.Blank [' '] := by decide
  have behind : Text.Blank ['\n'] := by decide
  have address : settings.address = String.ofList ([' '] ++ (a.chars ++ ['\n'])) := by rfl
  have dialled : channelUrl settings ⟨none, none⟩ .v4 =
      .ok ⟨true, [], [], .ipv6 [0, 0, 0, 0, 0, 0, 0, 1], none,
        ["ui".toList, "socket.io".toList, []], some "EIO=4&transport=websocket".toList, none⟩ := by
    decide +kernel
  obtain ⟨numbered, names, -⟩ :=
    address_names_port_iff a before behind address (by decide +kernel) dialled
  have number : a.number settings.secure = 443 := by rfl
  exact ⟨_, dialled, numbered.trans number, names.mpr (.inl rfl)⟩

/-- The colons between brackets pass for a port. -/
theorem address_without_port :
    let settings : ServerSettings := ⟨"[::1]", "/ui/socket.io", false, 3, 1000, 10000⟩
    HostText "[::1]".toList ∧ settings.validate = .ok () ∧
      ∃ url, channelUrl settings ⟨none, none⟩ .v3 = .ok url ∧ url.dialledPort = 80 ∧
        (ofSettings settings).address = "[::1]" ∧
        ¬ NamesPort "[::1]".toList 80 (ofSettings settings).address.toList := by
  intro settings
  have loopback : "::1".toList.all Url.isIpv6Text := by decide
  have written : HostText "[::1]".toList := .bracketed (List.all_eq_true.mp loopback)
  have dialled : channelUrl settings ⟨none, none⟩ .v3 =
      .ok ⟨false, [], [], .ipv6 [0, 0, 0, 0, 0, 0, 0, 1], none,
        ["ui".toList, "socket.io".toList, []], some "EIO=3&transport=websocket".toList, none⟩ := by
    decide +kernel
  have shown : (ofSettings settings).address = "[::1]" := by decide +kernel
  refine ⟨written, by decide +kernel, _, dialled, rfl, shown, ?_⟩
  rw [shown]
  exact not_namesPort_self _ _

end Origin

end CacheWatch
