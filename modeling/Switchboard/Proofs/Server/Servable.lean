/-
# What the check of the settings leaves open

The check loads the settings and makes the connector.  A run does the same, and then mounts the
connector and forms an address, both from texts that the check does not look at.  So settings that pass
the check may still not be served.  `reaches_socket_iff` says which are, and with which error the
others end.
-/
import Switchboard.Proofs.Http.Mount
import Switchboard.Proofs.Server.Address

namespace Switchboard.Server

open Http (Mountable)

/-- Whether a run has got as far as binding its socket. -/
def ReachesSocket (result : Except RunError Unit) : Prop :=
  result = .ok () ∨ ∃ e, result = .error (.binding e)

/-! ## Ports -/

theorem port_lt_of_ofSource {α : Type} [Record.Source α] {v : α} {s : ServerSettings}
    (h : ServerSettings.ofSource? v = some s) : s.port < 65536 := by
  unfold ServerSettings.ofSource? at h
  split at h
  · rename_i host port mountPath _
    simp only [Option.bind_eq_bind, Option.bind_eq_some_iff, Option.some.injEq] at h
    obtain ⟨_, -, n, hport, _, -, rfl⟩ := h
    cases port with
    | given v =>
        have hread : ServerSettings.port? v = some n := hport
        unfold ServerSettings.port? at hread
        split at hread
        · obtain ⟨hlt, hn⟩ := Option.ite_none_right_eq_some.mp hread
          exact Option.some.inj hn ▸ hlt
        · cases hread
    | unnamed => cases hport
    | beyond => cases hport
  · cases h

/-- The port of settings is a port. -/
theorem port_lt_of_load {env : Settings.Environment} {files : Settings.Files} {s : Settings}
    (h : Settings.load env files = .ok s) : s.server.port < 65536 := by
  unfold Settings.load at h
  split at h
  · cases h
  · rename_i v _
    cases hs : Settings.ofSource? v with
    | none => simp [hs] at h
    | some settings =>
        obtain rfl : settings = s := by simpa [hs] using h
        unfold Settings.ofSource? at hs
        split at hs
        · rename_i server _ _
          simp only [Option.bind_eq_bind, Option.bind_eq_some_iff, Option.some.injEq] at hs
          obtain ⟨server', hserver, _, -, rfl⟩ := hs
          cases server with
          | given v => exact port_lt_of_ofSource hserver
          | unnamed => cases hserver
          | beyond => cases hserver
        · cases hs

/-! ## Runs of settings that pass the check -/

theorem checkWith_eq_ok_iff {s : Settings} :
    (checkWith s).1 = .ok () ↔ ∃ c, connector s = .ok c := by
  unfold checkWith
  cases connector s with
  | error e => simp
  | ok c => simp

/-- Settings that pass the check are served just as far as their path and host allow. -/
theorem runWith_of_connector {s : Settings} {c : Connector} (hc : connector s = .ok c)
    (hport : s.server.port < 65536) (taken : Taken) :
    (¬ Mountable s.server.mountPath → (runWith taken s).1 = .error .mountPoint) ∧
    (Mountable s.server.mountPath → ¬ HostText s.server.host.toList →
      (runWith taken s).1 = .error .address) ∧
    (Mountable s.server.mountPath → HostText s.server.host.toList →
      ReachesSocket (runWith taken s).1) := by
  have hmount : (mount? s c).isSome ↔ Mountable s.server.mountPath := by
    rw [← Http.Mount.ofPath?_isSome_iff, mount?, Option.isSome_map]
  have haddress := address?_isSome_iff hport
  rw [← hmount, ← haddress]
  cases hm : mount? s c with
  | none => simp [runWith, hc, hm]
  | some app =>
      cases ha : address? s.server with
      | none => simp [runWith, hc, hm, ha]
      | some a =>
          have hreaches : ReachesSocket (runWith taken s).1 := by
            simp only [runWith, hc, hm, ha]
            cases bindError? taken a with
            | none => exact .inl rfl
            | some e => exact .inr ⟨e, rfl⟩
          exact ⟨fun h => absurd rfl h, fun _ h => absurd rfl h, fun _ _ => hreaches⟩

section

variable {env : Settings.Environment} {files : Settings.Files}

theorem run_of_check_error (taken : Taken) {e : RunError}
    (h : (check env files).1 = .error e) : (run env files {} taken).1 = .error e := by
  unfold check at h
  unfold run
  cases hload : Settings.load env files with
  | error e' =>
      rw [hload] at h
      exact h
  | ok s =>
      simp only [hload] at h ⊢
      unfold checkWith at h
      cases hc : connector s with
      | error e' =>
          have hrun : runWith taken s = (.error (.credentials e'), []) := by
            simp only [runWith, hc]
          simp only [hc] at h
          exact (congrArg Prod.fst hrun).trans h
      | ok c => simp [hc] at h

theorem check_error_cases {e : RunError} (h : (check env files).1 = .error e) :
    (∃ why, e = .settings why) ∨ ∃ why, e = .credentials why := by
  unfold check at h
  cases hload : Settings.load env files with
  | error why =>
      simp only [hload, Except.error.injEq] at h
      exact .inl ⟨why, h.symm⟩
  | ok s =>
      simp only [hload] at h
      unfold checkWith at h
      cases hc : connector s with
      | error why =>
          simp only [hc, Except.error.injEq] at h
          exact .inr ⟨why, h.symm⟩
      | ok c => simp [hc] at h

/-- What a run makes of settings that pass the check. -/
theorem run_of_check_ok (taken : Taken) (h : (check env files).1 = .ok ()) :
    ∃ s, Settings.load env files = .ok s ∧
      (¬ Mountable s.server.mountPath → (run env files {} taken).1 = .error .mountPoint) ∧
      (Mountable s.server.mountPath → ¬ HostText s.server.host.toList →
        (run env files {} taken).1 = .error .address) ∧
      (Mountable s.server.mountPath → HostText s.server.host.toList →
        ReachesSocket (run env files {} taken).1) := by
  unfold check at h
  unfold run
  cases hload : Settings.load env files with
  | error e => simp [hload] at h
  | ok s =>
      simp only [hload] at h ⊢
      obtain ⟨c, hc⟩ := checkWith_eq_ok_iff.mp h
      exact ⟨s, rfl, runWith_of_connector hc (port_lt_of_load hload) taken⟩

end

/-- A run without overrides gets as far as binding its socket just if the settings pass the check,
their path can be a mount point and their host is an IP address.  If the check fails, the run ends
with the same error; if it passes, the run ends before the socket with an error about the path or
one about the host. -/
theorem reaches_socket_iff (env : Settings.Environment) (files : Settings.Files) (taken : Taken) :
    (ReachesSocket (run env files {} taken).1 ↔ (check env files).1 = .ok () ∧
      ∃ s, Settings.load env files = .ok s ∧ Mountable s.server.mountPath ∧
        HostText s.server.host.toList) ∧
    ((run env files {} taken).1 = .error .mountPoint ↔ (check env files).1 = .ok () ∧
      ∃ s, Settings.load env files = .ok s ∧ ¬ Mountable s.server.mountPath) ∧
    ((run env files {} taken).1 = .error .address ↔ (check env files).1 = .ok () ∧
      ∃ s, Settings.load env files = .ok s ∧ Mountable s.server.mountPath ∧
        ¬ HostText s.server.host.toList) ∧
    ∀ e, (check env files).1 = .error e → (run env files {} taken).1 = .error e := by
  cases hcheck : (check env files).1 with
  | error e =>
      have hrun := run_of_check_error taken hcheck
      rcases check_error_cases hcheck with ⟨why, rfl⟩ | ⟨why, rfl⟩ <;>
        simp [hrun, ReachesSocket]
  | ok _ =>
      obtain ⟨s, hload, hpath, hhost, hreach⟩ := run_of_check_ok taken hcheck
      by_cases hm : Mountable s.server.mountPath
      · by_cases hh : HostText s.server.host.toList
        · rcases hreach hm hh with hrun | ⟨why, hrun⟩ <;>
            simp [hrun, hload, hm, hh, ReachesSocket]
        · simp [hhost hm hh, hload, hm, hh, ReachesSocket]
      · simp [hpath hm, hload, hm, ReachesSocket]

/-- A token and the name of a host, and nothing else. -/
def namedHost : Settings.Environment :=
  [("PARLEY_SLACK__SLACK_TOKEN", "xoxb-env"), ("PARLEY_SERVER__HOST", "localhost")]

/-- Settings whose host is a name pass the check, and are not served. -/
theorem named_host_passes_check :
    (check namedHost []).1 = .ok () ∧ (run namedHost [] {} []).1 = .error .address ∧
      ¬ ReachesSocket (run namedHost [] {} []).1 := by
  have hcheck : (check namedHost []).1 = .ok () := by
    have hpass : (check namedHost []).1.toOption = some () := by decide +kernel
    cases h : (check namedHost []).1 with
    | error e => rw [h] at hpass; cases hpass
    | ok _ => rfl
  obtain ⟨s, hload, -, hhost, -⟩ := run_of_check_ok [] hcheck
  have hserver : s.server = ⟨"localhost", 5005, "/webhooks/slack"⟩ := by
    have hread : (Settings.load namedHost []).toOption.map Settings.server
        = some ⟨"localhost", 5005, "/webhooks/slack"⟩ := by decide +kernel
    rw [hload] at hread
    exact Option.some.inj hread
  have hmount : Mountable s.server.mountPath := by
    rw [hserver, ← Http.Mount.ofPath?_isSome_iff]
    decide +kernel
  have hname : ¬ HostText s.server.host.toList := by
    rw [← address?_isSome_iff (port_lt_of_load hload), hserver]
    decide +kernel
  have hrun := hhost hmount hname
  exact ⟨hcheck, hrun, by simp [hrun, ReachesSocket]⟩

end Switchboard.Server
