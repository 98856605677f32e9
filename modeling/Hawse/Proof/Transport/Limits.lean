import Hawse.Transport.Tcp

namespace Hawse.Proof.Transport
open Hawse.Transport

theorem call_of_consistent {cfg : Yamux.Config} {setter : Yamux.Setter} (consistent : (cfg.set setter).consistent) :
    cfg.call setter = some (cfg.set setter) := by
  unfold Yamux.Config.call
  split
  · rfl
  · exact if_pos consistent

theorem calls_of_consistent {cfg : Yamux.Config} {calls : List Yamux.Setter}
    (consistent : ∀ k < calls.length, ((calls.take (k + 1)).foldl Yamux.Config.set cfg).consistent) :
    calls.foldlM Yamux.Config.call cfg = some (calls.foldl Yamux.Config.set cfg) := by
  induction calls generalizing cfg with
  | nil => rfl
  | cons setter calls ih =>
      rw [List.foldlM_cons, call_of_consistent (consistent 0 (Nat.zero_lt_succ _))]
      exact ih fun k called => consistent (k + 1) (Nat.succ_lt_succ called)

section Limits
variable (target : Target) (tuning : Tuning)

theorem defaultCredit_fits : Yamux.defaultCredit * (target.usizeMax / Yamux.defaultCredit) < target.usizeMax := by
  cases target <;> decide

theorem cast_u32 (n : UInt32) : target.cast n.toNat = n.toNat := by
  have small := n.toNat_lt
  cases target <;> exact Nat.mod_eq_of_lt (by simp only [Target.usizeMax]; omega)

theorem yamuxStreams_eq :
    yamuxStreams target tuning = min (2 * tuning.maxStreams.toNat) (target.usizeMax / Yamux.defaultCredit) := by
  have inside : target.usizeMax / Yamux.defaultCredit ≤ target.usizeMax := Nat.div_le_self _ _
  rw [yamuxStreams, cast_u32, Target.saturatingMul, headroom, Nat.mul_comm]
  omega

theorem guarantee_lt : yamuxStreams target tuning * Yamux.defaultCredit < target.usizeMax := by
  have capped : yamuxStreams target tuning ≤ target.usizeMax / Yamux.defaultCredit := Nat.min_le_right _ _
  calc yamuxStreams target tuning * Yamux.defaultCredit
      ≤ target.usizeMax / Yamux.defaultCredit * Yamux.defaultCredit := Nat.mul_le_mul_right _ capped
    _ = Yamux.defaultCredit * (target.usizeMax / Yamux.defaultCredit) := Nat.mul_comm _ _
    _ < target.usizeMax := defaultCredit_fits target

theorem yamuxWindow_eq : yamuxWindow target tuning =
    min (yamuxStreams target tuning * Yamux.defaultCredit + tuning.connectionWindow.toNat) target.usizeMax := by
  have guarantee := guarantee_lt target tuning
  rw [yamuxWindow, Target.saturatingMul, min_eq_left guarantee.le, Target.saturatingAdd]
  split <;> omega

theorem guarantee_le_window : yamuxStreams target tuning * Yamux.defaultCredit ≤ yamuxWindow target tuning := by
  rw [yamuxWindow_eq]
  exact le_min (Nat.le_add_right _ _) (guarantee_lt target tuning).le

theorem guarantee_lt_window (grows : 0 < tuning.connectionWindow) :
    yamuxStreams target tuning * Yamux.defaultCredit < yamuxWindow target tuning := by
  rw [yamuxWindow_eq]
  exact lt_min (Nat.lt_add_of_pos_right grows) (guarantee_lt target tuning)

theorem consistent_after (default : Yamux.Config) (k : Nat) (called : k < (setters target tuning).length) :
    (((setters target tuning).take (k + 1)).foldl Yamux.Config.set default).consistent := by
  have covered := guarantee_le_window target tuning
  have few : k < 4 := called
  interval_cases k <;> simp [setters, Yamux.Config.set, Yamux.Config.consistent, covered]

theorem config_eq (default : Yamux.Config) : config target tuning default =
    some ⟨some (yamuxWindow target tuning), yamuxStreams target tuning, Record.maxData + 3⟩ :=
  calls_of_consistent (consistent_after target tuning default)

end Limits

theorem yamux_limits_consistent (target : Target) (default : Yamux.Config) (tuning : Tuning) :
    (yamuxStreams target tuning * Yamux.defaultCredit ≤ target.usizeMax ∧
      yamuxWindow target tuning ≤ target.usizeMax ∧ Record.maxData + 3 ≤ target.usizeMax) ∧
    (∀ k < (setters target tuning).length,
      (((setters target tuning).take (k + 1)).foldl Yamux.Config.set default).consistent) ∧
    ∃ cfg window, config target tuning default = some cfg ∧ cfg.maxConnectionReceiveWindow = some window ∧
      cfg.maxNumStreams = min (2 * tuning.maxStreams.toNat) (target.usizeMax / Yamux.defaultCredit) ∧
      (0 < tuning.connectionWindow → cfg.maxNumStreams * Yamux.defaultCredit < window) := by
  refine ⟨⟨(guarantee_lt target tuning).le, ?_, ?_⟩, consistent_after target tuning default, ?_⟩
  · rw [yamuxWindow_eq]
    exact Nat.min_le_right _ _
  · cases target <;> decide
  · exact ⟨_, _, config_eq target tuning default, rfl, yamuxStreams_eq target tuning, guarantee_lt_window target tuning⟩

end Hawse.Proof.Transport
