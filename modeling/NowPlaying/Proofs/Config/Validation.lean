import Mathlib.Data.Option.Basic
import NowPlaying.Config
import NowPlaying.Proofs.NameMap
import NowPlaying.Proofs.Template.Compilation

/-!
# Valid configurations

A configuration is valid when none of its parts breaks a rule. The rule on the length of presets is the one that an engine with the same limit asks of every format, so a preset of a valid configuration is never too long for it.
-/

namespace NowPlaying.Config

theorem violation?_eq_none_iff {config : Config} :
    config.violation? = none ↔ limitViolation? config.limit = none ∧ levelViolation? config.level = none ∧
      (∀ entry ∈ config.aliases.entries, aliasViolation? entry.1 entry.2 = none) ∧
      ∀ entry ∈ config.presets.entries, presetViolation? config.limit entry.1 entry.2 = none := by
  simp only [violation?, Option.orElse_eq_none, List.findSome?_eq_none_iff]

theorem lengthViolation?_eq_none_iff {limit : Option Nat} {name format : String} :
    lengthViolation? limit name format = none ↔ lengthError? limit format = none := by
  unfold lengthViolation? lengthError?
  cases limit with
  | none => simp only
  | some limit => simp only [ite_eq_right_iff, reduceCtorEq]

theorem lengthViolation?_of_presetViolation? {limit : Option Nat} {name format : String}
    (h : presetViolation? limit name format = none) : lengthViolation? limit name format = none := by
  rw [presetViolation?] at h
  split at h
  · contradiction
  · split at h
    · contradiction
    · exact h

theorem lengthError?_of_valid {config : Config} (h : config.violation? = none) {name format : String}
    (hpreset : config.preset? name = some format) : lengthError? config.limit format = none := by
  have hvalid := (violation?_eq_none_iff.mp h).2.2.2 (name, format) (NameMap.get?_eq_some_iff.mp hpreset)
  exact lengthViolation?_eq_none_iff.mp (lengthViolation?_of_presetViolation? hvalid)

end NowPlaying.Config
