import BenchScope.Device.Basic
import BenchScope.Link.Script
import BenchScope.Link.Traced
import BenchScope.Proofs.Waveform.Plan

namespace BenchScope.Device

open Waveform Waveform.Settings

/-! Generating waves. A call that sets something is accepted or refused as a whole, and as soon as a
frequency has been accepted there is a plan for the device. Before that the device is left alone. -/

section

variable {σ : Type} [Link σ]

private theorem generateWaves_of_frequency {settings : Settings Float}
    (missing : settings.frequency = none) (device : Device σ) :
    (generateWaves settings).apply device = (.error .frequencyNotSet, device) := by
  have unplanned : Plan.ofSettings settings = .error .frequencyNotSet := by
    rw [Plan.ofSettings, missing]
    rfl
  rw [generateWaves, Action.apply_bind, unplanned]
  rfl

/-- Whatever is set, in whatever order, and whatever of it is refused. -/
theorem waves_adjusted :
    (∀ (α : Type) [Scalar α] (settings : Settings α) (setter : Setter α), settings.Obeys setter) ∧
    (∀ setters : List (Setter Rat), SetsFrequency setters →
      ∃ plan, Plan.ofSettings (adjusted setters) = .ok plan ∧ plan.Suits (adjusted setters)) ∧
    ∀ setters : List (Setter Float), ¬ SetsFrequency setters →
      ∀ device : Device (Traced σ),
        (generateWaves (adjusted setters)).apply device = (.error .frequencyNotSet, device) := by
  refine ⟨fun _ _ settings setter => settings.obeys setter, fun setters sets => ?_,
    fun setters silent device => ?_⟩
  · exact Plan.exists_of_inRange (inRange_adjusted setters)
      ((frequency_adjusted_iff setters).mpr sets)
  · refine generateWaves_of_frequency ?_ device
    exact not_not.mp fun chosen => silent ((frequency_adjusted_iff setters).mp chosen)

end

def slowSetters : List (Setter Rat) :=
  [.frequency 10, .duty "SQ1" 100, .phase "SQ4" 360, .frequency 5]

def idleSetters : List (Setter Float) :=
  [.frequency 5, .duty "SQ1" 50, .duty "CH1" 50, .frequency (0 / 0)]

def mute : Device (Traced Script) := { version := "PSLab V6", host := { link := { link := {} } } }

theorem waves_adjusted_slow :
    SetsFrequency slowSetters ∧
      (∃ plan, Plan.ofSettings (adjusted slowSetters) = .ok plan ∧
        plan.Suits (adjusted slowSetters)) ∧
      ¬ SetsFrequency idleSetters ∧
      (generateWaves (adjusted idleSetters)).apply mute = (.error .frequencyNotSet, mute) := by
  have sets : SetsFrequency slowSetters :=
    (frequency_adjusted_iff _).mp (Option.isSome_iff_ne_none.mp (by decide +kernel))
  have silent : ¬ SetsFrequency idleSetters := by
    rw [← frequency_adjusted_iff, not_not]
    exact Option.isNone_iff_eq_none.mp (by decide +kernel)
  rcases waves_adjusted (σ := Script) with ⟨-, planned, refused⟩
  exact ⟨sets, planned _ sets, silent, refused _ silent mute⟩

end BenchScope.Device
