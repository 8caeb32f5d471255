import RMX2020.Doze.Utils

/-!
# Whose settings decide

`checkDozeService` starts or stops the service of the foreground user, and reads that user's
always-on setting, but it reads doze and the pick-up type of the user it runs for. The boot receiver
and the settings fragment of any user run it. `decided_by_foreground_iff` says when the decision is
nonetheless the one the foreground user's settings ask for, and that no context but the foreground
user's own keeps other users' settings out of it.
-/

namespace RMX2020.Doze

open Utils

/-- Run for user `v`, the check treats the foreground user's service as that user's settings ask. -/
def ActsForForeground (v : UserId) (w : Android) : Prop :=
  checkDozeService v w =
    if wanted w.settings.currentUser w.settings then startService w else stopService w

/-- Two states store the same for a user. -/
structure AgreeOn (user : UserId) (w w' : Settings) : Prop where
  secure : w.secure user = w'.secure user
  preferences : w.preferences user = w'.preferences user

/-- Run for user `v` while `f` is in the foreground, the check does the same to `f`'s service in any
two states that agree on `f`'s settings. -/
def DecidedBy (f v : UserId) : Prop :=
  ∀ w w' : Android, w.settings.currentUser = f → w'.settings.currentUser = f →
    AgreeOn f w.settings w'.settings →
      ((checkDozeService v w).dozeService f).started =
        ((checkDozeService v w').dozeService f).started

theorem startService_ne_stopService (w : Android) : startService w ≠ stopService w := by
  intro h
  have hstarted := congrArg (fun w' => (w'.dozeService w.settings.currentUser).started) h
  simp only [startService, stopService, Function.update_self] at hstarted
  have hstart := ServiceRecord.started_ite (w.dozeService w.settings.currentUser) true
  have hstop := ServiceRecord.started_ite (w.dozeService w.settings.currentUser) false
  simp only [if_true, Bool.false_eq_true, if_false] at hstart hstop
  rw [hstart, hstop] at hstarted
  cases hstarted

theorem wanted_congr {f : UserId} {w w' : Settings} (h : AgreeOn f w w') :
    wanted f w = wanted f w' := by
  simp only [wanted, isDozeEnabled, Settings.getInt, Settings.getString, h.secure, h.preferences]

/-- The decision is the foreground user's exactly if always-on display is on, which forbids the
service anyway, or both users' doze and pick-up settings come to the same. -/
theorem actsForForeground_iff (v : UserId) (w : Android) :
    ActsForForeground v w ↔
      (isAlwaysOnEnabled w.settings ∨
        (isDozeEnabled v w.settings && isPickUpEnabled v w.settings) =
          (isDozeEnabled w.settings.currentUser w.settings &&
            isPickUpEnabled w.settings.currentUser w.settings)) := by
  have hne := startService_ne_stopService w
  unfold ActsForForeground checkDozeService areGesturesEnabled
  rw [wanted_eq rfl]
  unfold areGesturesEnabled
  generalize isDozeEnabled v w.settings = dozeV
  generalize isPickUpEnabled v w.settings = pickUpV
  generalize isDozeEnabled w.settings.currentUser w.settings = dozeF
  generalize isPickUpEnabled w.settings.currentUser w.settings = pickUpF
  cases isAlwaysOnEnabled w.settings <;> cases dozeV <;> cases pickUpV <;> cases dozeF <;>
    cases pickUpF <;> simp [hne, hne.symm]

/-- A user's own context keeps every other user's settings out. -/
theorem decidedBy_self (f : UserId) : DecidedBy f f := by
  intro w w' hw hw' hagree
  have hwanted : ∀ w : Android, w.settings.currentUser = f →
      ((checkDozeService f w).dozeService f).started = wanted f w.settings := by
    rintro w rfl
    rw [checkDozeService_started, wanted_eq rfl]
  rw [hwanted w hw, hwanted w' hw', wanted_congr hagree]

/-- Everyone has set the pick-up gesture, or user `f` alone has. -/
def pickUpSet (f : UserId) (everyone : Bool) : Android :=
  { settings :=
      { secure := fun _ _ => none
        preferences := fun user _ => if user = f ∨ everyone then some "1" else none
        currentUser := f }
    dozeService := fun _ => {} }

theorem pickUpSet_started {f v : UserId} (hne : v ≠ f) (everyone : Bool) :
    ((checkDozeService v (pickUpSet f everyone)).dozeService f).started = everyone := by
  have hstarted := checkDozeService_started v (pickUpSet f everyone)
  cases everyone <;> simpa [pickUpSet, isDozeEnabled, isAlwaysOnEnabled, areGesturesEnabled,
    isPickUpEnabled, Settings.getInt, Settings.getString, hne] using hstarted

/-- In another user's context, that user's pick-up type decides. -/
theorem not_decidedBy {f v : UserId} (hne : v ≠ f) : ¬ DecidedBy f v := by
  intro h
  have hsame := h (pickUpSet f true) (pickUpSet f false) rfl rfl
    ⟨rfl, by funext key; simp [pickUpSet]⟩
  rw [pickUpSet_started hne, pickUpSet_started hne] at hsame
  cases hsame

/-- **Only the foreground user's own context decides for that user.** A single check from user `v`
decides as the foreground user's settings ask exactly if always-on display is on or both users' doze
and pick-up settings come to the same; and it is independent of what others have stored exactly if
`v` is the foreground user. -/
theorem decided_by_foreground_iff (v : UserId) (w : Android) :
    (ActsForForeground v w ↔
      (isAlwaysOnEnabled w.settings ∨
        (isDozeEnabled v w.settings && isPickUpEnabled v w.settings) =
          (isDozeEnabled w.settings.currentUser w.settings &&
            isPickUpEnabled w.settings.currentUser w.settings))) ∧
      (DecidedBy w.settings.currentUser v ↔ v = w.settings.currentUser) := by
  refine ⟨actsForForeground_iff v w, fun h => ?_, ?_⟩
  · by_contra hne
    exact not_decidedBy hne h
  · rintro rfl
    exact decidedBy_self _

/-- User 0 has set the pick-up gesture; the boot broadcast of user 10, who has not, stops user 0's
service all the same. -/
theorem profile_boot_stops_foreground :
    ¬ ActsForForeground 10 (pickUpSet 0 false) ∧ ¬ DecidedBy 0 10 := by
  constructor
  · rw [actsForForeground_iff]
    decide
  · exact not_decidedBy (by decide)

end RMX2020.Doze
