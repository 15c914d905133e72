import PongDevice.Thermal.Thresholds
import PongDevice.Transition.Machine

/-! The sliders of the settings page that hold the limiter's thresholds. The page pushes the
neighbours of a changed slider, the limiter clamps what is stored; both shall agree.
-/

namespace PongDevice.Settings

open PongDevice.Thermal
open PongDevice.Transition

/-- The threshold sliders: `KEY_TEMP_WARM`, `KEY_TEMP_HIGH` and `KEY_TEMP_CRITICAL`. -/
inductive Slider where
  | warm
  | high
  | critical
deriving DecidableEq, Repr

namespace Slider

/-- `app:min` in `main.xml`. -/
def min (_ : Slider) : Int := 35

/-- `android:max` in `main.xml`. -/
def max : Slider → Int
  | .warm => 60
  | .high => 61
  | .critical => 62

end Slider

/-- A value that a slider can have. -/
structure Setting (slider : Slider) where
  value : Int
  atLeast : slider.min ≤ value
  atMost : value ≤ slider.max
deriving DecidableEq

/-- `SeekBarPreference.setValue` clamps to the range of its slider. -/
def Setting.clamp (slider : Slider) (value : Int) : Setting slider where
  value := Max.max slider.min (Min.min slider.max value)
  atLeast := by omega
  atMost := by cases slider <;> simp only [Slider.min, Slider.max] <;> omega

/-- The page: its sliders, the numbers in their summaries, and what is stored, with the packages
that are stored beside the thresholds.
-/
structure Page where
  mTempWarm : Setting .warm
  mTempHigh : Setting .high
  mTempCritical : Setting .critical
  summary : Slider → Int
  stored : Slider → Int
  apps : List String

namespace Page

/-- `getValue` of a slider. -/
def getValue (page : Page) : Slider → Int
  | .warm => page.mTempWarm.value
  | .high => page.mTempHigh.value
  | .critical => page.mTempCritical.value

/-- `setValue` of a slider, which also persists the value. -/
def setValue (page : Page) (slider : Slider) (value : Int) : Page :=
  let page := { page with
    stored := Function.update page.stored slider (Setting.clamp slider value).value }
  match slider with
  | .warm => { page with mTempWarm := .clamp .warm value }
  | .high => { page with mTempHigh := .clamp .high value }
  | .critical => { page with mTempCritical := .clamp .critical value }

/-- The neighbours that `onPreferenceChange` pushes before the change itself. -/
def pushNeighbours (page : Page) (slider : Slider) (value : Int) : Page :=
  match slider with
  | .warm =>
      let page := if page.getValue .high ≤ value then page.setValue .high (value + 1) else page
      if page.getValue .critical ≤ page.getValue .high then
        page.setValue .critical (page.getValue .high + 1)
      else
        page
  | .high =>
      let page := if value ≤ page.getValue .warm then page.setValue .warm (value - 1) else page
      if page.getValue .critical ≤ value then page.setValue .critical (value + 1) else page
  | .critical =>
      let page := if value ≤ page.getValue .high then page.setValue .high (value - 1) else page
      if page.getValue .high ≤ page.getValue .warm then
        page.setValue .warm (page.getValue .high - 1)
      else
        page

/-- `onPreferenceChange`: pushes the neighbours and updates every summary; the changed slider
still has its old value.
-/
def onPreferenceChange (page : Page) (slider : Slider) (value : Int) : Page :=
  let page := page.pushNeighbours slider value
  { page with summary := Function.update page.getValue slider value }

/-- The preferences behind the page. -/
def prefs (page : Page) : Prefs where
  apps := page.apps
  tempWarm := some (page.stored .warm)
  tempHigh := some (page.stored .high)
  tempCritical := some (page.stored .critical)

end Page

/-- A change of a slider to a value of its range. -/
structure Change where
  slider : Slider
  setting : Setting slider

/-- The outcome of a change: the listener returns true, so the value is taken. -/
def Page.step (page : Page) (change : Change) : Page :=
  (page.onPreferenceChange change.slider change.setting.value).setValue change.slider
    change.setting.value

/-- The page under the user's changes. -/
def pageMachine : Machine Page Change where
  step page change := some (page.step change)

/-- A value of the range is not clamped. -/
theorem Setting.clamp_value {slider : Slider} (setting : Setting slider)
    : (Setting.clamp slider setting.value).value = setting.value := by
  have atLeast := setting.atLeast
  have atMost := setting.atMost
  simp only [Setting.clamp]
  omega

namespace Page

variable {page : Page}

/-- Setting a slider changes its own value only. -/
@[simp]
theorem getValue_setValue (page : Page) (slider : Slider) (value : Int)
    : (page.setValue slider value).getValue
      = Function.update page.getValue slider (Setting.clamp slider value).value := by
  funext other
  cases slider <;> cases other <;> rfl

/-- Setting a slider stores its value. -/
@[simp]
theorem stored_setValue (page : Page) (slider : Slider) (value : Int)
    : (page.setValue slider value).stored
      = Function.update page.stored slider (Setting.clamp slider value).value := by
  cases slider <;> rfl

/-- Setting a slider under a condition changes its own value only. -/
@[simp]
theorem getValue_setIf (page : Page) {condition : Prop} [Decidable condition] (slider : Slider)
    (value : Int) (other : Slider)
    : (if condition then page.setValue slider value else page).getValue other
      = if other = slider ∧ condition then (Setting.clamp slider value).value
        else page.getValue other := by
  split
  · rename_i given
    simp [given, Function.update_apply]
  · rename_i refused
    simp [refused]

/-- Setting a slider leaves the summaries. -/
@[simp]
theorem summary_setValue (page : Page) (slider : Slider) (value : Int)
    : (page.setValue slider value).summary = page.summary := by
  cases slider <;> rfl

/-- What the sliders show is what is stored. -/
def Synced (page : Page) : Prop := page.stored = page.getValue

/-- Setting a slider keeps them in step. -/
theorem Synced.setValue (synced : Synced page) (slider : Slider) (value : Int)
    : Synced (page.setValue slider value) := by
  rw [Synced, stored_setValue, getValue_setValue, show page.stored = page.getValue from synced]

/-- So does setting it under a condition. -/
theorem Synced.setIf {condition : Prop} [Decidable condition] {slider : Slider} {value : Int}
    (synced : Synced page)
    : Synced (if condition then page.setValue slider value else page) := by
  split
  · exact synced.setValue slider value
  · exact synced

/-- So does the listener. -/
theorem Synced.onPreferenceChange (synced : Synced page) (slider : Slider) (value : Int)
    : Synced (page.onPreferenceChange slider value) := by
  have pushed : Synced (page.pushNeighbours slider value) := by
    cases slider with
    | warm | high | critical => exact Synced.setIf (Synced.setIf synced)
  exact pushed

/-- After a change the sliders, the summaries and the stored values are the same. -/
theorem step_synced (synced : Synced page) (change : Change)
    : Synced (page.step change) ∧ (page.step change).summary = (page.step change).getValue := by
  constructor
  · exact (synced.onPreferenceChange _ _).setValue _ _
  · rw [Page.step, summary_setValue, getValue_setValue, Setting.clamp_value]
    rfl

-----------------------------------------------------------------------------------------
-- What the limiter makes of the values
-----------------------------------------------------------------------------------------

/-- The stored values are in order, the limiter's thresholds are ten times them, and the page
shows them.
-/
structure Agrees (page : Page) : Prop where
  warmBelowHigh : page.stored .warm < page.stored .high
  highBelowCritical : page.stored .high < page.stored .critical
  thresholds
    : getThresholds (some page.prefs)
      = {
        warm := 10 * page.stored .warm
        high := 10 * page.stored .high
        critical := 10 * page.stored .critical
      }
  shown : ∀ slider, page.getValue slider = page.stored slider
  summarised : ∀ slider, page.summary slider = page.stored slider

/-- A number of less than ten digits is not wrapped. -/
theorem int32_eq_self {value : Int} (low : -1000000000 < value) (high : value < 1000000000)
    : int32 value = value := by
  rw [int32]
  exact Int.bmod_eq_of_le (by omega) (by omega)

/-- The limiter takes values in order over as they are, up to a high threshold that is above its
own bound without being the next degree.
-/
theorem getThresholds_iff {page : Page} (synced : Synced page)
    (warmBelowHigh : page.getValue .warm < page.getValue .high)
    (highBelowCritical : page.getValue .high < page.getValue .critical)
    : getThresholds (some page.prefs)
        = {
          warm := 10 * page.stored .warm
          high := 10 * page.stored .high
          critical := 10 * page.stored .critical
        }
      ↔ (page.getValue .high = 61 → page.getValue .warm = 60) := by
  have warmLeast := page.mTempWarm.atLeast
  have warmMost := page.mTempWarm.atMost
  have highMost := page.mTempHigh.atMost
  have criticalMost := page.mTempCritical.atMost
  simp only [getValue, Slider.min, Slider.max] at *
  simp only [getThresholds, prefs, show page.stored = page.getValue from synced, getValue,
    Option.bind_some, Option.getD_some, tempMin, tempMax, Thresholds.mk.injEq]
  simp (disch := omega) only [int32_eq_self]
  omega

/-- The page as it is while the values are in order. -/
structure Ordered (page : Page) : Prop where
  synced : Synced page
  warmBelowHigh : page.getValue .warm < page.getValue .high
  highBelowCritical : page.getValue .high < page.getValue .critical

/-- The condition on a change. A neighbour that is pushed must have room below the changed one,
and a high threshold of 61 degrees needs a warm one of 60.
-/
def fits (page : Page) (change : Change) : Prop :=
  match change.slider with
  | .warm => page.getValue .high = 61 → change.setting.value = 60
  | .high =>
      36 ≤ change.setting.value
        ∧ (change.setting.value = 61 → page.getValue .warm = 60)
  | .critical =>
      37 ≤ change.setting.value
        ∧ (change.setting.value = 62 → page.getValue .high = 61 → page.getValue .warm = 60)

/-- After a change the values agree where they are in order and the limiter keeps them. -/
theorem agrees_step_iff (ordered : Ordered page) (change : Change)
    : Agrees (page.step change)
      ↔ (page.step change).getValue .warm < (page.step change).getValue .high
        ∧ (page.step change).getValue .high < (page.step change).getValue .critical
        ∧ ((page.step change).getValue .high = 61 → (page.step change).getValue .warm = 60) := by
  obtain ⟨synced, summarised⟩ := step_synced ordered.synced change
  have same : (page.step change).stored = (page.step change).getValue := synced
  constructor
  · intro agrees
    have first := agrees.warmBelowHigh
    have second := agrees.highBelowCritical
    rw [same] at first second
    exact ⟨first, second, (getThresholds_iff synced first second).mp agrees.thresholds⟩
  · intro inOrder
    obtain ⟨first, second, kept⟩ := inOrder
    exact {
      warmBelowHigh := by rwa [same]
      highBelowCritical := by rwa [same]
      thresholds := (getThresholds_iff synced first second).mpr kept
      shown := by simp [same]
      summarised := by simp [same, summarised]
    }

/-- The listener's change of the summaries does not change the values. -/
@[simp]
theorem getValue_onPreferenceChange (page : Page) (slider : Slider) (value : Int)
    : (page.onPreferenceChange slider value).getValue
      = (page.pushNeighbours slider value).getValue :=
  rfl

/-- The values after a change: the pushed neighbours and the changed slider's own value. -/
theorem getValue_step (page : Page) (change : Change) (other : Slider)
    : (page.step change).getValue other
      = if other = change.slider then change.setting.value
        else (page.pushNeighbours change.slider change.setting.value).getValue other := by
  rw [step, getValue_setValue, Setting.clamp_value, Function.update_apply,
    getValue_onPreferenceChange]

/-- The values after a change agree exactly where the change fits. -/
theorem agrees_step (ordered : Ordered page) (change : Change)
    : Agrees (page.step change) ↔ fits page change := by
  obtain ⟨slider, setting⟩ := change
  have warmBelowHigh := ordered.warmBelowHigh
  have highBelowCritical := ordered.highBelowCritical
  have least := setting.atLeast
  have most := setting.atMost
  have warmLeast : 35 ≤ page.getValue .warm := page.mTempWarm.atLeast
  have warmMost : page.getValue .warm ≤ 60 := page.mTempWarm.atMost
  have highMost : page.getValue .high ≤ 61 := page.mTempHigh.atMost
  have criticalMost : page.getValue .critical ≤ 62 := page.mTempCritical.atMost
  rw [agrees_step_iff ordered]
  cases slider with
  | warm | high | critical =>
      simp only [getValue_step, pushNeighbours, getValue_setIf, fits, Setting.clamp, Slider.min,
        Slider.max, reduceCtorEq, if_true, if_false, true_and, false_and] at least most ⊢
      omega

/-- A change that fits keeps the values in order. -/
theorem ordered_step (ordered : Ordered page) {change : Change} (suits : fits page change)
    : Ordered (page.step change) := by
  obtain ⟨first, second, -⟩ :=
    (agrees_step_iff ordered change).mp ((agrees_step ordered change).mpr suits)
  exact ⟨(step_synced ordered.synced change).1, first, second⟩

end Page

/-- A stored triple inside the ranges of the sliders and in order. -/
structure StoredThresholds where
  warm : Setting .warm
  high : Setting .high
  critical : Setting .critical
  warmBelowHigh : warm.value < high.value
  highBelowCritical : high.value < critical.value

/-- The page as it opens on a stored triple. -/
def Page.opened (stored : StoredThresholds) (apps : List String) : Page :=
  let values : Slider → Int
    | .warm => stored.warm.value
    | .high => stored.high.value
    | .critical => stored.critical.value
  {
    mTempWarm := stored.warm
    mTempHigh := stored.high
    mTempCritical := stored.critical
    summary := values
    stored := values
    apps := apps
  }

/-- The page opens in order. -/
theorem Page.ordered_opened (stored : StoredThresholds) (apps : List String)
    : (Page.opened stored apps).Ordered where
  synced := by
    funext slider
    cases slider <;> rfl
  warmBelowHigh := stored.warmBelowHigh
  highBelowCritical := stored.highBelowCritical

/-- Along every run the page and the limiter agree after each change exactly where each change
fits.
-/
theorem agrees_along_iff (stored : StoredThresholds) (apps : List String)
    (changes : List Change)
    : pageMachine.Along (fun _ _ next => next.Agrees) (Page.opened stored apps) changes
      ↔ pageMachine.Along (fun page change _ => page.fits change) (Page.opened stored apps)
        changes := by
  refine Machine.Along.congr Page.Ordered ?_ ?_ (Page.ordered_opened stored apps)
    (Machine.along_true _ changes)
  · intro page change next ordered taken _
    obtain rfl := Option.some.inj taken
    exact Page.agrees_step ordered change
  · intro page change next ordered taken _ suits
    obtain rfl := Option.some.inj taken
    exact Page.ordered_step ordered suits

/-- The default thresholds. -/
def defaultThresholds : StoredThresholds where
  warm := { value := 40, atLeast := by decide, atMost := by decide }
  high := { value := 43, atLeast := by decide, atMost := by decide }
  critical := { value := 45, atLeast := by decide, atMost := by decide }
  warmBelowHigh := by decide
  highBelowCritical := by decide

/-- A high threshold of 35 degrees leaves no room for the warm one, which stays at 35. -/
theorem agrees_fails_lowest
    : ¬ pageMachine.Along (fun _ _ next => next.Agrees) (Page.opened defaultThresholds [])
        [{
          slider := .high
          setting := { value := 35, atLeast := by decide, atMost := by decide }
        }] := by
  intro along
  have agrees := (along _ rfl).1
  exact absurd agrees.warmBelowHigh (by decide)

end PongDevice.Settings
