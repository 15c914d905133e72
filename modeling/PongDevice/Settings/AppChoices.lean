import Mathlib.Data.List.Basic
import PongDevice.Settings.AppPicker

/-! What becomes of the choices that are made on the pages. A page stores its whole copy, so that a
choice survives a tap on another page only if the copy of that page has it.
-/

namespace PongDevice.Settings

open PongDevice.Thermal (App Prefs Files)
open PongDevice.Transition

-----------------------------------------------------------------------------------------
-- One page
-----------------------------------------------------------------------------------------

namespace Picker

variable {page : Picker}

@[simp]
theorem mem_select (page : Picker) (packageName other : String) (newValue : Bool)
    : other ∈ (page.select packageName newValue).mSelected
      ↔ if other = packageName then newValue = true else other ∈ page.mSelected := by
  cases newValue <;> by_cases same : other = packageName <;> simp [select, same]

/-- The switches of a page have different keys, and show what the copy of the page says. -/
structure Shows (page : Picker) : Prop where
  keys : (page.mAppCategory.map (·.key)).Nodup
  checked : ∀ shown ∈ page.mAppCategory, shown.checked = decide (shown.key ∈ page.mSelected)

theorem shows_of_empty (none : page.mAppCategory = []) : page.Shows where
  keys := by simp [none]
  checked := by simp [none]

/-- A page that has been filled shows its copy. -/
theorem Shows.load (shows : page.Shows) (collator : String → String → Bool)
    (resolved : List ResolveInfo)
    : (page.load (queryLaunchableApps collator resolved)).Shows := by
  unfold Picker.load
  split
  · exact {
      keys := by
        have names := nodup_queryLaunchableApps collator resolved
        simpa [populate, Function.comp_def] using names
      checked := by
        intro shown member
        obtain ⟨entry, -, rfl⟩ := List.mem_map.mp member
        rfl
    }
  · exact { keys := shows.keys, checked := shows.checked }

/-- The switches keep their keys. -/
theorem keys_setChecked (page : Picker) (place : Nat) (newValue : Bool)
    : (page.setChecked place newValue).mAppCategory.map (·.key)
      = page.mAppCategory.map (·.key) := by
  refine List.ext_getElem? (fun other => ?_)
  simp only [setChecked, List.getElem?_map, List.getElem?_modify]
  by_cases here : place = other <;> simp [here, Function.comp_def]

/-- A tap changes the copy and the tapped switch alike, since no other one has its key. -/
theorem Shows.tap (shows : page.Shows) {place : Nat} {tapped : Switch}
    (found : page.mAppCategory[place]? = some tapped) (newValue : Bool)
    : ((page.select tapped.key newValue).setChecked place newValue).Shows := by
  refine { keys := by rw [keys_setChecked]; exact shows.keys, checked := ?_ }
  intro shown member
  obtain ⟨index, inside, same⟩ := List.mem_iff_getElem.mp member
  simp only [setChecked, select, List.length_modify, List.getElem_modify] at inside same
  obtain ⟨here, atPlace⟩ := List.getElem?_eq_some_iff.mp found
  have after (packageName : String)
      : packageName ∈ ((page.select tapped.key newValue).setChecked place newValue).mSelected
        ↔ if packageName = tapped.key then newValue = true
          else packageName ∈ page.mSelected :=
    mem_select page tapped.key packageName newValue
  by_cases tappedHere : place = index
  · subst tappedHere
    rw [if_pos rfl, atPlace] at same
    subst same
    simp [after]
  · rw [if_neg tappedHere] at same
    subst same
    have other : (page.mAppCategory[index]).key ≠ tapped.key := by
      intro equal
      have places : (page.mAppCategory.map (·.key))[place]?
          = (page.mAppCategory.map (·.key))[index]? := by
        simp [found, inside, equal]
      exact tappedHere ((List.getElem?_inj (by simpa using here) shows.keys).mp places)
    rw [shows.checked _ (List.getElem_mem inside)]
    exact decide_eq_decide.mpr (by rw [after, if_neg other])

end Picker

-----------------------------------------------------------------------------------------
-- The choices
-----------------------------------------------------------------------------------------

/-- The last choice for each app, and the pages whose copies have all of them: those created since
the last tap, and the one that was tapped.
-/
structure Choices where
  chosen : String → Bool
  fresh : List Nat := []

/-- Keeps the choices that are made. -/
def noteChoice (choices : Choices) (before : Pickers) (event : Pickers.Event) (after : Pickers)
    : Choices :=
  match event with
  | .limiter _ => if after.pages.isEmpty then { choices with fresh := [] } else choices
  | .onCreatePreferences => { choices with fresh := choices.fresh ++ [before.pages.length] }
  | .onPreferenceChange index place =>
      match before.pages[index]?.bind (·.mAppCategory[place]?) with
      | none => choices
      | some tapped =>
          {
            chosen := Function.update choices.chosen tapped.key (!tapped.checked)
            fresh := [index]
          }
  | .populate .. | .onDestroy _ => choices

/-- The pages with the choices made on them. -/
def choicesMachine : Machine (Pickers × Choices) Pickers.Event :=
  pickersMachine.observe noteChoice

/-- The stored selection, of which nothing has been changed yet. -/
def Choices.stored (prefs : Prefs) : Choices where
  chosen packageName := decide (packageName ∈ prefs.apps)

namespace Pickers

variable {before after : Pickers} {choices : Choices}

/-- The stored selection is what was chosen last for each app. -/
def Stores (pickers : Pickers) (choices : Choices) : Prop :=
  ∀ packageName, packageName ∈ pickers.app.prefs.apps ↔ choices.chosen packageName = true

/-- A tapped page has the stored selection of every other app. -/
def copiesOthers (pickers : Pickers) : Event → Prop
  | .onPreferenceChange index place =>
      ∀ page ∈ pickers.pages[index]?, ∀ tapped ∈ page.mAppCategory[place]?,
        ∀ packageName ≠ tapped.key,
          packageName ∈ page.mSelected ↔ packageName ∈ pickers.app.prefs.apps
  | _ => True

/-- What a tap does. -/
theorem tap_eq_some {index place : Nat} (taken : before.tap index place = some after)
    : ∃ page tapped,
        before.pages[index]? = some page
        ∧ page.mAppCategory[place]? = some tapped
        ∧ after
          = {
            app :=
              before.app.setSelectedApps (page.select tapped.key (!tapped.checked)).mSelected
            pages :=
              before.pages.set index
                ((page.select tapped.key (!tapped.checked)).setChecked place (!tapped.checked))
          } := by
  simp only [tap, Option.bind_eq_bind, Option.bind_eq_some_iff] at taken
  obtain ⟨page, present, tapped, shown, rest⟩ := taken
  split at rest
  · exact ⟨page, tapped, present, shown, (Option.some.inj rest).symm⟩
  · cases rest

/-- The limiter stores no selection but the one that it is given. -/
theorem apps_step {app next : App} {event : Thermal.Event} (taken : app.step event = some next)
    (other : ∀ packages, event ≠ .setSelectedApps packages)
    : next.prefs.apps = app.prefs.apps := by
  cases event with
  | startMonitoring display =>
      obtain rfl := Option.some.inj taken
      rw [App.startMonitoring]
      split <;> rfl
  | stopMonitoring =>
      obtain rfl := Option.some.inj taken
      refine @App.outcome_cases app (·.prefs.apps = app.prefs.apps) _ rfl (fun after stopped => ?_)
      rcases App.stopMonitoring_cases stopped with ⟨-, rfl⟩ | ⟨-, queue, after, -, -, reset, rfl⟩
      · rfl
      · obtain ⟨files, rfl⟩ := App.resetFrequencies_eq reset
        rfl
  | dispatch index tasks =>
      obtain ⟨message, -, rfl⟩ := Option.map_eq_some_iff.mp taken
      refine @App.outcome_cases app (·.prefs.apps = app.prefs.apps) _ rfl (fun after ran => ?_)
      rcases App.runCallback_cases ran
        with ⟨rfl, -⟩ | ⟨-, ⟨start, delay, ticked, handler, -, tick, -, rfl⟩ | ⟨-, reposted⟩⟩
      · rfl
      · rcases App.tick_cases tick
          with ⟨files, rfl⟩ | ⟨foreground, files, state, toasts, -, -, -, rfl, -⟩
        · rfl
        · rfl
      · obtain ⟨queue, rfl⟩ := App.repost_eq reposted
        rfl
  | onReceive action =>
      obtain rfl := Option.some.inj taken
      refine @App.outcome_cases app (·.prefs.apps = app.prefs.apps) _ rfl
        (fun after received => ?_)
      rcases App.onReceive_cases received
        with ⟨-, rfl⟩ | ⟨-, ⟨-, handler, -, released⟩ | ⟨-, reposted⟩⟩
      · rfl
      · obtain ⟨files, rfl⟩ := App.releaseThrottle_eq released
        rfl
      · obtain ⟨queue, rfl⟩ := App.repost_eq reposted
        rfl
  | onTaskStackChanged =>
      obtain rfl := Option.some.inj taken
      obtain ⟨queue, same⟩ := App.requestImmediateCheck_eq app
      rw [same]
  | setSelectedApps packages => exact absurd rfl (other packages)
  | storeThresholds warm high critical | changeFile path file | die =>
      obtain rfl := Option.some.inj taken
      rfl

/-- An event of the limiter is one of its steps but a selection; the pages stay or end. -/
theorem step_limiter {event : Thermal.Event} (taken : before.step (.limiter event) = some after)
    : before.app.step event = some after.app
      ∧ (∀ packages, event ≠ .setSelectedApps packages)
      ∧ (after.pages = before.pages ∨ after.pages = []) := by
  cases event with
  | setSelectedApps packages => cases taken
  | startMonitoring | stopMonitoring | dispatch | onReceive | onTaskStackChanged | storeThresholds
  | changeFile | die =>
      simp only [step, Option.map_eq_some_iff] at taken
      obtain ⟨app, moved, rfl⟩ := taken
      refine ⟨moved, by simp, ?_⟩
      split
      · exact .inr rfl
      · exact .inl rfl

@[simp]
theorem apps_setSelectedApps (app : App) (packages : List String)
    : (app.setSelectedApps packages).prefs.apps = packages := by
  obtain ⟨queue, same⟩ :=
    App.requestImmediateCheck_eq { app with prefs := { app.prefs with apps := packages } }
  rw [App.setSelectedApps, same]

/-- A tap keeps the choices exactly if its page has the other ones. -/
theorem stores_step_iff {event : Event} (stores : before.Stores choices)
    (taken : before.step event = some after)
    : after.Stores (noteChoice choices before event after) ↔ before.copiesOthers event := by
  cases event with
  | limiter event =>
      obtain ⟨moved, other, -⟩ := step_limiter taken
      refine iff_of_true (fun packageName => ?_) trivial
      rw [apps_step moved other, stores packageName, noteChoice]
      split <;> rfl
  | onCreatePreferences =>
      obtain rfl := Option.some.inj taken
      exact iff_of_true stores trivial
  | populate index collator resolved =>
      simp only [step, Option.bind_eq_bind, Option.bind_eq_some_iff] at taken
      obtain ⟨page, present, rest⟩ := taken
      split at rest
      · obtain rfl := Option.some.inj rest
        exact iff_of_true stores trivial
      · cases rest
  | onDestroy index =>
      obtain rfl := Option.some.inj taken
      exact iff_of_true stores trivial
  | onPreferenceChange index place =>
      obtain ⟨page, tapped, present, shown, rfl⟩ := tap_eq_some taken
      simp only [Stores, apps_setSelectedApps, Picker.mem_select, noteChoice, present, shown,
        Option.bind_some, copiesOthers, Option.mem_def, Option.some.injEq, forall_eq',
        Function.update_apply]
      refine forall_congr' (fun packageName => ?_)
      by_cases same : packageName = tapped.key
      · simp [same]
      · simp [same, stores packageName]

end Pickers

/-- In every run, over any number of pages and whatever the limiter does in between, the stored
selection always has the last choice of each app exactly when every tap is made on a page whose
copy has the stored selection of the other apps. A page that is older loses what was chosen since.
-/
theorem choices_stored_iff (files : Files) (prefs : Prefs) (events : List Pickers.Event)
    : choicesMachine.Always (fun state => state.1.Stores state.2)
        (.booted files prefs, .stored prefs) events
      ↔ choicesMachine.Along (fun before event _ => before.1.copiesOthers event)
          (.booted files prefs, .stored prefs) events := by
  refine Machine.observe_always_iff_along (fun state : Pickers × Choices => state.1.Stores state.2)
    (fun _ _ stores => stores) ?_ ?_ ?_ (Machine.along_true _ _)
  · exact fun _ _ _ _ stores taken _ copies => (Pickers.stores_step_iff stores taken).mpr copies
  · exact fun _ _ _ _ stores taken _ kept => (Pickers.stores_step_iff stores taken).mp kept
  · exact fun packageName => by simp [Choices.stored, Pickers.booted, App.booted]

-- Two pages offer the same apps; the choice that was made on the second one is lost by a tap on the
-- first one.
example
    : let page : Picker :=
        {
          mSelected := []
          mAppCategory := [{ key := "game", checked := false }, { key := "maps", checked := false }]
          loading := false
        }
      let prefs : Prefs := { apps := [], tempWarm := none, tempHigh := none, tempCritical := none }
      (pickersMachine.run { app := .booted Thermal.hotDevice prefs, pages := [page, page] }
        [.onPreferenceChange 1 0, .onPreferenceChange 0 1]).map (·.app.prefs.apps)
      = some ["maps"] := by
  decide +kernel

-----------------------------------------------------------------------------------------
-- Pages that are up to date
-----------------------------------------------------------------------------------------

/-- What the pages, the stored selection and the limiter have made of the choices: the selection has
all of them, a page that is up to date shows them, and the limiter throttles for a package that was
chosen, or a check is on its way.
-/
structure KeepsChoices (pickers : Pickers) (choices : Choices) : Prop where
  stored : pickers.Stores choices
  shown
    : ∀ index ∈ choices.fresh, ∀ page ∈ pickers.pages[index]?, ∀ shown ∈ page.mAppCategory,
        shown.checked = choices.chosen shown.key
  throttles
    : pickers.app.mCurrentThermalState ≠ .normal
      → (∃ package ∈ pickers.app.mThrottledPackage, choices.chosen package = true)
        ∨ pickers.app.CheckQueued

/-- What a step keeps: each page shows its copy, and a page that is up to date has a copy of what is
stored.
-/
structure Remembers (pickers : Pickers) (choices : Choices) : Prop where
  sound : pickers.app.Sound
  stored : pickers.Stores choices
  copies
    : ∀ index ∈ choices.fresh, ∀ page ∈ pickers.pages[index]?, ∀ packageName,
        packageName ∈ page.mSelected ↔ packageName ∈ pickers.app.prefs.apps
  shows : ∀ page ∈ pickers.pages, page.Shows

theorem Remembers.keepsChoices {pickers : Pickers} {choices : Choices}
    (remembers : Remembers pickers choices)
    : KeepsChoices pickers choices where
  stored := remembers.stored
  shown := by
    intro index fresh page present shown member
    have listed := List.mem_of_getElem? (Option.mem_def.mp present)
    rw [(remembers.shows page listed).checked shown member, ← Bool.decide_coe (choices.chosen _)]
    exact decide_eq_decide.mpr
      ((remembers.copies index fresh page present _).trans (remembers.stored _))
  throttles := by
    intro throttled
    rcases remembers.sound.selected throttled with ⟨package, throttles, selected⟩ | queued
    · exact .inl ⟨package, throttles, (remembers.stored package).mp selected⟩
    · exact .inr queued

namespace Pickers

/-- Only pages that are up to date are tapped. -/
def tapsFresh (choices : Choices) : Event → Prop
  | .onPreferenceChange index _ => index ∈ choices.fresh
  | _ => True

theorem copiesOthers_of_tapsFresh {event : Event} (remembers : Remembers before choices)
    (fresh : tapsFresh choices event)
    : before.copiesOthers event := by
  cases event with
  | onPreferenceChange index place =>
      exact fun page present _ _ packageName _ =>
        remembers.copies index fresh page present packageName
  | limiter | onCreatePreferences | populate | onDestroy => trivial

/-- What the limiter does leaves the pages, or ends them with its process. -/
theorem remembers_limiter {event : Thermal.Event} (remembers : Remembers before choices)
    (taken : before.step (.limiter event) = some after)
    (stored : after.Stores (noteChoice choices before (.limiter event) after))
    : Remembers after (noteChoice choices before (.limiter event) after) := by
  obtain ⟨moved, other, pages⟩ := step_limiter taken
  refine {
    sound := remembers.sound.step moved
    stored
    copies := ?_
    shows := ?_
  }
  · intro index inFresh page present
    rw [apps_step moved other]
    rcases pages with same | none
    · rw [same] at present
      refine remembers.copies index ?_ page present
      simp only [noteChoice] at inFresh
      split at inFresh
      · cases inFresh
      · exact inFresh
    · rw [none] at present
      cases present
  · rcases pages with same | none
    · rw [same]
      exact remembers.shows
    · simp [none]

/-- A page that is created has a copy of what is stored, and no switches yet. -/
theorem remembers_onCreatePreferences (remembers : Remembers before choices)
    (taken : before.step .onCreatePreferences = some after)
    (stored : after.Stores (noteChoice choices before .onCreatePreferences after))
    : Remembers after (noteChoice choices before .onCreatePreferences after) := by
  obtain rfl := Option.some.inj taken
  refine {
    sound := remembers.sound
    stored
    copies := ?_
    shows := ?_
  }
  · intro index inFresh page present
    rw [Option.mem_def, List.getElem?_append] at present
    split at present
    · rename_i earlier
      rcases List.mem_append.mp inFresh with old | new
      · exact remembers.copies index old page present
      · rw [List.mem_singleton.mp new] at earlier
        exact absurd earlier (Nat.lt_irrefl _)
    · obtain rfl := List.mem_singleton.mp (List.mem_of_getElem? present)
      exact fun _ => Iff.rfl
  · intro page member
    rcases List.mem_append.mp member with old | new
    · exact remembers.shows page old
    · obtain rfl := List.mem_singleton.mp new
      exact Picker.shows_of_empty rfl

/-- What is done to a page without its copy, and shows the copy after it, keeps the pages. -/
theorem remembers_set (remembers : Remembers before choices) {index : Nat} {page next : Picker}
    (present : before.pages[index]? = some page) (copy : next.mSelected = page.mSelected)
    (shows : page.Shows → next.Shows)
    : Remembers { before with pages := before.pages.set index next } choices where
  sound := remembers.sound
  stored := remembers.stored
  copies := by
    intro other inFresh shown found
    rw [Option.mem_def, List.getElem?_set] at found
    split at found
    · rename_i here
      subst here
      split at found
      · obtain rfl := Option.some.inj found
        rw [copy]
        exact remembers.copies index inFresh page present
      · cases found
    · exact remembers.copies other inFresh shown found
  shows := by
    intro shown member
    rcases List.mem_or_eq_of_mem_set member with old | rfl
    · exact remembers.shows shown old
    · exact shows (remembers.shows page (List.mem_of_getElem? present))

/-- A tap stores the copy of its page, which becomes the only one that is up to date. -/
theorem remembers_tap {index place : Nat} (remembers : Remembers before choices)
    (taken : before.step (.onPreferenceChange index place) = some after)
    (stored : after.Stores (noteChoice choices before (.onPreferenceChange index place) after))
    : Remembers after (noteChoice choices before (.onPreferenceChange index place) after) := by
  obtain ⟨page, tapped, present, shown, rfl⟩ := tap_eq_some taken
  have selects (packages : List String)
      : before.app.step (.setSelectedApps packages)
        = some (before.app.setSelectedApps packages) := rfl
  refine {
    sound := remembers.sound.step (selects _)
    stored
    copies := ?_
    shows := ?_
  }
  · intro other inFresh later found packageName
    simp only [noteChoice, present, shown, Option.bind_some, List.mem_singleton] at inFresh
    subst inFresh
    rw [Option.mem_def, List.getElem?_set_self (List.getElem?_eq_some_iff.mp present).1] at found
    obtain rfl := Option.some.inj found
    rw [apps_setSelectedApps]
    rfl
  · intro later member
    rcases List.mem_or_eq_of_mem_set member with old | rfl
    · exact remembers.shows later old
    · exact (remembers.shows page (List.mem_of_getElem? present)).tap shown _

/-- Every step on up-to-date pages keeps what they remember, by the kinds of events. -/
theorem remembers_step {event : Event} (remembers : Remembers before choices)
    (taken : before.step event = some after) (fresh : tapsFresh choices event)
    : Remembers after (noteChoice choices before event after) := by
  have stored : after.Stores (noteChoice choices before event after) :=
    (stores_step_iff remembers.stored taken).mpr (copiesOthers_of_tapsFresh remembers fresh)
  cases event with
  | limiter event => exact remembers_limiter remembers taken stored
  | onCreatePreferences => exact remembers_onCreatePreferences remembers taken stored
  | onPreferenceChange index place => exact remembers_tap remembers taken stored
  | populate index collator resolved =>
      simp only [step, Option.bind_eq_bind, Option.bind_eq_some_iff] at taken
      obtain ⟨page, present, rest⟩ := taken
      split at rest
      · obtain rfl := Option.some.inj rest
        refine remembers_set remembers present ?_ (fun shows => shows.load collator resolved)
        unfold Picker.load
        split <;> rfl
      · cases rest
  | onDestroy index =>
      obtain rfl := Option.some.inj taken
      rw [List.modify_eq_set_getElem?]
      cases present : before.pages[index]? with
      | none => exact remembers
      | some page =>
          exact remembers_set remembers present rfl
            (fun shows => { keys := shows.keys, checked := shows.checked })

end Pickers

/-- As long as a tap is made only on a page that was created since the last tap, or was tapped
last, no choice is lost: the selection has them all, such a page shows them, and the limiter
throttles for what was chosen.
-/
theorem fresh_pages_keep_choices (files : Files) (prefs : Prefs) (events : List Pickers.Event)
    (fresh
      : choicesMachine.Along (fun before event _ => Pickers.tapsFresh before.2 event)
          (.booted files prefs, .stored prefs) events)
    : choicesMachine.Always (fun state => KeepsChoices state.1 state.2)
        (.booted files prefs, .stored prefs) events := by
  refine Machine.observe_always_of_invariant (fun state : Pickers × Choices =>
      Remembers state.1 state.2)
    (fun _ _ remembers => remembers.keepsChoices) ?_ ?_ fresh
  · exact fun _ _ _ _ remembers taken fresh => Pickers.remembers_step remembers taken fresh
  · exact {
      sound := App.sound_booted files prefs
      stored := fun packageName => by simp [Choices.stored, Pickers.booted, App.booted]
      copies := by simp [Choices.stored]
      shows := by simp [Pickers.booted]
    }

/-- A page that offers the game, which is tapped twice. -/
theorem fresh_pages_keep_choices_game
    : choicesMachine.Always (fun state => KeepsChoices state.1 state.2)
        (.booted Thermal.hotDevice Thermal.gamePrefs, .stored Thermal.gamePrefs)
        [.onCreatePreferences,
          .populate 0 (fun _ _ => true) [{ activityInfo := some (some "game"), label := "Game" }],
          .onPreferenceChange 0 0, .onPreferenceChange 0 0] := by
  refine fresh_pages_keep_choices _ _ _ ?_
  rintro ⟨created, choices⟩ taken
  obtain ⟨-, rfl⟩ := Machine.observe_step_eq_some.mp taken
  refine ⟨trivial, ?_⟩
  rintro ⟨populated, choices⟩ taken
  obtain ⟨-, rfl⟩ := Machine.observe_step_eq_some.mp taken
  refine ⟨trivial, ?_⟩
  rintro ⟨tapped, choices⟩ taken
  obtain ⟨tap, rfl⟩ := Machine.observe_step_eq_some.mp taken
  refine ⟨List.mem_singleton_self 0, ?_⟩
  rintro ⟨again, choices⟩ taken
  refine ⟨?_, trivial⟩
  obtain ⟨page, switch, present, shown, -⟩ := Pickers.tap_eq_some tap
  simp [noteChoice, present, shown, Pickers.tapsFresh]

end PongDevice.Settings
