import PongDevice.Thermal.Deselection
import PongDevice.Thermal.NullSafety

/-! The page on which the apps of the limiter are chosen. A page copies the stored selection when it
is created, fills itself with switches once its thread has listed the apps, and stores its copy
whenever one of them is moved.
-/

namespace PongDevice.Settings

open PongDevice.Thermal (App Prefs Files)
open PongDevice.Transition

-----------------------------------------------------------------------------------------
-- The apps that are offered
-----------------------------------------------------------------------------------------

/-- A result of the launcher query: its `activityInfo` with the package's name, either of which may
be null, and the label that is loaded for it.
-/
structure ResolveInfo where
  activityInfo : Option (Option String)
  label : String
deriving DecidableEq, Repr

structure AppEntry where
  packageName : String
  label : String
deriving DecidableEq, Repr

/-- The loop of `queryLaunchableApps`. -/
def collectApps (seen : List String) : List ResolveInfo → List AppEntry
  | [] => []
  | info :: resolved =>
      match info.activityInfo with
      | none => collectApps seen resolved
      | some none => collectApps seen resolved
      | some (some packageName) =>
          if packageName ∈ seen then collectApps seen resolved
          else
            { packageName, label := info.label } :: collectApps (packageName :: seen) resolved

/-- `queryLaunchableApps`, whose sort is stable; the collator compares labels by at most. -/
def queryLaunchableApps (collator : String → String → Bool) (resolved : List ResolveInfo)
    : List AppEntry :=
  (collectApps [] resolved).mergeSort (fun lhs rhs => collator lhs.label rhs.label)

/-- The entries are of the packages that have not been seen, by induction over the results. -/
theorem mem_collectApps (resolved : List ResolveInfo) (seen : List String) (packageName : String)
    : packageName ∈ (collectApps seen resolved).map (·.packageName)
      ↔ packageName ∉ seen
        ∧ ∃ info ∈ resolved, info.activityInfo = some (some packageName) := by
  induction resolved generalizing seen with
  | nil => simp [collectApps]
  | cons info rest ih =>
      rw [collectApps]
      split
      · rename_i without
        simp [ih, without]
      · rename_i without
        simp [ih, without]
      · rename_i found named
        split
        · rename_i again
          rw [ih]
          refine and_congr_right (fun new => ?_)
          have other : found ≠ packageName := fun same => new (same ▸ again)
          simp [named, other]
        · rename_i first
          by_cases same : packageName = found
          · subst same
            simp [first, named]
          · have other : found ≠ packageName := fun equal => same equal.symm
            simp [ih, named, same, other]

/-- No package is listed twice. -/
theorem nodup_collectApps (resolved : List ResolveInfo) (seen : List String)
    : ((collectApps seen resolved).map (·.packageName)).Nodup := by
  induction resolved generalizing seen with
  | nil => exact List.nodup_nil
  | cons info rest ih =>
      rw [collectApps]
      split
      · exact ih seen
      · exact ih seen
      · rename_i found named
        split
        · exact ih seen
        · refine List.nodup_cons.mpr ⟨fun again => ?_, ih _⟩
          exact ((mem_collectApps rest (found :: seen) found).mp again).1 (List.mem_cons_self)

theorem nodup_queryLaunchableApps (collator : String → String → Bool) (resolved : List ResolveInfo)
    : ((queryLaunchableApps collator resolved).map (·.packageName)).Nodup :=
  ((List.mergeSort_perm _ _).map _).nodup_iff.mpr (nodup_collectApps resolved [])

-----------------------------------------------------------------------------------------
-- The pages
-----------------------------------------------------------------------------------------

/-- A switch of the page, with its key. -/
structure Switch where
  key : String
  checked : Bool
deriving DecidableEq, Repr

/-- A `ThermalAppsFragment`: its copy of the selection, the switches of its category, whether its
thread has still to list the apps, and whether it is added to its activity.
-/
structure Picker where
  mSelected : List String
  mAppCategory : List Switch := []
  loading : Bool := true
  isAdded : Bool := true
deriving DecidableEq, Repr

namespace Picker

/-- `populate`. -/
def populate (picker : Picker) (entries : List AppEntry) : Picker :=
  { picker with
    mAppCategory :=
      entries.map (fun entry =>
        { key := entry.packageName, checked := decide (entry.packageName ∈ picker.mSelected) }) }

/-- The runnable that the thread posts with its list. -/
def load (picker : Picker) (entries : List AppEntry) : Picker :=
  if picker.isAdded then { picker.populate entries with loading := false }
  else { picker with loading := false }

/-- What `onPreferenceChange` does to the copy. -/
def select (picker : Picker) (packageName : String) (newValue : Bool) : Picker :=
  { picker with
    mSelected :=
      if newValue then picker.mSelected.insert packageName
      else picker.mSelected.filter (· ≠ packageName) }

/-- The switch in a place after its listener has agreed. -/
def setChecked (picker : Picker) (place : Nat) (newValue : Bool) : Picker :=
  { picker with mAppCategory := picker.mAppCategory.modify place ({ · with checked := newValue }) }

end Picker

/-- The limiter's process with the pages of its activities. -/
structure Pickers where
  app : App
  pages : List Picker := []

namespace Pickers

/-- What the main looper handles: an event of the limiter, the creation of a page, the list that
its thread has made with the collator of the locale, a tap on one of its switches, or its end.
-/
inductive Event where
  | limiter (event : Thermal.Event)
  | onCreatePreferences
  | populate (index : Nat) (collator : String → String → Bool) (resolved : List ResolveInfo)
  | onPreferenceChange (index place : Nat)
  | onDestroy (index : Nat)

/-- A tap on a switch: the listener is asked for the new value, and the switch follows. -/
def tap (pickers : Pickers) (index place : Nat) : Option Pickers := do
  let page ← pickers.pages[index]?
  let tapped ← page.mAppCategory[place]?
  let newValue := !tapped.checked
  let selected := page.select tapped.key newValue
  if page.isAdded then
    some
      {
        app := pickers.app.setSelectedApps selected.mSelected
        pages := pickers.pages.set index (selected.setChecked place newValue)
      }
  else
    none

/-- Nothing but the pages stores a selection; the pages end with the process. -/
def step (pickers : Pickers) : Event → Option Pickers
  | .limiter (.setSelectedApps _) => none
  | .limiter event =>
      (pickers.app.step event).map (fun app =>
        { app, pages := if event = .die ∨ pickers.app.throws event then [] else pickers.pages })
  | .onCreatePreferences =>
      some { pickers with pages := pickers.pages ++ [{ mSelected := pickers.app.prefs.apps }] }
  | .populate index collator resolved => do
      let page ← pickers.pages[index]?
      if page.loading then
        let loaded := page.load (queryLaunchableApps collator resolved)
        some { pickers with pages := pickers.pages.set index loaded }
      else
        none
  | .onPreferenceChange index place => pickers.tap index place
  | .onDestroy index =>
      some { pickers with pages := pickers.pages.modify index ({ · with isAdded := false }) }

/-- The process as it starts. -/
def booted (files : Files) (prefs : Prefs) : Pickers where
  app := .booted files prefs

end Pickers

def pickersMachine : Machine Pickers Pickers.Event where
  step := Pickers.step

end PongDevice.Settings
