import PongDevice.Charging.Limits

/-! What the loop of the charge limiter selects from its tables, when it stays inside of
them, and that a hotter device never charges faster.
-/

namespace PongDevice.Charging

/-- The entry at the greatest threshold not above the temperature, at its last occurrence,
or `start` if there is no such threshold.
-/
def IsSelected (currentTemp : Int) (thresholds : List Int) (limits : List Nat)
    (start result : Nat)
    : Prop :=
  ((∀ threshold ∈ thresholds, currentTemp < threshold) ∧ result = start)
  ∨ ∃ (place : Nat) (threshold : Int),
      thresholds[place]? = some threshold
      ∧ threshold ≤ currentTemp
      ∧ (∀ (other : Nat) (otherThreshold : Int),
          thresholds[other]? = some otherThreshold
          → otherThreshold ≤ currentTemp
          → otherThreshold ≤ threshold ∧ other ≤ place)
      ∧ limits[place]? = some result

/-- With a limit for each of the sorted thresholds, the loop ends in the entry at the
greatest reached one, and in the index that it started with if none is reached. Witness:
induction over the thresholds; past a reached threshold the loop starts with its limit.
-/
theorem voltLimitIndex_isSelected {currentTemp : Int} {thresholds : List Int}
    {limits : List Nat} (sorted : thresholds.Pairwise (· ≤ ·))
    (same : limits.length = thresholds.length) (index : Nat)
    : ∃ result,
        voltLimitIndex currentTemp thresholds limits index = some result
        ∧ IsSelected currentTemp thresholds limits index result := by
  induction thresholds generalizing limits index with
  | nil => exact ⟨index, rfl, .inl ⟨by simp, rfl⟩⟩
  | cons threshold rest ih =>
      obtain ⟨least, sorted⟩ := List.pairwise_cons.mp sorted
      cases limits with
      | nil => simp at same
      | cons limit limits =>
          by_cases reached : threshold ≤ currentTemp
          · obtain ⟨result, selected, which⟩ := ih sorted (by simpa using same) limit
            refine ⟨result, by simpa [voltLimitIndex, reached] using selected, .inr ?_⟩
            rcases which with none | last
            · obtain ⟨above, rfl⟩ := none
              refine ⟨0, threshold, rfl, reached, ?_, rfl⟩
              intro other otherThreshold found below
              cases other with
              | zero =>
                  obtain rfl := Option.some.inj found
                  exact ⟨Int.le_refl _, Nat.le_refl _⟩
              | succ other =>
                  have unreached := above otherThreshold (List.mem_of_getElem? found)
                  omega
            · obtain ⟨place, later, found, below, greatest, entry⟩ := last
              refine ⟨place + 1, later, found, below, ?_, entry⟩
              intro other otherThreshold foundOther belowOther
              cases other with
              | zero =>
                  obtain rfl := Option.some.inj foundOther
                  exact ⟨least later (List.mem_of_getElem? found), Nat.zero_le _⟩
              | succ other =>
                  obtain ⟨le, before⟩ := greatest other otherThreshold foundOther belowOther
                  exact ⟨le, Nat.succ_le_succ before⟩
          · refine ⟨index, by simp [voltLimitIndex, reached], .inl ⟨?_, rfl⟩⟩
            intro other member
            rcases List.mem_cons.mp member with rfl | member
            · omega
            · have later := least other member
              omega

/-- Sorted thresholds are read with limits for all of them that are reached exactly when the
first one without a limit is not, by induction over the thresholds.
-/
theorem voltLimitIndex_ne_none_iff {currentTemp : Int} {thresholds : List Int}
    (sorted : thresholds.Pairwise (· ≤ ·)) (limits : List Nat) (index : Nat)
    : voltLimitIndex currentTemp thresholds limits index ≠ none
      ↔ ∀ threshold ∈ thresholds[limits.length]?, currentTemp < threshold := by
  induction thresholds generalizing limits index with
  | nil => simp [voltLimitIndex]
  | cons threshold rest ih =>
      obtain ⟨least, sorted⟩ := List.pairwise_cons.mp sorted
      by_cases reached : threshold ≤ currentTemp
      · cases limits with
        | nil => simp [voltLimitIndex, reached]
        | cons limit limits => simpa [voltLimitIndex, reached] using ih sorted limits limit
      · refine iff_of_true (by simp [voltLimitIndex, reached]) ?_
        intro other found
        rcases List.mem_cons.mp (List.mem_of_getElem? found) with rfl | member
        · omega
        · have later := least other member
          omega

/-- The loop ends in the index that it started with or in one of the limits, by induction
over the thresholds.
-/
theorem voltLimitIndex_mem {currentTemp : Int} {thresholds : List Int} {limits : List Nat}
    {index result : Nat}
    (selected : voltLimitIndex currentTemp thresholds limits index = some result)
    : result = index ∨ result ∈ limits := by
  induction thresholds generalizing limits index with
  | nil => exact .inl (Option.some.inj selected).symm
  | cons threshold rest ih =>
      by_cases reached : threshold ≤ currentTemp
      · cases limits with
        | nil => simp [voltLimitIndex, reached] at selected
        | cons limit limits =>
            simp only [voltLimitIndex, if_pos reached] at selected
            rcases ih selected with rfl | later
            · exact .inr (.head _)
            · exact .inr (.tail _ later)
      · simp only [voltLimitIndex, if_neg reached] at selected
        exact .inl (Option.some.inj selected).symm

/-- Over increasing limits the selected one grows with the temperature, by induction over
the thresholds.
-/
theorem voltLimitIndex_mono {coolTemp hotTemp : Int} (hotter : coolTemp ≤ hotTemp)
    {thresholds : List Int} {limits : List Nat} {index cool hot : Nat}
    (increasing : (index :: limits).Pairwise (· ≤ ·))
    (selectedCool : voltLimitIndex coolTemp thresholds limits index = some cool)
    (selectedHot : voltLimitIndex hotTemp thresholds limits index = some hot)
    : cool ≤ hot := by
  induction thresholds generalizing limits index with
  | nil =>
      obtain rfl := Option.some.inj selectedCool
      exact Nat.le_of_eq (Option.some.inj selectedHot)
  | cons threshold rest ih =>
      by_cases reached : threshold ≤ coolTemp
      · cases limits with
        | nil => simp [voltLimitIndex, reached] at selectedCool
        | cons limit limits =>
            simp only [voltLimitIndex, if_pos reached] at selectedCool
            simp only [voltLimitIndex, if_pos (Int.le_trans reached hotter)] at selectedHot
            exact ih (List.pairwise_cons.mp increasing).2 selectedCool selectedHot
      · simp only [voltLimitIndex, if_neg reached] at selectedCool
        obtain rfl := Option.some.inj selectedCool
        rcases voltLimitIndex_mem selectedHot with rfl | member
        · exact Nat.le_refl _
        · exact (List.pairwise_cons.mp increasing).1 hot member

-----------------------------------------------------------------------------------------
-- The tables of the device
-----------------------------------------------------------------------------------------

/-- `CHG_VOLT_TBL` only decreases. -/
theorem pairwise_chgVoltTbl : chgVoltTbl.Pairwise (· ≥ ·) := by decide

/-- An index into `CHG_VOLT_TBL` that is not below another one has no greater current. -/
theorem chgVoltTbl_antitone {first second : Nat} {limit later : Int} (le : first ≤ second)
    (found : chgVoltTbl[first]? = some limit) (foundLater : chgVoltTbl[second]? = some later)
    : later ≤ limit := by
  obtain ⟨inside, rfl⟩ := List.getElem?_eq_some_iff.mp found
  obtain ⟨insideLater, rfl⟩ := List.getElem?_eq_some_iff.mp foundLater
  rcases Nat.lt_or_eq_of_le le with before | rfl
  · exact List.pairwise_iff_getElem.mp pairwise_chgVoltTbl first second inside insideLater before
  · exact Int.le_refl _

namespace Charger

/-- Every limit is an index into `CHG_VOLT_TBL`. -/
theorem voltLimits_lt (charger : Charger)
    : ∀ limit ∈ charger.voltLimits, limit < chgVoltTbl.length := by
  cases charger <;> decide

/-- The limits increase from the index that the loop starts with. -/
theorem pairwise_voltLimits (charger : Charger)
    : (0 :: charger.voltLimits).Pairwise (· ≤ ·) := by
  cases charger <;> decide

/-- A charger has as many limits as thresholds. -/
theorem length_voltLimits (charger : Charger)
    : charger.voltLimits.length = charger.tempThresholds.length := by
  cases charger <;> rfl

end Charger

namespace Selection

/-- The first threshold that has no limit is not reached, if there is one. -/
def Fits (selection : Selection) : Prop :=
  ∀ threshold ∈ selection.thresholds.tempThresholds[selection.limits.voltLimits.length]?,
    selection.currentTemp < threshold

instance : DecidablePred Fits := fun _ => inferInstanceAs (Decidable (∀ _ ∈ _, _ < _))

/-- A selection stays inside of both tables exactly if it fits. -/
theorem voltLimit_ne_none_iff (selection : Selection)
    : selection.voltLimit ≠ none ↔ selection.Fits := by
  rw [Fits, ← voltLimitIndex_ne_none_iff selection.thresholds.pairwise_tempThresholds _ 0,
    voltLimit]
  cases selected : voltLimitIndex selection.currentTemp selection.thresholds.tempThresholds
      selection.limits.voltLimits 0 with
  | none => simp
  | some index =>
      have inside : index < chgVoltTbl.length := by
        rcases voltLimitIndex_mem selected with rfl | member
        · decide
        · exact selection.limits.voltLimits_lt index member
      simp [List.getElem?_eq_getElem inside]

/-- Thresholds and limits of one charger always fit. -/
theorem fits_of_same {selection : Selection} (same : selection.limits = selection.thresholds)
    : selection.Fits := by
  intro threshold found
  rw [same, Charger.length_voltLimits, List.getElem?_eq_none (Nat.le_refl _)] at found
  cases found

end Selection

/-- The limit for a charger whose flags do not change during the iteration. -/
def Charger.limitAt (charger : Charger) (currentTemp : Int) : Option Int :=
  Selection.voltLimit { currentTemp, thresholds := charger, limits := charger }

/-- There always is one. -/
theorem Charger.exists_limitAt (charger : Charger) (currentTemp : Int)
    : ∃ limit, charger.limitAt currentTemp = some limit := by
  have fits
      : Selection.Fits { currentTemp, thresholds := charger, limits := charger } :=
    Selection.fits_of_same rfl
  exact Option.ne_none_iff_exists'.mp ((Selection.voltLimit_ne_none_iff _).mpr fits)

/-- A hotter device is not charged faster. -/
theorem Charger.limitAt_antitone {charger : Charger} {coolTemp hotTemp cool hot : Int}
    (hotter : coolTemp ≤ hotTemp) (selectedCool : charger.limitAt coolTemp = some cool)
    (selectedHot : charger.limitAt hotTemp = some hot)
    : hot ≤ cool := by
  obtain ⟨coolIndex, looked, found⟩ := Option.bind_eq_some_iff.mp selectedCool
  obtain ⟨hotIndex, lookedHot, foundHot⟩ := Option.bind_eq_some_iff.mp selectedHot
  have le := voltLimitIndex_mono hotter charger.pairwise_voltLimits looked lookedHot
  exact chgVoltTbl_antitone le found foundHot

/-- Below its first threshold a charger is limited to 9000 mA. -/
theorem Charger.limitAt_of_lt {charger : Charger} {currentTemp : Int}
    (below : ∀ threshold ∈ charger.tempThresholds.head?, currentTemp < threshold)
    : charger.limitAt currentTemp = some 9000 := by
  have start : voltLimitIndex currentTemp charger.tempThresholds charger.voltLimits 0 = some 0 := by
    cases thresholds : charger.tempThresholds with
    | nil => rfl
    | cons threshold rest =>
        have unreached := below threshold (by simp [thresholds])
        simp [voltLimitIndex, Int.not_le.mpr unreached]
  simp only [limitAt, Selection.voltLimit, start, Option.bind_some]
  rfl

/-- From 48000 on a charger is limited to 0 mA. -/
theorem Charger.limitAt_of_le {charger : Charger} {currentTemp : Int}
    (connected : charger ≠ .none) (hot : 48000 ≤ currentTemp)
    : charger.limitAt currentTemp = some 0 := by
  obtain ⟨limit, selected⟩ := charger.exists_limitAt currentTemp
  have reaches
      : Selection.ReachesLastLimit { currentTemp, thresholds := charger, limits := charger } :=
    (Selection.reachesLastLimit_iff rfl).mpr ⟨connected, hot⟩
  rw [selected, (Selection.voltLimit_eq_zero_iff selected).mpr reaches]

end PongDevice.Charging
