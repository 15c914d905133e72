import PongDevice.Charging.Sysfs

/-! Which thermal zone a sensor's name finds. The search takes the first entry whose type only
starts with the name, in whatever order the directory is listed.
-/

namespace PongDevice.Charging

open PongDevice.Text

/-- The name of a zone's directory, `TZ_DIR_FMT`. -/
def zoneName (zone : Nat) : String := tzDirName ++ toString zone

/-- The zones among the entries have types that can be read and that tell them apart. -/
structure ZoneListing (entries : List ThermalEntry) : Prop where
  readable
    : ∀ entry ∈ entries, ∀ zone, entry.dName = zoneName zone → readLine entry.type ≠ ""
  distinct
    : ∀ entry ∈ entries,
        ∀ other ∈ entries,
          ∀ zone otherZone,
            entry.dName = zoneName zone
            → other.dName = zoneName otherZone
            → readLine entry.type = readLine other.type
            → zone = otherZone

/-- The type of the zone of that number is the sensor's name. -/
def NamesZone (entries : List ThermalEntry) (sensorName : String) (zone : Nat) : Prop :=
  ∃ entry ∈ entries, entry.dName = zoneName zone ∧ readLine entry.type = sensorName

/-- In every order of the entries, the search returns the zone whose type is the name, or -1
if there is none, and the same as in any other order.
-/
def FindsByType (entries : List ThermalEntry) (sensorName : String) : Prop :=
  ∀ order : List ThermalEntry,
    order.Perm entries
    → (∀ zone : Nat,
        getTzn (some order) sensorName = zone ↔ NamesZone entries sensorName zone)
      ∧ ((∀ zone, ¬NamesZone entries sensorName zone) → getTzn (some order) sensorName = -1)
      ∧ getTzn (some order) sensorName = getTzn (some entries) sensorName

/-- The number in the entry's name is that of the zone whose type is the sensor's name. Where
there is no such zone, only an entry that is no zone can have the right number, -1.
-/
def ThermalEntry.NumberedAs (entry : ThermalEntry) (entries : List ThermalEntry)
    (sensorName : String)
    : Prop :=
  (∃ zone : Nat, NamesZone entries sensorName zone ∧ entry.tzn = zone)
  ∨ (∀ zone, ¬NamesZone entries sensorName zone) ∧ entry.tzn = -1

/-- The search ends at an entry that it accepts, or there is none. -/
theorem getTzn_cases (order : List ThermalEntry) (sensorName : String)
    : (∃ entry ∈ order,
        entry.accepts sensorName = true ∧ getTzn (some order) sensorName = entry.tzn)
      ∨ (∀ entry ∈ order, ¬entry.accepts sensorName = true)
        ∧ getTzn (some order) sensorName = -1 := by
  cases found : order.find? (·.accepts sensorName) with
  | none => exact .inr ⟨List.find?_eq_none.mp found, by simp [getTzn, found]⟩
  | some entry =>
      have accepted : entry.accepts sensorName = true := by simpa using List.find?_some found
      exact .inl ⟨entry, List.mem_of_find?_eq_some found, accepted, by simp [getTzn, found]⟩

/-- An accepted entry that is listed first is the one that the search ends at. -/
theorem getTzn_cons {entry : ThermalEntry} {sensorName : String}
    (accepted : entry.accepts sensorName = true) (rest : List ThermalEntry)
    : getTzn (some (entry :: rest)) sensorName = entry.tzn := by
  simp [getTzn, accepted]

/-- The zone whose type is the name is accepted. -/
theorem accepts_of_type_eq {entry : ThermalEntry} {zone : Nat}
    (named : entry.dName = zoneName zone) (readable : readLine entry.type ≠ "")
    : entry.accepts (readLine entry.type) = true := by
  have starts
      : strncmpEq entry.dName.toList tzDirName.toList tzDirName.toList.length = true := by
    rw [strncmpEq_iff_isPrefix (by decide), named, zoneName, String.toList_append]
    exact List.prefix_append _ _
  simp only [ThermalEntry.accepts, starts, strncmpEq_self, Bool.true_and, Bool.and_true,
    decide_eq_true_eq]
  exact readable

/-- Distinct types leave at most one zone for a name. -/
theorem ZoneListing.unique {entries : List ThermalEntry} (listing : ZoneListing entries)
    {sensorName : String} {zone otherZone : Nat} (names : NamesZone entries sensorName zone)
    (namesOther : NamesZone entries sensorName otherZone)
    : zone = otherZone := by
  obtain ⟨entry, member, named, type⟩ := names
  obtain ⟨other, otherMember, otherNamed, otherType⟩ := namesOther
  exact listing.distinct entry member other otherMember zone otherZone named otherNamed
    (type.trans otherType.symm)

/-- If every accepted entry has the right number in its name, then so does the result in every
order.
-/
theorem ZoneListing.getTzn_eq {entries order : List ThermalEntry} {sensorName : String}
    (listing : ZoneListing entries) (permuted : order.Perm entries)
    (right
      : ∀ entry ∈ entries,
          entry.accepts sensorName = true → entry.NumberedAs entries sensorName)
    : (∃ zone : Nat,
        NamesZone entries sensorName zone ∧ getTzn (some order) sensorName = zone)
      ∨ (∀ zone, ¬NamesZone entries sensorName zone)
        ∧ getTzn (some order) sensorName = -1 := by
  rcases getTzn_cases order sensorName with found | missing
  · obtain ⟨entry, member, accepted, result⟩ := found
    rw [result]
    exact right entry (permuted.mem_iff.mp member) accepted
  · obtain ⟨refused, result⟩ := missing
    refine .inr ⟨fun zone names => ?_, result⟩
    obtain ⟨entry, member, named, rfl⟩ := names
    refine refused entry (permuted.mem_iff.mpr member) ?_
    exact accepts_of_type_eq named (listing.readable entry member zone named)

-----------------------------------------------------------------------------------------
-- What the condition says of zones
-----------------------------------------------------------------------------------------

/-- The number of a zone's directory is read back, as far as it is an `int`. -/
theorem tzn_of_zoneName {entry : ThermalEntry} {zone : Nat} (named : entry.dName = zoneName zone)
    (small : zone < 0x80000000)
    : entry.tzn = zone := by
  have digits : (entry.dName.toList.drop tzDirName.toList.length) = Nat.toDigits 10 zone := by
    rw [named, zoneName, String.toList_append, List.drop_left]
    exact Nat.toList_repr
  rw [ThermalEntry.tzn, digits, scanInt_toDigits]
  simp only
  rw [Int.bmod_eq_of_le] <;> omega

/-- A zone is accepted exactly if its type starts with the sensor's name. -/
theorem accepts_iff_of_zoneName {entry : ThermalEntry} {zone : Nat} {sensorName : String}
    (named : entry.dName = zoneName zone) (readable : readLine entry.type ≠ "")
    (whole : terminator ∉ sensorName.toList)
    : entry.accepts sensorName = true
      ↔ sensorName.toList <+: (readLine entry.type).toList := by
  rw [← strncmpEq_iff_isPrefix whole]
  have self := accepts_of_type_eq named readable
  simp only [ThermalEntry.accepts, Bool.and_eq_true] at self ⊢
  exact ⟨fun both => both.2, fun starts => ⟨self.1, starts⟩⟩

/-- Where names are unique, a zone has the right number exactly if its type is the sensor's
name: starting with it is not enough.
-/
theorem numberedAs_iff_of_zoneName {entries : List ThermalEntry} {entry : ThermalEntry}
    {zone : Nat} {sensorName : String}
    (unique : ∀ other ∈ entries, other.dName = entry.dName → other = entry)
    (member : entry ∈ entries) (named : entry.dName = zoneName zone)
    (small : zone < 0x80000000)
    : entry.NumberedAs entries sensorName ↔ readLine entry.type = sensorName := by
  rw [ThermalEntry.NumberedAs, tzn_of_zoneName named small]
  constructor
  · intro right
    rcases right with found | missing
    · obtain ⟨otherZone, ⟨other, otherMember, otherNamed, type⟩, same⟩ := found
      obtain rfl : zone = otherZone := Int.ofNat.inj same
      obtain rfl := unique other otherMember (otherNamed.trans named.symm)
      exact type
    · omega
  · intro type
    exact .inl ⟨zone, ⟨entry, member, named, type⟩, rfl⟩

/-- A sensor's name finds the zone of that type in every order of the directory exactly when
every entry that the comparison accepts has that zone's number in its name. Witness: an
accepted entry that is listed first is the result.
-/
theorem findsByType_iff {entries : List ThermalEntry} (listing : ZoneListing entries)
    (sensorName : String)
    : FindsByType entries sensorName
      ↔ ∀ entry ∈ entries,
          entry.accepts sensorName = true → entry.NumberedAs entries sensorName := by
  constructor
  · intro finds entry member accepted
    obtain ⟨before, later, rfl⟩ := List.append_of_mem member
    obtain ⟨some, none, -⟩ := finds (entry :: (before ++ later)) List.perm_middle.symm
    rw [getTzn_cons accepted] at some none
    by_cases named : ∃ zone, NamesZone (before ++ entry :: later) sensorName zone
    · obtain ⟨zone, names⟩ := named
      exact .inl ⟨zone, names, (some zone).mpr names⟩
    · have noZone := not_exists.mp named
      exact .inr ⟨noZone, none noZone⟩
  · intro right order permuted
    have here := listing.getTzn_eq permuted right
    have asListed := listing.getTzn_eq (.refl entries) right
    rcases here with found | missing
    · obtain ⟨zone, names, result⟩ := found
      refine ⟨fun other => ?_, fun none => absurd names (none zone), ?_⟩
      · rw [result]
        constructor
        · intro same
          exact Int.ofNat.inj same ▸ names
        · intro namesOther
          rw [listing.unique names namesOther]
      · rcases asListed with listed | missing
        · obtain ⟨otherZone, namesOther, otherResult⟩ := listed
          rw [result, otherResult, listing.unique names namesOther]
        · exact absurd names (missing.1 zone)
    · obtain ⟨noZone, result⟩ := missing
      refine ⟨fun zone => ?_, fun _ => result, ?_⟩
      · rw [result]
        exact iff_of_false (by omega) (noZone zone)
      · rcases asListed with listed | missing
        · obtain ⟨zone, names, -⟩ := listed
          exact absurd names (noZone zone)
        · rw [result, missing.2]

/-- Two shell sensors of which one's type starts with the other's. -/
def shellZones : List ThermalEntry :=
  [
    { dName := "thermal_zone3", type := some "shell_front_max\n" },
    { dName := "thermal_zone7", type := some "shell_front\n" }
  ]

/-- The number is part of a zone's name. -/
theorem zoneName_injective : Function.Injective zoneName := by
  intro zone otherZone same
  have written : (toString zone).toList = (toString otherZone).toList := by
    have lists := congrArg String.toList same
    rw [zoneName, zoneName, String.toList_append, String.toList_append] at lists
    exact List.append_cancel_left lists
  have digits : Nat.toDigits 10 zone = Nat.toDigits 10 otherZone := by
    simpa only [Nat.toString_eq_repr, Nat.toList_repr] using written
  have parsed := congrArg (fun digits => Nat.ofDigitChars 10 digits 0) digits
  simpa only [Nat.ofDigitChars_ten_toDigits] using parsed

theorem shellZones_listing : ZoneListing shellZones := by
  have readable : ∀ entry ∈ shellZones, readLine entry.type ≠ "" := by decide +kernel
  have distinct
      : ∀ entry ∈ shellZones,
          ∀ other ∈ shellZones,
            readLine entry.type = readLine other.type → entry.dName = other.dName := by
    decide +kernel
  constructor
  · exact fun entry member _ _ => readable entry member
  · intro entry member other otherMember zone otherZone named otherNamed type
    have same := distinct entry member other otherMember type
    exact zoneName_injective (named.symm.trans (same.trans otherNamed))

/-- The characterisation applied to the two shell sensors. -/
theorem findsByType_iff_shellZones
    : FindsByType shellZones "shell_front"
      ↔ ∀ entry ∈ shellZones,
          entry.accepts "shell_front" = true → entry.NumberedAs shellZones "shell_front" :=
  findsByType_iff shellZones_listing "shell_front"

/-- The search for the front of the shell returns another zone that is listed before it. -/
theorem findsByType_fails_shellFront
    : ZoneListing shellZones ∧ ¬FindsByType shellZones "shell_front" := by
  refine ⟨shellZones_listing, fun finds => ?_⟩
  obtain ⟨found, -, -⟩ := finds shellZones (.refl _)
  have result : getTzn (some shellZones) "shell_front" = 3 := by decide +kernel
  have named : NamesZone shellZones "shell_front" 7 := by
    refine ⟨{ dName := "thermal_zone7", type := some "shell_front\n" }, by simp [shellZones], ?_⟩
    decide +kernel
  have wanted := (found 7).mpr named
  rw [result] at wanted
  omega

end PongDevice.Charging
