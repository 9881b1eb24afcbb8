import CipUnits.Proofs.Run
import CipUnits.Source.Cursor

/-!
# `CipUnits.Proofs.Ending` — why a run ends early

A run of a lenient reader ends before its count for one reason only, as long as the source has not been
at its end before: the unit read last met the end of the source. But a reader never forgets that its
source has ended, and a run asks after every unit whether it has. So once the source has ended, every
run is over after its first unit, also on a source that was moved back or was given more bytes, and
also if that unit is clean.

## Contents
- `attempted_of_ended` — a run of a reader whose source has ended.
- `attempted_short` — a run that ends early before that.
- `early_end` — both; `rewound_run_stops_short`, a clean run that ends early.
-/

namespace CipUnits

/-- A unit that met the end of the source is faulty. -/
theorem Decoded.exists_of_metEnd {unit : Decoded} (h : unit.metEnd = true) :
    ∃ fault : Fault, unit = .faulty fault ∧ fault.isShortRead = true := by
  cases unit with
  | clean value => cases h
  | faulty fault => exact ⟨fault, rfl, h⟩

namespace Reader

variable {σ : Type} [ByteSource σ] {reader : Reader σ} {type : Elementary}

/-- A run of a reader whose source has ended is one unit long. -/
theorem attempted_of_ended (hended : reader.exhausted = true) (count : Nat) :
    reader.attempted type (count + 1) = [(reader.step type).1] := by
  have hafter : (reader.step type).2.exhausted = true := by simp [step, hended]
  simp [attempted_succ, hafter]

/-- A run that ends early on a source that had not ended before has met its end with the last unit. -/
theorem attempted_short (hlenient : reader.settings.strict = false) (hopen : reader.exhausted = false)
    {count : Nat} (hshort : (reader.attempted type count).length < count) :
    ∃ (earlier : List Decoded) (fault : Fault),
      reader.attempted type count = earlier ++ [.faulty fault]
        ∧ fault.type = type ∧ fault.isShortRead = true := by
  induction count generalizing reader with
  | zero => exact absurd hshort (Nat.not_lt_zero _)
  | succ count ih =>
      have hnone := Settings.surfaced?_of_lenient hlenient (reader.step type).1
      by_cases hafter : (reader.step type).2.exhausted = true
      · -- the source had not ended before this unit, so it is this unit that met the end
        have hmet : (reader.step type).1.metEnd = true := by simpa [step, hopen] using hafter
        obtain ⟨fault, hunit, hend⟩ := Decoded.exists_of_metEnd hmet
        refine ⟨[], fault, ?_, type_of_step_faulty hunit, hend⟩
        simp [attempted_succ, hafter, hunit]
      · rw [Bool.not_eq_true] at hafter
        have hgo : reader.attempted type (count + 1)
            = (reader.step type).1 :: (reader.step type).2.attempted type count := by
          simp [attempted_succ, hnone, hafter]
        rw [hgo, List.length_cons] at hshort
        obtain ⟨earlier, fault, hunits, htype, hend⟩ :=
          @ih (reader.step type).2 hlenient hafter (Nat.lt_of_succ_lt_succ hshort)
        exact ⟨(reader.step type).1 :: earlier, fault, by rw [hgo, hunits]; rfl, htype, hend⟩

theorem length_attempted_le (type : Elementary) (count : Nat) (reader : Reader σ) :
    (reader.attempted type count).length ≤ count := by
  induction count generalizing reader with
  | zero => exact Nat.le_refl _
  | succ count ih =>
      rw [attempted_succ]
      split
      · exact Nat.succ_le_succ (Nat.zero_le _)
      · exact Nat.succ_le_succ (ih _)

/-- **Early ends.** A lenient reader answers to a run with the values of the units that it decoded. If
    the source had not ended before and there are fewer units than were asked for, then the last one
    met the end of the source, and all units are there if none has a fault. If the source had ended
    before, there is one unit, whatever came of it, or none if none was asked for. -/
theorem early_end (reader : Reader σ) (hlenient : reader.settings.strict = false) (tag : Tag)
    (htag : tag.isDecodable = true) (count : Nat) :
    let units := reader.units (.readUnits tag count)
    (reader.perform (.readUnits tag count)).response = .values (units.map Decoded.value)
      ∧ (reader.exhausted = false →
          (units.length < count →
              ∃ (earlier : List Decoded) (fault : Fault),
                units = earlier ++ [.faulty fault] ∧ fault.tag = tag ∧ fault.isShortRead = true)
            ∧ (Decoded.faults units = [] → units.length = count))
      ∧ (reader.exhausted = true → units.length = min count 1) := by
  obtain ⟨type, rfl⟩ := Tag.isDecodable_iff.mp htag
  intro units
  have hunits : units = reader.attempted type count := by simp [units, Reader.units]
  rw [hunits]
  refine ⟨response_of_lenient hlenient type count, ?_, ?_⟩
  · intro hopen
    constructor
    · intro hshort
      obtain ⟨earlier, fault, hlast, rfl, hend⟩ := attempted_short hlenient hopen hshort
      exact ⟨earlier, fault, hlast, rfl, hend⟩
    · intro hclean
      refine Nat.le_antisymm (length_attempted_le type count reader) (Nat.le_of_not_lt fun hshort => ?_)
      obtain ⟨earlier, fault, hlast, -, -⟩ := attempted_short hlenient hopen hshort
      rw [hlast, Decoded.faults, List.filterMap_append] at hclean
      exact absurd (List.append_eq_nil_iff.mp hclean).2 (List.cons_ne_nil fault [])
  · intro hended
    cases count with
    | zero => rfl
    | succ count => simp [attempted_of_ended hended]

/-- A unit and half of the next: a run for three units ends with the second. -/
theorem early_end_of_half_a_unit :
    let reader := start (Cursor.ofBytes [5, 0, 6]) {}
    let tag : Tag := (Elementary.number .int).tag
    reader.settings.strict = false ∧ tag.isDecodable = true ∧ reader.exhausted = false
      ∧ (reader.units (.readUnits tag 3)).length < 3
      ∧ ∃ (earlier : List Decoded) (fault : Fault),
          reader.units (.readUnits tag 3) = earlier ++ [.faulty fault]
            ∧ fault.tag = tag ∧ fault.isShortRead = true := by
  intro reader tag
  have hdecodable : tag.isDecodable = true := by decide
  have hshort : (reader.units (.readUnits tag 3)).length < 3 := by decide
  have hlaw := (early_end reader rfl tag hdecodable 3).2.1 rfl
  exact ⟨rfl, hdecodable, rfl, hshort, hlaw.1 hshort⟩

/-- A reader that has met the end of its source is moved back to its start, where two units are there to
    be read. It reads one, cleanly, and stops. -/
theorem rewound_run_stops_short :
    let tag : Tag := (Elementary.number .int).tag
    let first := start (Cursor.ofBytes [5, 0, 6, 0, 7]) {}
    let reader := first.after [.readUnits tag 3, .change (Cursor.seek 0)]
    reader.settings.strict = false ∧ tag.isDecodable = true
      ∧ reader.source.ahead = [5, 0, 6, 0, 7]
      ∧ reader.units (.readUnits tag 2) = [.clean (.number .int 5)]
      ∧ (reader.perform (.readUnits tag 2)).response = .values [.number .int 5] := by
  decide

end Reader

end CipUnits
