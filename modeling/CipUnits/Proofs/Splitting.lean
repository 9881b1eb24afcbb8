import CipUnits.Proofs.Run
import CipUnits.Source.Cursor
import CipUnits.Source.Script

/-!
# `CipUnits.Proofs.Splitting` — a run made in two parts

A run can be made in two parts, where the second starts from the reader that the first has left. It comes
to what the whole run comes to, with one exception. Each part asks whether the source has ended behind a
unit, and never before one. So if the first part has met the end, a second part would still decode a
unit, but the whole run is over. The same holds of a run that has come to an error.

## Contents
- `Outcome.resume` — what becomes of a run if more units are asked for.
- `attempts_add` — a run for more units is a resumed run; `attempts_of_error`, `attempts_of_ended` and
  `attempts_of_open`, by how the first part has ended; `length_of_open`, how far it came.
- `splitting_law` — what a reader answers to both, and the state that it is left in.
-/

namespace CipUnits.Reader

variable {σ : Type} [ByteSource σ]

/-! ## Resuming -/

/-- What becomes of a run if more units are asked for. A run that has come to an error or to the end of
    its source is over; any other goes on from where it stopped. -/
def Outcome.resume (tag : Tag) (more : Nat) (run : Outcome σ (List Value)) : Outcome σ (List Value) :=
  match run.answer with
  | .error _ => run
  | .ok values =>
      if run.reader.exhausted then run
      else
        let later := run.reader.attempts tag more
        ⟨later.answer.map (values ++ ·), later.reader, run.events ++ later.events⟩

section

variable {tag : Tag} {more : Nat} {run : Outcome σ (List Value)} {values : List Value}

theorem Outcome.resume_of_error {e : ReadError} (hanswer : run.answer = .error e) :
    run.resume tag more = run := by
  rw [resume, hanswer]

theorem Outcome.resume_of_ended (hanswer : run.answer = .ok values) (hended : run.reader.exhausted = true) :
    run.resume tag more = run := by
  rw [resume, hanswer]
  dsimp only
  rw [if_pos hended]

theorem Outcome.resume_of_open (hanswer : run.answer = .ok values) (hopen : run.reader.exhausted = false) :
    run.resume tag more =
      ⟨(run.reader.attempts tag more).answer.map (values ++ ·), (run.reader.attempts tag more).reader,
        run.events ++ (run.reader.attempts tag more).events⟩ := by
  rw [resume, hanswer]
  simp [hopen]

/-- A unit in front of a run is in front of the resumed run. -/
theorem Outcome.resume_cons (value : Value) (event : Event) :
    Outcome.resume tag more ⟨run.answer.map (value :: ·), run.reader, event :: run.events⟩
      = ⟨(run.resume tag more).answer.map (value :: ·), (run.resume tag more).reader,
          event :: (run.resume tag more).events⟩ := by
  cases hanswer : run.answer with
  | error e => simp [resume, hanswer, Except.map]
  | ok values =>
      cases hended : run.reader.exhausted with
      | true => simp [resume, hanswer, hended, Except.map]
      | false =>
          simp only [resume, hanswer, hended, Except.map]
          cases (run.reader.attempts tag more).answer <;> rfl

end

/-! ## Runs -/

variable {reader : Reader σ} {type : Elementary}

/-- **A run for more units is a resumed run.** If no unit has been asked for yet, this needs a source that
    has not ended. -/
theorem attempts_add {first : Nat} (more : Nat) (h : 0 < first ∨ reader.exhausted = false) :
    reader.attempts type.tag (first + more) = (reader.attempts type.tag first).resume type.tag more := by
  induction first generalizing reader with
  | zero =>
      have hopen : reader.exhausted = false := h.resolve_left (Nat.lt_irrefl 0)
      have hnone : (reader.attempts type.tag 0).resume type.tag more = _ :=
        Outcome.resume_of_open rfl hopen
      rw [hnone, Nat.zero_add]
      show reader.attempts type.tag more
        = ⟨(reader.attempts type.tag more).answer.map ([] ++ ·), (reader.attempts type.tag more).reader,
            [] ++ (reader.attempts type.tag more).events⟩
      cases hanswer : (reader.attempts type.tag more).answer <;> simp [Except.map, ← hanswer]
  | succ first ih =>
      rw [Nat.succ_add, attempts_succ, attempts_succ]
      cases hfault : reader.settings.surfaced? (reader.step type).1 with
      | some fault => exact (Outcome.resume_of_error rfl).symm
      | none =>
          dsimp only
          -- the source is looked at behind the unit, so from here on it is known not to have ended
          by_cases hended : (reader.step type).2.exhausted = true
          · rw [if_pos hended, if_pos hended]
            exact (Outcome.resume_of_ended rfl hended).symm
          · rw [if_neg hended, if_neg hended, ih (.inr (eq_false_of_ne_true hended))]
            exact (Outcome.resume_cons _ _).symm

/-- A run that comes to an error stays there. -/
theorem attempts_of_error {first : Nat} (hfirst : 0 < first) {e : ReadError}
    (hanswer : (reader.attempts type.tag first).answer = .error e) (more : Nat) :
    reader.attempts type.tag (first + more) = reader.attempts type.tag first := by
  rw [attempts_add more (.inl hfirst), Outcome.resume_of_error hanswer]

/-- A run behind which the source has ended is over. -/
theorem attempts_of_ended {first : Nat} (hfirst : 0 < first) {values : List Value}
    (hanswer : (reader.attempts type.tag first).answer = .ok values)
    (hended : (reader.attempts type.tag first).reader.exhausted = true) (more : Nat) :
    reader.attempts type.tag (first + more) = reader.attempts type.tag first := by
  rw [attempts_add more (.inl hfirst), Outcome.resume_of_ended hanswer hended]

/-- A run that has come to no error, and behind which the source has not ended, goes on. -/
theorem attempts_of_open {first : Nat} {values : List Value}
    (hanswer : (reader.attempts type.tag first).answer = .ok values)
    (hopen : (reader.attempts type.tag first).reader.exhausted = false) (more : Nat) :
    let back := (reader.attempts type.tag first).reader.attempts type.tag more
    (reader.attempts type.tag (first + more)).answer = back.answer.map (values ++ ·)
      ∧ (reader.attempts type.tag (first + more)).reader = back.reader := by
  have hgoes : 0 < first ∨ reader.exhausted = false := by
    cases first with
    | zero => exact .inr hopen
    | succ first => exact .inl (Nat.succ_pos first)
  rw [attempts_add more hgoes, Outcome.resume_of_open hanswer hopen]
  exact ⟨rfl, rfl⟩

/-- The first unit of such a run surfaces no fault and is not behind the end, and the rest of the run goes
    on as well. -/
theorem exists_of_open_succ {count : Nat} {values : List Value}
    (hanswer : (reader.attempts type.tag (count + 1)).answer = .ok values)
    (hopen : (reader.attempts type.tag (count + 1)).reader.exhausted = false) :
    let next := (reader.step type).2
    next.exhausted = false
      ∧ (reader.attempts type.tag (count + 1)).reader = (next.attempts type.tag count).reader
      ∧ ∃ later, (next.attempts type.tag count).answer = .ok later
          ∧ values = (reader.step type).1.value :: later := by
  intro next
  rw [attempts_succ] at hanswer hopen ⊢
  cases hfault : reader.settings.surfaced? (reader.step type).1 with
  | some fault =>
      rw [hfault] at hanswer
      cases hanswer
  | none =>
      rw [hfault] at hanswer hopen
      dsimp only at hanswer hopen ⊢
      by_cases hended : (reader.step type).2.exhausted = true
      · rw [if_pos hended] at hopen
        exact absurd hended (ne_true_of_eq_false hopen)
      · rw [if_neg hended] at hanswer ⊢
        refine ⟨eq_false_of_ne_true hended, rfl, ?_⟩
        cases hlater : (next.attempts type.tag count).answer with
        | error e =>
            rw [hlater] at hanswer
            cases hanswer
        | ok later =>
            rw [hlater] at hanswer
            exact ⟨later, rfl, (Except.ok.inj hanswer).symm⟩

/-- Such a run has all units that it was asked for. -/
theorem length_of_open {count : Nat} {values : List Value}
    (hanswer : (reader.attempts type.tag count).answer = .ok values)
    (hopen : (reader.attempts type.tag count).reader.exhausted = false) : values.length = count := by
  induction count generalizing reader values with
  | zero =>
      cases hanswer
      rfl
  | succ count ih =>
      obtain ⟨-, hlast, later, hlater, rfl⟩ := exists_of_open_succ hanswer hopen
      rw [hlast] at hopen
      rw [List.length_cons, ih hlater hopen]

/-! ## The law -/

/-- The values of an earlier run in front of what a later run answers, if these are values. -/
def Response.behind (earlier : List Value) : Response → Response
  | .values later => .values (earlier ++ later)
  | response => response

/-- A whole run is made of a front part for some units and a back part from where that stopped. -/
structure Splits (first : Nat) (front back whole : Performed σ) : Prop where
  /-- The front part answers an error or values, and nothing else. -/
  answers : (∃ e, front.response = .error e) ∨ ∃ values, front.response = .values values
  /-- An error in the front part is that of the whole run, which stops there. -/
  error : ∀ e, front.response = .error e →
    whole.response = .error e ∧ whole.reader = front.reader
  /-- If the source has ended behind the front part, the whole run stops there as well. -/
  ended : ∀ values, front.response = .values values → front.reader.exhausted = true →
    whole.response = .values values ∧ whole.reader = front.reader
  /-- Otherwise the front part has all its units, and the whole run goes on as the back part does. -/
  goesOn : ∀ values, front.response = .values values → front.reader.exhausted = false →
    values.length = first ∧ whole.response = back.response.behind values ∧ whole.reader = back.reader

/-- **Splitting.** A run of a decodable tag for `first + more` units, where `first` is not zero, comes to
    what a run for `first` units and then one for `more` units come to, from every state of a reader,
    strict or lenient, and on every source. If the first of the two ends with an error or at the end of
    the source, the whole run has ended with it, whatever `more` is. -/
theorem splitting_law (reader : Reader σ) (tag : Tag) (htag : tag.isDecodable = true) (first : Nat)
    (hfirst : 0 < first) (more : Nat) :
    let front := reader.perform (.readUnits tag first)
    Splits first front (front.reader.perform (.readUnits tag more))
      (reader.perform (.readUnits tag (first + more))) := by
  obtain ⟨type, rfl⟩ := Tag.isDecodable_iff.mp htag
  intro front
  have hfront : front = _ := perform_readUnits_tag type first reader
  have hback := perform_readUnits_tag type more front.reader
  have hwhole := perform_readUnits_tag type (first + more) reader
  cases hanswer : (reader.attempts type.tag first).answer with
  | error e =>
      rw [attempts_of_error hfirst hanswer, hanswer] at hwhole
      rw [hanswer] at hfront
      refine { answers := ?_, error := ?_, ended := ?_, goesOn := ?_ }
      · exact .inl ⟨e, by rw [hfront]⟩
      · intro e' he
        rw [hwhole, hfront]
        rw [hfront] at he
        exact ⟨he, rfl⟩
      · intro values hvalues
        rw [hfront] at hvalues
        cases hvalues
      · intro values hvalues
        rw [hfront] at hvalues
        cases hvalues
  | ok earlier =>
      rw [hanswer] at hfront
      have hreader : front.reader = (reader.attempts type.tag first).reader := by rw [hfront]
      have hresponse : front.response = .values earlier := by rw [hfront]
      refine { answers := .inr ⟨_, hresponse⟩, error := ?_, ended := ?_, goesOn := ?_ }
      · intro e he
        rw [hresponse] at he
        cases he
      · intro values hvalues hended
        rw [hreader] at hended ⊢
        rw [attempts_of_ended hfirst hanswer hended, hanswer] at hwhole
        rw [hwhole, ← hvalues, hresponse]
        exact ⟨rfl, rfl⟩
      · intro values hvalues hopen
        obtain rfl : earlier = values := by
          rw [hresponse] at hvalues
          exact Response.values.inj hvalues
        rw [hreader] at hopen hback ⊢
        obtain ⟨hall, hlast⟩ := attempts_of_open hanswer hopen more
        refine ⟨length_of_open hanswer hopen, ?_, ?_⟩
        · rw [hwhole, hback, hall]
          cases ((reader.attempts type.tag first).reader.attempts type.tag more).answer with
          | error e => rfl
          | ok later => simp [Except.map, Response.behind]
        · rw [reader_readUnits_tag, reader_readUnits_tag, hlast]

/-- A unit, a failure and a unit and a half, taken two and three at a time. The failure does not end the
    front part, and the end of the script ends the back part before its count. -/
theorem splitting_law_of_two_and_three :
    let broken : Failure := ⟨.other "BrokenPipe", "gone"⟩
    let reader := start ([.data [1, 0], .fail broken 1, .data [2, 0, 3]] : Script) {}
    let tag : Tag := (Elementary.number .int).tag
    let front := reader.perform (.readUnits tag 2)
    let back := front.reader.perform (.readUnits tag 3)
    tag.isDecodable = true ∧ 0 < 2 ∧ front.reader.exhausted = false
      ∧ front.response = .values [.number .int 1, .number .int 0]
      ∧ back.response = .values [.number .int 2, .number .int 0]
      ∧ Splits 2 front back (reader.perform (.readUnits tag 5))
      ∧ (reader.perform (.readUnits tag 5)).response
          = .values [.number .int 1, .number .int 0, .number .int 2, .number .int 0] := by
  intro broken reader tag front back
  have htag : tag.isDecodable = true := by decide
  have hopen : front.reader.exhausted = false := by decide
  have hfront : front.response = .values [.number .int 1, .number .int 0] := by decide
  have hback : back.response = .values [.number .int 2, .number .int 0] := by decide
  have hsplits : Splits 2 front back (reader.perform (.readUnits tag (2 + 3))) :=
    splitting_law reader tag htag 2 (by decide) 3
  obtain ⟨-, hwhole, -⟩ := hsplits.goesOn _ hfront hopen
  rw [hback] at hwhole
  exact ⟨htag, by decide, hopen, hfront, hback, hsplits, hwhole⟩

/-- A run for no units does not ask whether the source has ended, and a run behind it decodes one. -/
example :
    let tag : Tag := (Elementary.number .int).tag
    let reader := (start (Cursor.ofBytes []) {}).after [.readUnit tag]
    reader.exhausted = true ∧ (reader.perform (.readUnits tag 0)).response = .values []
      ∧ (reader.perform (.readUnits tag (0 + 1))).response = .values [.number .int 0] := by
  decide

end CipUnits.Reader
