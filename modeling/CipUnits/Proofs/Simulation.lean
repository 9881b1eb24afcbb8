import CipUnits.Proofs.Run
import Mathlib.Data.List.Forall2

/-!
# `CipUnits.Proofs.Simulation` — readers that answer alike

Two kinds of source are interchangeable along a relation if related sources serve every request with
the same bytes and the same failure and stay related. Readers over related sources then decode the same
units, in every mode. How much of their answers agrees depends on what else they share:

* readers that may differ in their record (`Alike`) agree on all but the faults that `takeFaults` hands
  over and the number of recorded faults in the event of a run;
* readers that share settings and record as well (`Same`) agree on everything.

## Contents
- **Sources.** `Interchangeable`; `unit_decode_congr`, a unit depends on the request alone.
- **Readers.** `Alike` and `Same`, and `Alike` through a step and a run.
- **Operations and sessions.** `Alike.perform` and `Same.perform`, then `performAll` by induction.
-/

namespace CipUnits

variable {σ τ : Type} [ByteSource σ] [ByteSource τ]

/-! ## Sources -/

/-- Sources related by `R` serve every request alike and stay related. -/
structure Interchangeable (R : σ → τ → Prop) : Prop where
  bytes {a : σ} {b : τ} (h : R a b) (n : Nat) :
    (ByteSource.gather n a).bytes = (ByteSource.gather n b).bytes
  failure? {a : σ} {b : τ} (h : R a b) (n : Nat) :
    (ByteSource.gather n a).failure? = (ByteSource.gather n b).failure?
  rest {a : σ} {b : τ} (h : R a b) (n : Nat) :
    R (ByteSource.gather n a).rest (ByteSource.gather n b).rest

theorem Interchangeable.refl : Interchangeable (σ := σ) Eq where
  bytes h n := by rw [h]
  failure? h n := by rw [h]
  rest h n := by rw [h]

/-- A unit depends on nothing but the bytes that arrive for it and the failure that stops them. -/
theorem Elementary.unit_decode_congr (type : Elementary) {a : σ} {b : τ}
    (hbytes : (ByteSource.gather type.width a).bytes = (ByteSource.gather type.width b).bytes)
    (hfailure : (ByteSource.gather type.width a).failure? = (ByteSource.gather type.width b).failure?) :
    (type.decode a).unit = (type.decode b).unit := by
  unfold Elementary.decode
  cases ha : ByteSource.gather type.width a with
  | full block rest =>
      cases hb : ByteSource.gather type.width b with
      | full block' rest' =>
          rw [ha, hb] at hbytes
          have hblock : block = block' := Subtype.ext hbytes
          simp only [hblock]
      | cut taken why rest' =>
          rw [ha, hb] at hfailure
          exact absurd hfailure (by simp [Gathered.failure?])
  | cut taken why rest =>
      cases hb : ByteSource.gather type.width b with
      | full block' rest' =>
          rw [ha, hb] at hfailure
          exact absurd hfailure (by simp [Gathered.failure?])
      | cut taken' why' rest' =>
          rw [ha, hb] at hfailure
          have hwhy : why = why' := Option.some.inj hfailure
          simp only [hwhy]

namespace Reader

/-! ## Readers -/

/-- Readers over related sources that share all but what they keep on record. -/
structure Alike (R : σ → τ → Prop) (first : Reader σ) (second : Reader τ) : Prop where
  source : R first.source second.source
  strict : first.settings.strict = second.settings.strict
  consumed : first.consumed = second.consumed
  exhausted : first.exhausted = second.exhausted

/-- Readers over related sources that share everything else. -/
structure Same (R : σ → τ → Prop) (first : Reader σ) (second : Reader τ) : Prop extends
    Alike R first second where
  settings : first.settings = second.settings
  record : first.record = second.record

section

variable {R : σ → τ → Prop} (hR : Interchangeable R) {first : Reader σ} {second : Reader τ}

include hR

theorem Alike.unit_step (h : Alike R first second) (type : Elementary) :
    (first.step type).1 = (second.step type).1 :=
  type.unit_decode_congr (hR.bytes h.source _) (hR.failure? h.source _)

theorem Alike.step (h : Alike R first second) (type : Elementary) :
    Alike R (first.step type).2 (second.step type).2 where
  source := by
    simpa only [Reader.step, Elementary.rest_decode] using hR.rest h.source type.width
  strict := h.strict
  consumed := by
    simp only [Reader.step, Elementary.used_decode, h.consumed, hR.bytes h.source]
  exhausted := by
    have hunit : (type.decode first.source).unit = (type.decode second.source).unit :=
      h.unit_step hR type
    simp only [Reader.step, h.exhausted, hunit]

omit hR [ByteSource σ] [ByteSource τ] in
theorem Alike.surfaced? (h : Alike R first second) (unit : Decoded) :
    first.settings.surfaced? unit = second.settings.surfaced? unit := by
  simp only [Settings.surfaced?, h.strict]

/-- A run of alike readers decodes the same units and comes to the same answer and events. -/
theorem Alike.attempts (h : Alike R first second) (type : Elementary) (count : Nat) :
    (first.attempts type.tag count).answer = (second.attempts type.tag count).answer
      ∧ (first.attempts type.tag count).events = (second.attempts type.tag count).events
      ∧ first.attempted type count = second.attempted type count
      ∧ Alike R (first.attempts type.tag count).reader (second.attempts type.tag count).reader := by
  induction count generalizing first second with
  | zero => exact ⟨rfl, rfl, rfl, h⟩
  | succ count ih =>
      have hstep := h.step hR type
      -- both runs decide on the same unit, mode and end, so they stop or go on together
      simp only [attempts_succ, attempted, h.surfaced?, h.unit_step hR, hstep.exhausted]
      cases second.settings.surfaced? (second.step type).1 with
      | some fault => simpa using hstep
      | none =>
          obtain ⟨hanswer, hevents, hunits, hafter⟩ := ih hstep
          by_cases hend : (second.step type).2.exhausted = true
          · simpa [hend] using hstep
          · simpa [hend, hanswer, hevents, hunits] using hafter

end

/-! ## Operations -/

/-- Operations that ask for the same, and change related sources into related ones. -/
inductive Operation.Alike (R : σ → τ → Prop) : Operation σ → Operation τ → Prop where
  | readUnit (tag : Tag) : Alike R (.readUnit tag) (.readUnit tag)
  | readUnits (tag : Tag) (count : Nat) : Alike R (.readUnits tag count) (.readUnits tag count)
  | takeFaults : Alike R .takeFaults .takeFaults
  | change {edit : σ → σ} {edit' : τ → τ} (h : ∀ a b, R a b → R (edit a) (edit' b)) :
      Alike R (.change edit) (.change edit')

omit [ByteSource σ] in
theorem Operation.Alike.refl (operation : Operation σ) : Operation.Alike Eq operation operation := by
  cases operation with
  | readUnit tag => exact .readUnit tag
  | readUnits tag count => exact .readUnits tag count
  | takeFaults => exact .takeFaults
  | change edit => exact .change fun _ _ h => congrArg edit h

omit [ByteSource σ] [ByteSource τ] in
/-- A query asks for the same, whatever the sources are. -/
theorem Query.alike_operation (R : σ → τ → Prop) (query : Query) :
    Operation.Alike R query.operation query.operation := by
  cases query with
  | readUnit tag => exact .readUnit tag
  | readUnits tag count => exact .readUnits tag count
  | takeFaults => exact .takeFaults

/-- A response without the faults that it hands over. -/
def Response.withoutFaults : Response → Response
  | .faults _ => .faults []
  | response => response

end Reader

/-- An event without the number of faults on record. -/
def Event.withoutCount : Event → Event
  | .run tag count _ => .run tag count 0
  | event => event

namespace Reader

/-- What two operations came to, when all that differs is what stands on record. -/
structure Performed.Alike (R : σ → τ → Prop) (first : Performed σ) (second : Performed τ) : Prop where
  response : first.response.withoutFaults = second.response.withoutFaults
  events : first.events.map Event.withoutCount = second.events.map Event.withoutCount
  reader : Reader.Alike R first.reader second.reader

/-- What two operations came to, when nothing differs but the kind of source. -/
structure Performed.Same (R : σ → τ → Prop) (first : Performed σ) (second : Performed τ) : Prop where
  response : first.response = second.response
  events : first.events = second.events
  reader : Reader.Same R first.reader second.reader

section

variable {R : σ → τ → Prop} (hR : Interchangeable R) {first : Reader σ} {second : Reader τ}
variable {operation : Operation σ} {operation' : Operation τ}

include hR

theorem Alike.units (h : Alike R first second) (hop : Operation.Alike R operation operation') :
    first.units operation = second.units operation' := by
  cases hop with
  | readUnit tag => simp only [Reader.units, h.unit_step hR]
  | readUnits tag count =>
      have hrun : ∀ type : Elementary, first.attempted type count = second.attempted type count :=
        fun type => (h.attempts hR type count).2.2.1
      simp only [Reader.units, hrun]
  | takeFaults => rfl
  | change _ => rfl

/-- **Alike readers stay alike.** Once their records agree, so do their responses and events. -/
theorem Alike.perform (h : Alike R first second) (hop : Operation.Alike R operation operation') :
    Performed.Alike R (first.perform operation) (second.perform operation')
      ∧ (first.record = second.record →
          (first.perform operation).response = (second.perform operation').response)
      ∧ ((first.perform operation).reader.record = (second.perform operation').reader.record →
          (first.perform operation).events = (second.perform operation').events) := by
  cases hop with
  | readUnit tag =>
      cases htag : tag.elementary? with
      | none =>
          rw [perform_readUnit_unsupported htag, perform_readUnit_unsupported htag]
          exact ⟨⟨rfl, rfl, h⟩, fun _ => rfl, fun _ => rfl⟩
      | some type =>
          obtain rfl := Tag.elementary?_eq_some_iff.mp htag
          rw [perform_readUnit_tag, perform_readUnit_tag, h.surfaced?, h.unit_step hR]
          exact ⟨⟨rfl, rfl, h.step hR type⟩, fun _ => rfl, fun _ => rfl⟩
  | readUnits tag count =>
      cases htag : tag.elementary? with
      | none =>
          rw [perform_readUnits_unsupported htag, perform_readUnits_unsupported htag]
          exact ⟨⟨rfl, rfl, h⟩, fun _ => rfl, fun _ => rfl⟩
      | some type =>
          obtain rfl := Tag.elementary?_eq_some_iff.mp htag
          obtain ⟨hanswer, hevents, -, hafter⟩ := h.attempts hR type count
          rw [perform_readUnits_tag, perform_readUnits_tag, hanswer, hevents]
          cases (second.attempts type.tag count).answer with
          | error e => exact ⟨⟨rfl, rfl, hafter⟩, fun _ => rfl, fun _ => rfl⟩
          | ok values =>
              -- the event of the run is all that shows the number of faults on record
              refine ⟨⟨rfl, ?_, hafter⟩, fun _ => rfl, ?_⟩
              · simp [Event.withoutCount]
              · intro (hrecord : (first.attempts type.tag count).reader.record
                  = (second.attempts type.tag count).reader.record)
                simp only [hrecord]
  | takeFaults =>
      refine ⟨⟨rfl, rfl, { h with }⟩, ?_, fun _ => rfl⟩
      intro hrecord
      simp only [Reader.perform, takeFaults, hrecord]
  | change hedit =>
      have hsource := hedit _ _ h.source
      exact ⟨⟨rfl, rfl, { h with source := hsource }⟩, fun _ => rfl, fun _ => rfl⟩

/-- **The same readers stay the same.** -/
theorem Same.perform (h : Same R first second) (hop : Operation.Alike R operation operation') :
    Performed.Same R (first.perform operation) (second.perform operation') := by
  obtain ⟨halike, hresponse, hevents⟩ := h.toAlike.perform hR hop
  have hadjust : (operation.adjust first).record = (operation'.adjust second).record := by
    cases hop with
    | takeFaults => rfl
    | readUnit _ | readUnits _ _ | change _ => exact h.record
  -- both records note the same units, starting from the same record
  have hrecord : (first.perform operation).reader.record
      = (second.perform operation').reader.record := by
    rw [(reads_perform first operation).record, (reads_perform second operation').record]
    rw [h.toAlike.units hR hop, hadjust, Operation.settings_adjust, Operation.settings_adjust, h.settings]
  have hsettings : (first.perform operation).reader.settings
      = (second.perform operation').reader.settings := by
    rw [settings_perform, settings_perform, h.settings]
  exact ⟨hresponse h.record, hevents hrecord,
    { halike.reader with settings := hsettings, record := hrecord }⟩

/-! ## Sessions -/

variable {operations : List (Operation σ)} {operations' : List (Operation τ)}

theorem Alike.performAll (h : Alike R first second)
    (hops : List.Forall₂ (Operation.Alike R) operations operations') :
    List.Forall₂ (Performed.Alike R) (first.performAll operations) (second.performAll operations') := by
  induction hops generalizing first second with
  | nil => exact .nil
  | cons hop _ ih =>
      have hdone := (h.perform hR hop).1
      exact .cons hdone (ih hdone.reader)

theorem Alike.history (h : Alike R first second)
    (hops : List.Forall₂ (Operation.Alike R) operations operations') :
    first.history operations = second.history operations' := by
  induction hops generalizing first second with
  | nil => rfl
  | cons hop _ ih => simp only [Reader.history, h.units hR hop, ih (h.perform hR hop).1.reader]

theorem Same.performAll (h : Same R first second)
    (hops : List.Forall₂ (Operation.Alike R) operations operations') :
    List.Forall₂ (Performed.Same R) (first.performAll operations) (second.performAll operations') := by
  induction hops generalizing first second with
  | nil => exact .nil
  | cons hop _ ih =>
      have hdone := h.perform hR hop
      exact .cons hdone (ih hdone.reader)

end

end Reader

end CipUnits
