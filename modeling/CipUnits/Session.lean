import CipUnits.Reader

/-!
# `CipUnits.Session` — a reader in use

A session is a sequence of operations on one reader: reading, taking the faults on record, and changing
the source behind the reader's back.

## Contents
- `Reader.Operation`, `Reader.Response` — what is asked of a reader and what it answers.
- `Reader.perform` — one operation; `Reader.performAll` — a whole session.
-/

namespace CipUnits.Reader

/-- What can be asked of a reader. -/
inductive Operation (σ : Type) where
  | readUnit (tag : Tag)
  | readUnits (tag : Tag) (count : Nat)
  | takeFaults
  /-- Changes the source. -/
  | change (edit : σ → σ)

/-- What a reader answers. -/
inductive Response where
  | value (value : Value)
  | values (values : List Value)
  | faults (faults : List Fault)
  | changed
  | error (e : ReadError)
deriving DecidableEq

/-- What one operation came to: its response, the reader after it and the events on the way. -/
structure Performed (σ : Type) where
  response : Response
  reader : Reader σ
  events : List Event

variable {σ : Type} [ByteSource σ]

/-- Performs one operation. -/
def perform (reader : Reader σ) : Operation σ → Performed σ
  | .readUnit tag =>
      let done := reader.readUnit tag
      match done.answer with
      | .ok value => ⟨.value value, done.reader, done.events⟩
      | .error e => ⟨.error e, done.reader, done.events⟩
  | .readUnits tag count =>
      let done := reader.readUnits tag count
      match done.answer with
      | .ok values => ⟨.values values, done.reader, done.events⟩
      | .error e => ⟨.error e, done.reader, done.events⟩
  | .takeFaults =>
      let (faults, after) := reader.takeFaults
      ⟨.faults faults, after, []⟩
  | .change edit => ⟨.changed, reader.mapSource edit, []⟩

/-- Performs the operations of a session in turn, each on the reader that the one before left. -/
def performAll (reader : Reader σ) : List (Operation σ) → List (Performed σ)
  | [] => []
  | operation :: operations =>
      let done := reader.perform operation
      done :: performAll done.reader operations

end CipUnits.Reader
