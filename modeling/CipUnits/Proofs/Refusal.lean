import CipUnits.Proofs.Events
import CipUnits.Proofs.Simulation
import CipUnits.Proofs.WireFormat

/-!
# `CipUnits.Proofs.Refusal` — tags that are refused

A tag is looked up more than once before its unit is decoded. A run asks first whether the tag is on the
list of decodable ones; each unit takes its zero from a table, reads as many bytes as the tag says and
then looks for a getter in another table. If a tag had a zero but no getter, it would be refused when
its bytes are gone. The tables are written out here one by one, as lists that need not agree, and shown
to agree. So a refusal comes before anything is read, and it comes for the same tags from a unit and from
a run.

That nothing is read is more than that the source is the same afterwards. A source that is watched keeps
account of the requests made to it, and is otherwise the source that it was: there is one request for
each unit decoded, and no other.

## Contents
- **Tables.** `Tag.isListed`, `Tag.zero?` and `Tag.getter?`; `Tag.TablesAgree` and `tablesAgree`.
- `Tag.decodeByTables` and `decodeByTables_eq` — the late refusal is never met.
- **Watching.** `Watched` and `interchangeable_watched`; `Reader.requests` and `requests_eq`.
- **Answers.** `Operation.HandsOut`, `Answers`; `answers_readUnit` and `answers_readUnits`.
- `refusal_law` — every tag, every state of a reader, every count.
-/

namespace CipUnits

/-! ## Tables -/

/-- The elementary types, in the order of the code table. -/
def Elementary.all : List Elementary :=
  [.bool, .number .byte, .number .sint, .number .int, .number .dint, .number .lint, .number .usint,
    .number .uint, .number .udint, .number .lword, .number .real, .number .lreal, .number .word,
    .number .dword, .string]

theorem Elementary.mem_all (type : Elementary) : type ∈ Elementary.all := by
  cases type with
  | bool | string => decide
  | number type => cases type <;> decide

namespace Tag

/-- The tags of truth values and numbers. -/
def scalars : List Tag :=
  [⟨0xC1⟩, ⟨0xD1⟩, ⟨0xC2⟩, ⟨0xC3⟩, ⟨0xC4⟩, ⟨0xC5⟩, ⟨0xC6⟩, ⟨0xC7⟩, ⟨0xC8⟩, ⟨0xC9⟩, ⟨0xCA⟩, ⟨0xCB⟩,
    ⟨0xD2⟩, ⟨0xD3⟩]

/-- Whether a tag is on the list of those that a run may be asked for. -/
def isListed (tag : Tag) : Bool := scalars.contains tag || tag == ⟨0xDA⟩

/-- The zeros of tags. -/
def zeros : List (Tag × Value) :=
  [(⟨0xC1⟩, .bool false), (⟨0xD1⟩, .number .byte 0), (⟨0xC2⟩, .number .sint 0),
    (⟨0xC3⟩, .number .int 0), (⟨0xC4⟩, .number .dint 0), (⟨0xC5⟩, .number .lint 0),
    (⟨0xC6⟩, .number .usint 0), (⟨0xC7⟩, .number .uint 0), (⟨0xC8⟩, .number .udint 0),
    (⟨0xC9⟩, .number .lword 0), (⟨0xCA⟩, .number .real 0), (⟨0xCB⟩, .number .lreal 0),
    (⟨0xD2⟩, .number .word 0), (⟨0xD3⟩, .number .dword 0), (⟨0xDA⟩, .string (Block.zeros _))]

/-- The zero of a tag. -/
def zero? (tag : Tag) : Option Value := zeros.lookup tag

/-- What gets the value of a unit from the front of a buffer, and leaves the rest of it. -/
abbrev Getter := List UInt8 → Option (Value × List UInt8)

/-- The getters of tags. -/
def getters : List (Tag × Getter) :=
  [(⟨0xC1⟩, Elementary.bool.get?), (⟨0xD1⟩, (Elementary.number .byte).get?),
    (⟨0xC2⟩, (Elementary.number .sint).get?), (⟨0xC3⟩, (Elementary.number .int).get?),
    (⟨0xC4⟩, (Elementary.number .dint).get?), (⟨0xC5⟩, (Elementary.number .lint).get?),
    (⟨0xC6⟩, (Elementary.number .usint).get?), (⟨0xC7⟩, (Elementary.number .uint).get?),
    (⟨0xC8⟩, (Elementary.number .udint).get?), (⟨0xC9⟩, (Elementary.number .lword).get?),
    (⟨0xCA⟩, (Elementary.number .real).get?), (⟨0xCB⟩, (Elementary.number .lreal).get?),
    (⟨0xD2⟩, (Elementary.number .word).get?), (⟨0xD3⟩, (Elementary.number .dword).get?),
    (⟨0xDA⟩, Elementary.string.get?)]

/-- The getter of a tag. -/
def getter? (tag : Tag) : Option Getter := getters.lookup tag

/-- A table with one row for each elementary type is a function of the type that a tag stands for. -/
theorem lookup_of_table {α : Type} {table : List (Tag × α)} {entry : Elementary → α}
    (htable : table = Elementary.all.map fun type => (type.tag, entry type)) (tag : Tag) :
    table.lookup tag = tag.elementary?.map entry := by
  rw [htable]
  cases htag : tag.elementary? with
  | none =>
      -- every row is that of a type, and this tag has none
      rw [Option.map_none, List.lookup_eq_none_iff]
      intro row hrow
      obtain ⟨type, -, rfl⟩ := List.mem_map.mp hrow
      rw [bne_iff_ne]
      rintro rfl
      simp at htag
  | some type =>
      obtain rfl := elementary?_eq_some_iff.mp htag
      cases type with
      | bool | string => rfl
      | number type => cases type <;> rfl

theorem zero?_eq (tag : Tag) : tag.zero? = tag.elementary?.map Value.zero := by
  have htable : zeros = Elementary.all.map fun type => (type.tag, Value.zero type) := rfl
  exact lookup_of_table htable tag

theorem getter?_eq (tag : Tag) : tag.getter? = tag.elementary?.map Elementary.get? := by
  have htable : getters = Elementary.all.map fun type => (type.tag, type.get?) := rfl
  exact lookup_of_table htable tag

theorem isListed_eq (tag : Tag) : tag.isListed = tag.isDecodable := by
  have hlist : scalars ++ [⟨0xDA⟩] = Elementary.all.map Elementary.tag := rfl
  have hmem : tag.isListed = true ↔ tag ∈ Elementary.all.map Elementary.tag := by
    rw [← hlist, isListed, Bool.or_eq_true, List.contains_iff_mem, beq_iff_eq, List.mem_append,
      List.mem_singleton]
  rw [Bool.eq_iff_iff, hmem, isDecodable_iff, List.mem_map]
  constructor
  · rintro ⟨type, -, rfl⟩
    exact ⟨type, rfl⟩
  · rintro ⟨type, rfl⟩
    exact ⟨type, type.mem_all, rfl⟩

/-- The tables say the same of a tag: it is listed, has a zero and has a getter, or none of these. The
    getter finds in a buffer of the size of one unit all that it takes. -/
structure TablesAgree (tag : Tag) : Prop where
  listed : tag.isListed = tag.isDecodable
  zero : tag.zero?.isSome = tag.isDecodable
  getter : tag.getter?.isSome = tag.isDecodable
  fits : ∀ get, tag.getter? = some get → ∀ buffer : List UInt8, buffer.length = tag.payloadSize →
    ∃ value, get buffer = some (value, []) ∧ value.tag = tag

/-- **The tables agree on every tag.** -/
theorem tablesAgree (tag : Tag) : TablesAgree tag where
  listed := tag.isListed_eq
  zero := by rw [zero?_eq, Option.isSome_map, isDecodable]
  getter := by rw [getter?_eq, Option.isSome_map, isDecodable]
  fits := by
    intro get hget buffer hlength
    rw [getter?_eq] at hget
    obtain ⟨type, htype, rfl⟩ := Option.map_eq_some_iff.mp hget
    obtain rfl := elementary?_eq_some_iff.mp htype
    rw [type.payloadSize_tag] at hlength
    exact ⟨_, type.get?_block ⟨buffer, hlength⟩, congrArg Elementary.tag (Value.type_ofBlock type _)⟩

/-- When a tag is refused. -/
inductive Refused (σ : Type) where
  /-- It has no zero, and nothing has been read. -/
  | atOnce
  /-- It has no getter for the bytes that have been taken from the source. -/
  | behind (taken : List UInt8) (rest : σ)

/-- What a request for the bytes of a unit comes to, given the zero and the getter of the tag. -/
def settle {σ : Type} {n : Nat} (zero : Value) (getter? : Option Getter) :
    Gathered σ n → Except (Refused σ) (Decoding σ)
  | .cut taken why rest => .ok ⟨.faulty ⟨zero.type, why⟩, taken.length, rest⟩
  | .full block rest =>
      match getter?.bind (· block.val) with
      | none => .error (.behind block.val rest)
      | some (value, _) => .ok ⟨.clean value, block.val.length, rest⟩

/-- Decodes the next unit of a tag, with a look at each table where its entry is needed. -/
def decodeByTables {σ : Type} [ByteSource σ] (tag : Tag) (source : σ) : Except (Refused σ) (Decoding σ) :=
  match tag.zero? with
  | none => .error .atOnce
  | some zero => settle zero tag.getter? (ByteSource.gather tag.payloadSize source)

/-- **The late refusal is never met.** Decoding by the tables is decoding by the type of the tag, and
    all refusals come at once. -/
theorem decodeByTables_eq {σ : Type} [ByteSource σ] (tag : Tag) (source : σ) :
    tag.decodeByTables source = (decode tag source).mapError fun _ => .atOnce := by
  unfold decodeByTables
  rw [zero?_eq, getter?_eq]
  cases htag : tag.elementary? with
  | none =>
      have hrefused : decode tag source = .error ⟨tag⟩ := by rw [decode, htag]
      rw [hrefused]
      rfl
  | some type =>
      obtain rfl := elementary?_eq_some_iff.mp htag
      rw [decode_tag]
      -- the size is read off the tag here, and off the type when a unit is decoded
      generalize hsize : type.tag.payloadSize = size
      obtain rfl : type.width = size := type.payloadSize_tag.symm.trans hsize
      change settle (.zero type) (some type.get?) (ByteSource.gather type.width source)
        = .ok (type.decode source)
      unfold Elementary.decode
      cases ByteSource.gather type.width source with
      | full block rest =>
          have hget : (some type.get?).bind (· block.val) = some (.ofBlock type block, []) :=
            type.get?_block block
          rw [settle, hget]
      | cut taken why rest => rw [settle, Value.type_zero]

end Tag

/-! ## Watching -/

/-- The outcome of a request with the source after it replaced. -/
def Gathered.mapRest {σ τ : Type} {n : Nat} (f : σ → τ) : Gathered σ n → Gathered τ n
  | full block rest => full block (f rest)
  | cut taken why rest => cut taken why (f rest)

section

variable {σ τ : Type} {n : Nat} (f : σ → τ) (g : Gathered σ n)

theorem Gathered.bytes_mapRest : (g.mapRest f).bytes = g.bytes := by cases g <;> rfl

theorem Gathered.failure?_mapRest : (g.mapRest f).failure? = g.failure? := by cases g <;> rfl

theorem Gathered.rest_mapRest : (g.mapRest f).rest = f g.rest := by cases g <;> rfl

end

/-- A source with the sizes of the requests that were made to it, the latest last. -/
structure Watched (σ : Type) where
  source : σ
  requests : List Nat := []

/-- A request is put on account, and is otherwise one to the source that is watched. -/
instance {σ : Type} [ByteSource σ] : ByteSource (Watched σ) where
  gather n watched :=
    (ByteSource.gather n watched.source).mapRest fun rest => ⟨rest, watched.requests ++ [n]⟩

theorem Watched.rest_gather {σ : Type} [ByteSource σ] (n : Nat) (watched : Watched σ) :
    (ByteSource.gather n watched).rest
      = ⟨(ByteSource.gather n watched.source).rest, watched.requests ++ [n]⟩ :=
  Gathered.rest_mapRest _ _

/-- A watched source does what the source does. -/
theorem interchangeable_watched {σ : Type} [ByteSource σ] :
    Interchangeable fun (watched : Watched σ) (source : σ) => watched.source = source where
  bytes := by
    rintro watched _ rfl n
    exact Gathered.bytes_mapRest _ _
  failure? := by
    rintro watched _ rfl n
    exact Gathered.failure?_mapRest _ _
  rest := by
    rintro watched _ rfl n
    rw [watched.rest_gather]

namespace Reader

variable {σ : Type} [ByteSource σ]

/-- Decoding a unit makes one request, for the bytes of the unit. -/
theorem requests_step (type : Elementary) (reader : Reader (Watched σ)) :
    (reader.step type).2.source.requests = reader.source.requests ++ [type.width] := by
  change (type.decode reader.source).rest.requests = _
  rw [type.rest_decode, Watched.rest_gather]

/-- Decoding units makes one request for each of them, in order. -/
theorem Reads.requests {reader last : Reader (Watched σ)} {units : List Decoded}
    (h : Reads reader units last) :
    last.source.requests = reader.source.requests ++ units.map (·.value.type.width) := by
  induction h with
  | refl => simp
  | @head reader last units type _ ih =>
      have htype : (reader.step type).1.value.type = type := type.type_value_decode reader.source
      rw [ih, requests_step, List.map_cons, htype, List.append_assoc, List.singleton_append]

omit [ByteSource σ] in
/-- A reader whose source is watched from now on. -/
def watch (reader : Reader σ) : Reader (Watched σ) :=
  { reader with source := { source := reader.source } }

omit [ByteSource σ] in
theorem same_watch (reader : Reader σ) :
    Same (fun (watched : Watched σ) source => watched.source = source) reader.watch reader where
  source := rfl
  strict := rfl
  consumed := rfl
  exhausted := rfl
  settings := rfl
  record := rfl

/-- The sizes of the requests that a query makes. -/
def requests (reader : Reader σ) (query : Query) : List Nat :=
  (reader.watch.perform query.operation).reader.source.requests

/-- **Requests.** A query makes one request for each unit that it decodes, and no other. -/
theorem requests_eq (reader : Reader σ) (query : Query) :
    reader.requests query = (reader.units query.operation).map (·.value.type.width) := by
  have hunits : reader.watch.units query.operation = reader.units query.operation :=
    reader.same_watch.toAlike.units interchangeable_watched (query.alike_operation _)
  have hadjust : (query.operation.adjust reader.watch).source = reader.watch.source := by
    cases query <;> rfl
  have hreads := (reads_perform reader.watch query.operation).requests
  rw [hadjust, hunits] at hreads
  exact hreads

/-! ## Answers -/

/-- A response hands out what an operation asks for, of the tag that it asks for. -/
def Operation.HandsOut {σ : Type} : Operation σ → Response → Prop
  | .readUnit tag, response => ∃ value, response = .value value ∧ value.tag = tag
  | .readUnits tag _, response => ∃ values, response = .values values ∧ ∀ value ∈ values, value.tag = tag
  | .takeFaults, response => ∃ faults, response = .faults faults
  | .change _, response => response = .changed

/-- What a reader answers to an operation that asks for a tag. -/
structure Answers (tag : Tag) (operation : Operation σ) (reader : Reader σ) (done : Performed σ) : Prop where
  /-- The tag is refused exactly if it is not decodable, and no other is refused in its place. -/
  refused (other : Tag) :
    done.response = .error (.unsupported other) ↔ other = tag ∧ tag.isDecodable = false
  /-- A refusal leaves everything as it was: source, count, record, end and settings. -/
  untouched : tag.isDecodable = false → done.reader = reader
  /-- Of a decodable tag a lenient reader hands out what was asked for, whatever the source does. -/
  lenient : tag.isDecodable = true → reader.settings.strict = false → operation.HandsOut done.response
  /-- A strict one does so too or answers a fault of this tag. -/
  strict : tag.isDecodable = true → reader.settings.strict = true →
    operation.HandsOut done.response ∨ ∃ fault, done.response = .error (.fault fault) ∧ fault.tag = tag

section

omit [ByteSource σ]

variable {tag : Tag} {operation : Operation σ} {reader : Reader σ} {done : Performed σ}

theorem Operation.HandsOut.ne_error {response : Response} (h : operation.HandsOut response)
    (e : ReadError) : response ≠ .error e := by
  rintro rfl
  cases operation with
  | readUnit tag => obtain ⟨value, heq, -⟩ := h; cases heq
  | readUnits tag count => obtain ⟨values, heq, -⟩ := h; cases heq
  | takeFaults => obtain ⟨faults, heq⟩ := h; cases heq
  | change edit => cases h

/-- A reader that refuses a tag without a type and does nothing else answers as it should. -/
theorem answers_of_refused (htag : tag.elementary? = none)
    (hresponse : done.response = .error (.unsupported tag)) (hreader : done.reader = reader) :
    Answers tag operation reader done := by
  have hnot : tag.isDecodable = false := by rw [Tag.isDecodable, htag]; rfl
  refine { refused := ?_, untouched := fun _ => hreader, lenient := ?_, strict := ?_ }
  · intro other
    simp [hresponse, hnot, eq_comm]
  · intro hdecodable
    exact absurd hdecodable (by simp [hnot])
  · intro hdecodable
    exact absurd hdecodable (by simp [hnot])

/-- A reader that hands out what was asked for, or else is strict and answers a fault of the tag, answers
    as it should. -/
theorem answers_of_decodable (htag : tag.isDecodable = true)
    (hdone : operation.HandsOut done.response ∨ reader.settings.strict = true
      ∧ ∃ fault, done.response = .error (.fault fault) ∧ fault.tag = tag) :
    Answers tag operation reader done := by
  refine { refused := ?_, untouched := ?_, lenient := ?_, strict := fun _ _ => hdone.imp_right And.right }
  · intro other
    have hresponse : done.response ≠ .error (.unsupported other) := by
      rcases hdone with hhands | ⟨-, fault, hfault, -⟩
      · exact hhands.ne_error _
      · simp [hfault]
    simp [hresponse, htag]
  · intro hnot
    exact absurd htag (by simp [hnot])
  · intro _ hlenient
    rcases hdone with hhands | ⟨hstrict, -⟩
    · exact hhands
    · exact absurd hstrict (by simp [hlenient])

end

/-- **One unit.** -/
theorem answers_readUnit (reader : Reader σ) (tag : Tag) :
    Answers tag (.readUnit tag) reader (reader.perform (.readUnit tag)) := by
  cases htag : tag.elementary? with
  | none =>
      rw [perform_readUnit_unsupported htag]
      exact answers_of_refused htag rfl rfl
  | some type =>
      obtain rfl := Tag.elementary?_eq_some_iff.mp htag
      refine answers_of_decodable type.isDecodable_tag ?_
      rw [perform_readUnit_tag]
      cases hfault : reader.settings.surfaced? (reader.step type).1 with
      | none =>
          have hvalue : (reader.step type).1.value.tag = type.tag :=
            congrArg Elementary.tag (type.type_value_decode reader.source)
          exact .inl ⟨_, rfl, hvalue⟩
      | some fault =>
          obtain ⟨hstrict, hunit⟩ := Settings.surfaced?_eq_some_iff.mp hfault
          exact .inr ⟨hstrict, fault, rfl, congrArg Elementary.tag (type_of_step_faulty hunit)⟩

/-- **One run.** -/
theorem answers_readUnits (reader : Reader σ) (tag : Tag) (count : Nat) :
    Answers tag (.readUnits tag count) reader (reader.perform (.readUnits tag count)) := by
  cases htag : tag.elementary? with
  | none =>
      rw [perform_readUnits_unsupported htag]
      exact answers_of_refused htag rfl rfl
  | some type =>
      obtain rfl := Tag.elementary?_eq_some_iff.mp htag
      have hresponse := response_readUnits_tag type count reader
      refine answers_of_decodable type.isDecodable_tag ?_
      cases hfault : (reader.attempted type count).findSome? reader.settings.surfaced? with
      | none =>
          rw [hfault] at hresponse
          refine .inl ⟨_, hresponse, ?_⟩
          intro value hvalue
          obtain ⟨unit, hunit, rfl⟩ := List.mem_map.mp hvalue
          exact tag_of_mem_attempted hunit
      | some fault =>
          rw [hfault] at hresponse
          obtain ⟨unit, hunit, hmet⟩ := List.exists_of_findSome?_eq_some hfault
          obtain ⟨hstrict, rfl⟩ := Settings.surfaced?_eq_some_iff.mp hmet
          -- the tag of a fault is that of the zero which stands for its unit
          have hzero : (Value.zero fault.type).tag = type.tag := tag_of_mem_attempted hunit
          have htag : fault.tag = type.tag := by
            rw [← hzero, Value.tag, Value.type_zero]
            rfl
          exact .inr ⟨hstrict, fault, hresponse, htag⟩

/-! ## The law -/

/-- **Refusals.** In every state of a reader, strict or lenient, on every source and for every count, a
    unit and a run of a tag are refused exactly if the tag is not decodable, and the reader is as it was.
    Of a decodable tag a lenient reader hands out what it is asked for and never an error; a strict one
    has no error but the fault of a unit. The tables that decide this agree, so that no unit is refused
    once its bytes have been taken. Watched or not, a source is asked once for each unit that a query
    decodes, and for a tag that is not decodable it is not asked at all. -/
theorem refusal_law :
    (∀ (reader : Reader σ) (tag : Tag) (count : Nat),
        Answers tag (.readUnit tag) reader (reader.perform (.readUnit tag))
          ∧ Answers tag (.readUnits tag count) reader (reader.perform (.readUnits tag count)))
      ∧ (∀ (tag : Tag) (source : σ),
          tag.TablesAgree
            ∧ tag.decodeByTables source = (decode tag source).mapError fun _ => .atOnce)
      ∧ ∀ (reader : Reader σ) (query : Query),
          Performed.Same (fun (watched : Watched σ) source => watched.source = source)
              (reader.watch.perform query.operation) (reader.perform query.operation)
            ∧ reader.requests query = (reader.units query.operation).map (·.value.type.width)
            ∧ ((query.operation (σ := σ)).tag?.any Tag.isDecodable = false → reader.requests query = []) := by
  refine ⟨?_, ?_, ?_⟩
  · intro reader tag count
    exact ⟨answers_readUnit reader tag, answers_readUnits reader tag count⟩
  · intro tag source
    exact ⟨tag.tablesAgree, tag.decodeByTables_eq source⟩
  · intro reader query
    have hsame := reader.same_watch.perform interchangeable_watched (query.alike_operation _)
    refine ⟨hsame, reader.requests_eq query, ?_⟩
    intro hidle
    rw [requests_eq, units_of_idle hidle, List.map_nil]

end Reader

end CipUnits
