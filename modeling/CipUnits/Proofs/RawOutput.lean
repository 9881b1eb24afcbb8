import CipUnits.Proofs.Exit
import CipUnits.Proofs.JsonText
import Mathlib.Data.List.Basic

/-!
# `CipUnits.Proofs.RawOutput` — the raw form of what is decoded

In its raw form the output of the decode command is the JSON text of each value on a line of its own, and
nothing else. No value is lost by that. The type of the units is known from the command line; the lines
can be told apart because there is no line end in the text of a value; and among the values of one type,
each line tells its value.

Floating-point numbers are no part of this, since those that are not finite have one text. Of a string the
text is told, and not what fills the payload behind its characters.

## Contents
- **Values.** `NotFloating` and `exists_whole`, numbers as whole numbers; `Value.OfOneType`; what a JSON
  value tells by `Value.json_inj` and `Value.json_eq_iff_text?`.
- **Lines.** `unlines_inj`.
- **Runs.** `RawRun`, a decode command that comes to units; `exitCode_eq_zero_iff`, `stdout_of_rawRun`,
  and `stdout_eq_iff` for two of them.
- `raw_output_law` — two runs for one tag.
-/

namespace CipUnits

open InformationTheory (UniquelyDecodable)

/-! ## Values -/

/-- Neither of the two floating-point types. -/
structure Elementary.NotFloating (type : Elementary) : Prop where
  single : type ≠ .number .real
  double : type ≠ .number .lreal

/-- Numbers but floating-point ones are whole numbers, and different bits are different ones. -/
theorem NumberType.exists_whole {type : NumberType} (hexact : (Elementary.number type).NotFloating) :
    ∃ whole : BitVec (8 * type.width) → Int,
      Function.Injective whole ∧ ∀ bits, type.quantity bits = .whole (whole bits) := by
  cases h : type.interpretation with
  | unsigned =>
      refine ⟨fun bits => bits.toNat, fun a b hab => ?_, fun bits => ?_⟩
      · exact BitVec.toNat_inj.mp (Int.ofNat.inj hab)
      · rw [quantity, h]
  | signed =>
      refine ⟨BitVec.toInt, fun a b hab => BitVec.toInt_inj.mp hab, fun bits => ?_⟩
      rw [quantity, h]
  | binary format =>
      cases type with
      | real => exact absurd rfl hexact.single
      | lreal => exact absurd rfl hexact.double
      | _ => cases h

/-- Two values of one type. -/
inductive Value.OfOneType : Value → Value → Prop where
  | bool (a b : Bool) : OfOneType (.bool a) (.bool b)
  | number (type : NumberType) (bits others : BitVec (8 * type.width)) :
      OfOneType (.number type bits) (.number type others)
  | string (p q : Payload) : OfOneType (.string p) (.string q)

section

variable {v w : Value}

theorem Value.ofOneType (h : v.type = w.type) : OfOneType v w := by
  cases v with
  | bool a =>
      cases w with
      | bool b => exact .bool a b
      | _ => cases h
  | number type bits =>
      cases w with
      | number other others =>
          obtain rfl : type = other := Elementary.number.inj h
          exact .number type bits others
      | _ => cases h
  | string p =>
      cases w with
      | string q => exact .string p q
      | _ => cases h

/-- Values of one type have JSON values of one form, floating-point numbers aside. -/
theorem Value.alike_json (hsame : v.type = w.type) (hexact : v.type.NotFloating) :
    Json.Alike v.json w.json := by
  cases Value.ofOneType hsame with
  | bool a b => exact .bool a b
  | number type bits others =>
      obtain ⟨whole, -, hwhole⟩ := NumberType.exists_whole hexact
      show Json.Alike (type.quantity bits).json (type.quantity others).json
      rw [hwhole, hwhole]
      exact .integer _ _
  | string p q => exact .string _ _

/-- The JSON value of a truth value or of a whole number tells which one it is. -/
theorem Value.json_inj (hsame : v.type = w.type) (hexact : v.type.NotFloating)
    (hstring : v.type ≠ .string) : v.json = w.json ↔ v = w := by
  refine ⟨fun h => ?_, fun h => congrArg Value.json h⟩
  cases Value.ofOneType hsame with
  | bool a b => rw [Json.bool.inj h]
  | number type bits others =>
      obtain ⟨whole, hinjective, hwhole⟩ := NumberType.exists_whole hexact
      change (type.quantity bits).json = (type.quantity others).json at h
      rw [hwhole, hwhole] at h
      rw [hinjective (Json.integer.inj h)]
  | string p q => exact absurd rfl hstring

/-- The JSON value of a string tells the text of its payload. -/
theorem Value.json_eq_iff_text? (hv : v.type = .string) (hw : w.type = .string) :
    v.json = w.json ↔ v.text? = w.text? := by
  cases Value.ofOneType (hv.trans hw.symm) with
  | bool | number => cases hv
  | string p q =>
      show Json.string p.text = Json.string q.text ↔ some p.text = some q.text
      rw [Json.string.injEq, Option.some.injEq]

end

namespace Command

/-! ## Lines -/

/-- Lines with their ends, as the words of a code. -/
def lineCode : Set (List Char) := { word | ∃ line, '\n' ∉ line ∧ word = line ++ ['\n'] }

theorem uniquelyDecodable_lineCode : UniquelyDecodable lineCode := by
  apply Text.uniquelyDecodable_of_prefixFree
  · rintro ⟨line, -, h⟩
    exact absurd h.symm (List.append_ne_nil_of_right_ne_nil line (List.cons_ne_nil _ _))
  · -- the first line end in the longer word is its last character, and also that of the shorter one
    rintro _ ⟨line, hline, rfl⟩ _ ⟨other, hother, rfl⟩ ⟨behind, h⟩
    rw [List.append_assoc] at h
    have hsame := (List.append_cons_inj_of_notMem hother List.not_mem_nil).mp h.symm
    rw [hsame.1]

theorem toList_unlines (lines : List String) :
    (unlines lines).toList = (lines.map fun line => line.toList ++ ['\n']).flatten := by
  unfold unlines
  rw [String.toList_join, List.flatMap_def, List.map_map]
  congr 2
  funext line
  exact String.toList_append

/-- **Lines are told apart in a text that is made of them.** -/
theorem unlines_inj {lines others : List String} (hlines : ∀ line ∈ lines, '\n' ∉ line.toList)
    (hothers : ∀ line ∈ others, '\n' ∉ line.toList) : unlines lines = unlines others ↔ lines = others := by
  refine ⟨fun h => ?_, fun h => congrArg unlines h⟩
  have hword : ∀ {ls : List String}, (∀ line ∈ ls, '\n' ∉ line.toList) →
      ∀ w ∈ ls.map (fun line => line.toList ++ ['\n']), w ∈ lineCode := by
    intro ls hls w hw
    obtain ⟨line, hline, rfl⟩ := List.mem_map.mp hw
    exact ⟨line.toList, hls line hline, rfl⟩
  have hflat := congrArg String.toList h
  rw [toList_unlines, toList_unlines] at hflat
  have hwords := uniquelyDecodable_lineCode _ _ (hword hlines) (hword hothers) hflat
  refine (List.map_inj_right fun line other hsame => ?_).mp hwords
  exact String.toList_inj.mp (List.append_cancel_right hsame)

/-! ## Runs -/

/-- The values of the units in a report. -/
def Report.values (report : Report) : List Value := report.rows.map (·.value)

/-- A decode command asks for the raw form and comes to a report on units of a tag. -/
structure RawRun (setup : Setup) (invocation : Invocation) (tag : Tag) (report : Report) : Prop where
  raw : invocation.format = some .raw
  decoded : ∃ (request : DecodeRequest) (input : List UInt8) (events : List Event),
    invocation.request = .decode request ∧ Tag.parse request.tag = .ok tag
      ∧ decodeInput setup request = .ok input
      ∧ Report.make tag input (request.count.getD (defaultCount tag input.length)) request.strict
        = (.ok report, events)

theorem type_of_mem_blocks {type : Elementary} {count : Nat} {bytes : List UInt8} :
    ∀ value ∈ type.blocks count bytes, value.type = type := by
  induction count generalizing bytes with
  | zero => exact fun _ h => absurd h List.not_mem_nil
  | succ count ih =>
      intro value hvalue
      rcases List.mem_cons.mp hvalue with rfl | hvalue
      · exact type.type_value_decode bytes
      · exact ih value hvalue

/-- All values of a report have the type that was asked for, also the one of a unit that is cut off. -/
theorem Report.type_of_mem_values {type : Elementary} {count : Nat} {input : List UInt8} :
    ∀ value ∈ (Report.listing type count input).values, value.type = type := by
  intro value hvalue
  obtain ⟨row, hrow, rfl⟩ := List.mem_map.mp hvalue
  rcases List.mem_append.mp hrow with hwhole | hcut
  · obtain ⟨i, hi, rfl⟩ := List.mem_mapIdx.mp hwhole
    exact type_of_mem_blocks _ (List.getElem_mem hi)
  · split at hcut
    · rw [List.mem_singleton.mp hcut]
      exact Value.type_zero type
    · cases hcut

section

variable {setup : Setup} {invocation : Invocation} {tag : Tag} {report : Report}

/-- Such a command succeeds and prints the JSON texts of the values. -/
theorem stdout_of_rawRun (h : RawRun setup invocation tag report) :
    (run setup invocation).exitCode = 0
      ∧ (run setup invocation).stdout = unlines (report.values.map fun value => value.json.text) := by
  obtain ⟨request, input, events, hrequest, htag, hinput, hmake⟩ := h.decoded
  have hrun := run_decode hrequest (decodeLines_of_report htag hinput rfl hmake _)
  rw [hrun, h.raw]
  refine ⟨rfl, ?_⟩
  show unlines (report.lines .raw) = _
  rw [Report.values, List.map_map]
  rfl

/-- A decode command in the raw form succeeds exactly if it comes to a report. -/
theorem exitCode_eq_zero_iff {request : DecodeRequest} (hraw : invocation.format = some .raw)
    (hrequest : invocation.request = .decode request) (htag : Tag.parse request.tag = .ok tag) :
    (run setup invocation).exitCode = 0 ↔ ∃ report, RawRun setup invocation tag report := by
  constructor
  · intro hzero
    -- no stage can have failed, since each would have given its own code
    cases hinput : decodeInput setup request with
    | error e =>
        have hfails := fails_of_decodeLines hrequest (decodeLines_of_unreadable htag hinput _)
        exact absurd (hfails.1.symm.trans hzero) e.exitCode_ne_zero
    | ok input =>
        rcases hmake : Report.make tag input (request.count.getD (defaultCount tag input.length))
          request.strict with ⟨e | report, events⟩
        · have hfails := fails_of_decodeLines hrequest (decodeLines_of_error htag hinput rfl hmake _)
          exact absurd (hfails.1.symm.trans hzero) (CommandError.exitCode_ne_zero _)
        · exact ⟨report, hraw, request, input, events, hrequest, htag, hinput, hmake⟩
  · rintro ⟨report, hreport⟩
    exact (stdout_of_rawRun hreport).1

/-- All values that a run comes to have the type of its tag. -/
theorem RawRun.type_of_mem_values {type : Elementary} (h : RawRun setup invocation type.tag report) :
    ∀ value ∈ report.values, value.type = type := by
  obtain ⟨request, input, events, -, -, -, hmake⟩ := h.decoded
  rw [make_tag] at hmake
  have hreport := (Prod.mk.inj hmake).1
  split at hreport
  · cases hreport
  · rw [← Except.ok.inj hreport]
    exact Report.type_of_mem_values

/-- No line that such a command prints has a line end in it. -/
theorem newline_notMem_of_rawRun {type : Elementary} (hexact : type.NotFloating)
    (h : RawRun setup invocation type.tag report) :
    ∀ line ∈ report.values.map (fun value => value.json.text), '\n' ∉ line.toList := by
  intro line hline hnewline
  obtain ⟨value, hvalue, rfl⟩ := List.mem_map.mp hline
  have htype : value.type = type := h.type_of_mem_values value hvalue
  have halike : Json.Alike value.json value.json := Value.alike_json rfl (htype ▸ hexact)
  exact absurd (halike.printable '\n' hnewline) (by decide)

end

/-- Lists are told apart alike by two functions that tell their members apart alike. -/
theorem map_eq_map_iff_of_forall {α β γ : Type} {f : α → β} {g : α → γ} {xs ys : List α}
    (h : ∀ x ∈ xs, ∀ y ∈ ys, (f x = f y ↔ g x = g y)) : xs.map f = ys.map f ↔ xs.map g = ys.map g := by
  induction xs generalizing ys with
  | nil => simp
  | cons x xs ih =>
      cases ys with
      | nil => simp
      | cons y ys =>
          have hlater : xs.map f = ys.map f ↔ xs.map g = ys.map g :=
            ih fun a ha b hb => h a (List.mem_cons_of_mem x ha) b (List.mem_cons_of_mem y hb)
          rw [List.map_cons, List.map_cons, List.cons.injEq, h x List.mem_cons_self y List.mem_cons_self,
            hlater, ← List.cons.injEq, ← List.map_cons, ← List.map_cons]

/-- What the JSON value of each unit tells, the output tells of all units. -/
theorem stdout_eq_iff {γ : Type} {told : Value → γ} {type : Elementary} {setup other : Setup}
    {first second : Invocation} {report report' : Report} (hexact : type.NotFloating)
    (htold : ∀ {v w : Value}, v.type = type → w.type = type → (v.json = w.json ↔ told v = told w))
    (hfirst : RawRun setup first type.tag report) (hsecond : RawRun other second type.tag report') :
    (run setup first).stdout = (run other second).stdout
      ↔ report.values.map told = report'.values.map told := by
  -- first the output is cut into its lines, then each line is taken for its value
  rw [(stdout_of_rawRun hfirst).2, (stdout_of_rawRun hsecond).2,
    unlines_inj (newline_notMem_of_rawRun hexact hfirst) (newline_notMem_of_rawRun hexact hsecond)]
  refine map_eq_map_iff_of_forall fun v hv w hw => ?_
  have hvtype : v.type = type := hfirst.type_of_mem_values v hv
  have hwtype : w.type = type := hsecond.type_of_mem_values w hw
  have halike : Json.Alike v.json w.json :=
    Value.alike_json (hvtype.trans hwtype.symm) (hvtype ▸ hexact)
  exact halike.text_inj.trans (htold hvtype hwtype)

/-! ## The law -/

/-- **Raw output.** For a decodable tag, floating-point ones aside, a decode command in the raw form
    succeeds exactly if it comes to a report on units, and prints as many lines as there are units. Two
    such commands, on any inputs and for any counts, print the same exactly if the values of their units
    are the same; for strings, if the texts are. -/
theorem raw_output_law (tag : Tag) (hdecodable : tag.isDecodable = true)
    (hreal : tag ≠ (Elementary.number .real).tag) (hlreal : tag ≠ (Elementary.number .lreal).tag) :
    (∀ (setup : Setup) (invocation : Invocation) (request : DecodeRequest),
        invocation.format = some .raw → invocation.request = .decode request →
        Tag.parse request.tag = .ok tag →
        ((run setup invocation).exitCode = 0 ↔ ∃ report, RawRun setup invocation tag report))
      ∧ (∀ (setup : Setup) (invocation : Invocation) (report : Report),
          RawRun setup invocation tag report →
          let lines := report.values.map fun value => value.json.text
          (run setup invocation).stdout = unlines lines ∧ lines.length = report.rows.length
            ∧ ∀ line ∈ lines, '\n' ∉ line.toList)
      ∧ ∀ (setup other : Setup) (first second : Invocation) (report report' : Report),
          RawRun setup first tag report → RawRun other second tag report' →
          (tag ≠ Elementary.string.tag →
              ((run setup first).stdout = (run other second).stdout ↔ report.values = report'.values))
            ∧ (tag = Elementary.string.tag →
                ((run setup first).stdout = (run other second).stdout
                  ↔ report.values.map Value.text? = report'.values.map Value.text?)) := by
  obtain ⟨type, rfl⟩ := Tag.isDecodable_iff.mp hdecodable
  have hexact : type.NotFloating :=
    ⟨fun h => hreal (congrArg Elementary.tag h), fun h => hlreal (congrArg Elementary.tag h)⟩
  refine ⟨fun setup invocation request hraw hrequest htag => ?_, ?_, ?_⟩
  · exact exitCode_eq_zero_iff hraw hrequest htag
  · intro setup invocation report hrun lines
    refine ⟨(stdout_of_rawRun hrun).2, ?_, newline_notMem_of_rawRun hexact hrun⟩
    rw [List.length_map, Report.values, List.length_map]
  · intro setup other first second report report' hfirst hsecond
    constructor
    · intro hother
      have hstring : type ≠ .string := fun h => hother (congrArg Elementary.tag h)
      rw [← List.map_id report.values, ← List.map_id report'.values]
      refine stdout_eq_iff hexact (fun {v w} hv hw => ?_) hfirst hsecond
      exact Value.json_inj (hv.trans hw.symm) (hv ▸ hexact) (hv ▸ hstring)
    · intro htag
      have hstring : type = .string :=
        Option.some.inj (type.elementary?_tag.symm.trans
          ((congrArg Tag.elementary? htag).trans (Elementary.elementary?_tag .string)))
      subst hstring
      exact stdout_eq_iff hexact Value.json_eq_iff_text? hfirst hsecond

/-- A string with a quote, a backslash, a line end and a byte that is not UTF-8, in one line. It does not
    matter what fills its payload, but the length does. -/
theorem raw_output_law_of_a_string :
    let bytes (length padding : UInt8) : List UInt8 :=
      [length, 0, 0, 0, 0x22, 0x5C, 0x0A, 0xFF] ++ List.replicate 78 padding
    let setup (length padding : UInt8) : Setup := { fileContent := fun _ => .ok (bytes length padding) }
    let invocation : Invocation :=
      { format := some .raw, logFormat := .text, verbosity := .off
        request := .decode { tag := "string", file := some "unit.bin", count := some 1 } }
    let tag : Tag := Elementary.string.tag
    tag.isDecodable = true ∧ tag ≠ (Elementary.number .real).tag ∧ tag ≠ (Elementary.number .lreal).tag
      ∧ (∀ length padding, RawRun (setup length padding) invocation tag
          (.listing .string 1 (bytes length padding)))
      ∧ (run (setup 4 0) invocation).stdout = "\"\\\"\\\\\\n\uFFFD\"\n"
      ∧ (run (setup 4 0) invocation).stdout = (run (setup 4 0x58) invocation).stdout
      ∧ (run (setup 4 0) invocation).stdout ≠ (run (setup 3 0) invocation).stdout := by
  intro bytes setup invocation tag
  have hdecodable : tag.isDecodable = true := by decide
  have hreal : tag ≠ (Elementary.number .real).tag := by decide
  have hlreal : tag ≠ (Elementary.number .lreal).tag := by decide
  have hrun : ∀ length padding, RawRun (setup length padding) invocation tag
      (.listing .string 1 (bytes length padding)) := by
    intro length padding
    have hlength : (bytes length padding).length = 86 := by simp [bytes]
    have hwhole : 1 ≤ (bytes length padding).length / Elementary.string.width := by
      rw [hlength]
      decide
    exact ⟨rfl, _, _, _, rfl, by decide, rfl, make_of_enough hwhole false⟩
  obtain ⟨-, hlines, hsame⟩ := raw_output_law tag hdecodable hreal hlreal
  refine ⟨hdecodable, hreal, hlreal, hrun, ?_, ?_, ?_⟩
  · rw [(hlines _ _ _ (hrun 4 0)).1]
    decide
  · refine ((hsame _ _ _ _ _ _ (hrun 4 0) (hrun 4 0x58)).2 rfl).mpr ?_
    decide
  · refine mt ((hsame _ _ _ _ _ _ (hrun 4 0) (hrun 3 0)).2 rfl).mp ?_
    decide

/-- The largest number without a sign, and the smallest with one. -/
example :
    let printed (tag : String) (bytes : List UInt8) : String :=
      (run { fileContent := fun _ => .ok bytes }
        { format := some .raw, logFormat := .text, verbosity := .off
          request := .decode { tag, file := some "unit.bin" } }).stdout
    printed "LWORD" (List.replicate 8 0xFF) = "18446744073709551615\n"
      ∧ printed "LINT" [0, 0, 0, 0, 0, 0, 0, 0x80] = "-9223372036854775808\n" := by
  decide

end Command

end CipUnits
