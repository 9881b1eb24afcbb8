import CipUnits.Bytes.LittleEndian

/-!
# `CipUnits.Source.Basic` — where bytes come from

A source is asked for a number of bytes and either hands over all of them or stops before, with the
bytes it took until then and the failure that stopped it.

## Contents
- `Failure` — why a source stopped.
- `Gathered` — what a request came to, and its view: `bytes`, `failure?` and `rest`.
- `ByteSource` — the class of sources; a byte list is one.
-/

namespace CipUnits

/-! ## Failures -/

/-- The kinds of failure. Those that the library tells apart have constructors, all others a name. -/
inductive FailureKind where
  /-- The input was at its end. -/
  | endOfInput
  /-- The attempt was interrupted and is to be made again. -/
  | interrupted
  | notFound
  | permissionDenied
  | other (name : String)
deriving DecidableEq, Repr

/-- A failure to read, with its message. -/
structure Failure where
  kind : FailureKind
  message : String
deriving DecidableEq, Repr

/-- The failure of a request that met the end of the input. -/
def Failure.endOfInput : Failure := ⟨.endOfInput, "failed to fill whole buffer"⟩

/-! ## Requests -/

/-- What a request for `n` bytes came to, and the source after it. -/
inductive Gathered (σ : Type) (n : Nat) where
  | full (block : Block n) (rest : σ)
  | cut (taken : List UInt8) (why : Failure) (rest : σ)

namespace Gathered

variable {σ : Type} {n : Nat}

/-- The bytes taken from the source. -/
def bytes : Gathered σ n → List UInt8
  | full block _ => block.val
  | cut taken _ _ => taken

/-- The failure that stopped the request, if one did. -/
def failure? : Gathered σ n → Option Failure
  | full _ _ => none
  | cut _ why _ => some why

/-- The source after the request. -/
def rest : Gathered σ n → σ
  | full _ rest => rest
  | cut _ _ rest => rest

/-- The outcome of a request of which the first bytes were taken before. -/
def after (taken : List UInt8) (fits : taken.length ≤ n) : Gathered σ (n - taken.length) → Gathered σ n
  | full block rest =>
      full ⟨taken ++ block.val, by rw [List.length_append, block.property]; omega⟩ rest
  | cut more why rest => cut (taken ++ more) why rest

@[simp] theorem bytes_after (taken : List UInt8) (fits : taken.length ≤ n)
    (g : Gathered σ (n - taken.length)) : (g.after taken fits).bytes = taken ++ g.bytes := by
  cases g <;> rfl

@[simp] theorem failure?_after (taken : List UInt8) (fits : taken.length ≤ n)
    (g : Gathered σ (n - taken.length)) : (g.after taken fits).failure? = g.failure? := by
  cases g <;> rfl

@[simp] theorem rest_after (taken : List UInt8) (fits : taken.length ≤ n)
    (g : Gathered σ (n - taken.length)) : (g.after taken fits).rest = g.rest := by
  cases g <;> rfl

end Gathered

/-- Sources of bytes. -/
class ByteSource (σ : Type) where
  /-- Takes `n` bytes, or as many as there are before something stops the request. -/
  gather : (n : Nat) → σ → Gathered σ n

/-- The first `n` bytes of a list, or all of it if it is shorter. -/
def gatherFront (n : Nat) (bytes : List UInt8) : Gathered (List UInt8) n :=
  let taken := bytes.take n
  if h : taken.length = n then .full ⟨taken, h⟩ (bytes.drop n) else .cut taken .endOfInput []

/-- A byte list hands over its front and keeps the rest. -/
instance : ByteSource (List UInt8) := ⟨gatherFront⟩

end CipUnits
