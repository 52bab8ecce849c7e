-- Batches: one template rendered for many contexts. A fault takes the place of the text of its
-- context and the others go on. Large batches are cut into slices that may finish in any order.
import Stencil.Press

namespace Stencil

variable {σ : Type}

/-! ## Entries -/

/-- What became of one context: its text, or the message of its fault. -/
abbrev Entry := Except String String

namespace Entry

/-- The text that stands for an entry. -/
def text : Entry → String
  | .ok s => s
  | .error message => "ERROR: " ++ message

/-- The faults of entries, each with its number; the first entry has the given number. -/
def faultsFrom (number : Nat) : List Entry → List (Nat × String)
  | [] => []
  | .ok _ :: rest => faultsFrom (number + 1) rest
  | .error message :: rest => (number, message) :: faultsFrom (number + 1) rest

/-- The entries of contexts, in order. -/
def ofContexts (render : Value → Run σ String) (contexts : List Value) : Run σ (List Entry) :=
  contexts |> Run.each fun c => do
    match ← (render c).attempt with
    | .ok s => return .ok s
    | .error f => return .error f.message

end Entry

/-- The texts of a source for many contexts. -/
def Press.renderMany (p : Press) (host : Host σ) (source : String) (contexts : List Value)
    (strict : Option Bool) : Run σ (List String) × Press :=
  p.withCompiled source fun p c => do
    let entries ← Entry.ofContexts (p.render host c · [] strict) contexts
    return entries.map Entry.text

/-! ## Slices -/

/-- The entries of a slice of the contexts, which begins at `start`. -/
structure Part where
  start : Nat
  entries : List Entry

/-- The contexts in slices of a size, each with its start. -/
def slices {α : Type} (size : Nat) (l : List α) : List (Nat × List α) :=
  (List.range ((l.length + size - 1) / size)).map fun k =>
    (k * size, (l.drop (k * size)).take size)

/-- The texts with those of a part put in their places. -/
def Part.place (texts : List String) (part : Part) : List String :=
  texts.take part.start ++ part.entries.map Entry.text ++
    texts.drop (part.start + part.entries.length)

/-! ## Reports -/

structure Report where
  /-- The text for each context. -/
  texts : List String
  /-- The numbers of the contexts that failed, with the messages of their faults. -/
  faults : List (Nat × String)
  succeeded : Nat
  /-- How many contexts were done each time that progress was reported. -/
  progress : List Nat
  parallel : Bool
  /-- Whether the template was found invalid, so that nothing was rendered. -/
  refused : Bool

namespace Report

/-- The share of successes, in percent. -/
def rate (successes errors : Int) : Float :=
  let total := successes + errors
  if 0 < total then floatQuotient successes total.toNat * 100 else 0

def successRate (r : Report) : Float := rate r.succeeded r.faults.length

/-- The report on an invalid template: its findings count as faults. -/
def ofFindings (findings : List Finding) : Report where
  texts := []
  faults := findings.map fun f => (0, f.message)
  succeeded := 0
  progress := []
  parallel := false
  refused := true

/-- How many contexts are reported at once when they are rendered one after the other. -/
def stride : Nat := 10

/-- The report on entries that were rendered one after the other. -/
def ofEntries (entries : List Entry) : Report :=
  let faults := Entry.faultsFrom 0 entries
  { texts := entries.map Entry.text
    faults
    succeeded := entries.length - faults.length
    progress := (slices stride entries).map fun (_, slice) => slice.length
    parallel := false
    refused := false }

/-- The report on parts for a number of contexts, in the order in which they were finished. -/
def ofParts (contexts : Nat) (parts : List Part) : Report :=
  let faults := parts.flatMap fun part => Entry.faultsFrom part.start part.entries
  { texts := parts.foldl Part.place (List.replicate contexts "")
    faults := faults.mergeSort fun a b => a.1 ≤ b.1
    succeeded := contexts - faults.length
    progress := parts.map fun part => part.entries.length
    parallel := true
    refused := false }

end Report

/-! ## Batches -/

/-- How a batch is to be rendered. -/
structure Batch where
  /-- The size of the slices of large batches. -/
  size : Int := 100
  /-- How many slices may be rendered at the same time. -/
  workers : Int := 4
  /-- Whether large batches are cut into slices. -/
  parallel : Bool := true

namespace Batch

/-- From how many contexts on a batch is large. -/
def large : Nat := 100

/-- The slices for the workers; a negative size makes none. -/
def slices (b : Batch) (contexts : List Value) : Except HostError (List (Nat × List Value)) :=
  if b.workers ≤ 0 then .error .noWorkers
  else if b.size = 0 then .error .noStep
  else if b.size < 0 then .ok []
  else .ok (Stencil.slices b.size.toNat contexts)

/-- The report on contexts that are rendered in slices, which finish in the given order. -/
def renderSlices (b : Batch) (order : List Part → List Part) (render : Value → Run σ String)
    (contexts : List Value) : Run σ Report := do
  let slices ← Run.ofExcept (b.slices contexts)
  let parts ← slices |> Run.each fun (start, slice) => do
    return Part.mk start (← Entry.ofContexts render slice)
  return Report.ofParts contexts.length (order parts)

/-- The report on a batch whose slices finish in the given order. -/
def renderIn (order : List Part → List Part) (b : Batch) (p : Press) (host : Host σ)
    (source : String) (contexts : List Value) (strict : Option Bool) : Run σ Report × Press :=
  match p.check source with
  | ([], p) =>
    p.withCompiled source fun p c =>
      let render := (p.render host c · [] strict)
      if b.parallel && large ≤ contexts.length then b.renderSlices order render contexts
      else do return .ofEntries (← Entry.ofContexts render contexts)
  | (findings, p) => (pure (.ofFindings findings), p)

/-- The report on a batch. -/
def render (b : Batch) (p : Press) (host : Host σ) (source : String) (contexts : List Value)
    (strict : Option Bool) : Run σ Report × Press :=
  b.renderIn id p host source contexts strict

end Batch

end Stencil
