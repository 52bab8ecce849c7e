-- Stores of compiled templates. A store keeps a bounded number of them, in the order in which they
-- were put into it; when it is full, the oldest one makes room for a new one.
import Stencil.Template.Node

namespace Stencil

/-- A template with its source; the serial number tells compiled templates apart. -/
structure Compiled where
  serial : Nat
  source : String
  template : Template

/-- The words for a compiled template: its source, cut if it is longer than forty characters. -/
def Compiled.preview (c : Compiled) : String :=
  if c.source.length ≤ 40 then c.source
  else String.ofList (c.source.toList.take 37) ++ "..."

structure Store where
  /-- How many templates are kept. -/
  capacity : Nat
  /-- The templates kept, oldest first. -/
  entries : List Compiled

namespace Store

def empty (capacity : Nat) : Store := ⟨capacity, []⟩

/-- The sources of the templates kept, oldest first. -/
def sources (s : Store) : List String := s.entries.map (·.source)

/-- The template kept for a source. -/
def find? (s : Store) (source : String) : Option Compiled :=
  s.entries.find? fun c => c.source = source

/-- The templates that stay when a new one is put into the store. -/
def room (s : Store) : List Compiled :=
  if s.capacity ≤ s.entries.length then s.entries.tail else s.entries

/-- Puts a template into the store, unless one for its source is there already; answers with the
one that the caller gets. -/
def insert (s : Store) (c : Compiled) : Compiled × Store :=
  if s.capacity = 0 then (c, s)
  else
    match s.find? c.source with
    | some kept => (kept, s)
    | none => (c, { s with entries := s.room ++ [c] })

end Store

end Stencil
