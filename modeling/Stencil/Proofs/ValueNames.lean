-- The names that a template is said to read. A name is read as a value wherever it stands, but for
-- the head of a path that is called. What is reported goes by the look of an expression and not by
-- its place: a name is left out as soon as the same tag has it anywhere inside something called.
import Mathlib
import Stencil.Proofs.Expected

namespace Stencil

/-! ## Reading a name -/

namespace Expr

mutual

/-- The names that are read as values, from left to right. The head of a path that is called is not
among them; in any other callee names are read as everywhere else. -/
def reads : Expr → List String
  | .name n => [n]
  | .top => []
  | .key b _ => b.reads
  | .call f a r => (if f.path?.isSome then [] else f.reads) ++ a.reads ++ readsList r

def readsList : List Expr → List String
  | [] => []
  | a :: r => a.reads ++ readsList r

end

/-- The expression is a path that begins with the name. -/
def HeadedBy (e : Expr) (n : String) : Prop := ∃ keys, e.path? = some (n, keys)

/-- A path that begins with the name is called somewhere in the expression. -/
def CallsHead (e : Expr) (n : String) : Prop := ∃ f ∈ e.callees, f.HeadedBy n

variable {e f a b : Expr} {k n : String} {r : List Expr}

theorem mem_names : n ∈ e.names ↔ name n ∈ e.parts := by
  simp only [names, List.mem_filterMap]
  constructor
  · rintro ⟨x, part, is⟩
    cases x with
    | name m =>
      cases is
      exact part
    | _ => cases is
  · exact fun part => ⟨_, part, rfl⟩

theorem mem_readsList : n ∈ readsList r ↔ ∃ e ∈ r, n ∈ e.reads := by
  induction r with
  | nil => simp [readsList]
  | cons a r ih => simp [readsList, ih]

theorem isSome_path? : f.path?.isSome = true ↔ f.IsPath := by
  simp only [Option.isSome_iff_exists, IsPath, Prod.exists]

theorem HeadedBy.isPath (h : f.HeadedBy n) : f.IsPath := ⟨n, h⟩

theorem reads_of_path : ∀ {e : Expr} {n : String} {keys : List String},
    e.path? = some (n, keys) → e.reads = [n]
  | .name m, n, keys, h => by
    cases h
    rfl
  | .key b k, n, keys, h => by
    obtain ⟨keys', inner, _⟩ := path?_key h
    rw [reads]
    exact reads_of_path inner

/-- A path reads the name at its head and no other one. -/
theorem mem_reads_of_isPath (h : f.IsPath) : n ∈ f.reads ↔ f.HeadedBy n := by
  obtain ⟨m, keys, path⟩ := h
  rw [reads_of_path path, List.mem_singleton]
  constructor
  · rintro rfl
    exact ⟨keys, path⟩
  · rintro ⟨keys', path'⟩
    rw [path] at path'
    cases path'
    rfl

/-! ## Where a name stands -/

theorem mem_callees_call {g : Expr} : g ∈ (call f a r).callees ↔
    g = f ∨ g ∈ f.callees ∨ g ∈ a.callees ∨ ∃ x ∈ r, g ∈ x.callees := by
  simp only [mem_callees, parts, List.mem_cons, List.mem_append, mem_partsList, call.injEq,
    exists_or, exists_and_left, exists_eq, and_true, or_assoc]
  grind

theorem callsHead_key : (key b k).CallsHead n ↔ b.CallsHead n := Iff.rfl

theorem callsHead_call : (call f a r).CallsHead n ↔
    f.HeadedBy n ∨ f.CallsHead n ∨ a.CallsHead n ∨ ∃ x ∈ r, x.CallsHead n := by
  simp only [CallsHead, mem_callees_call]
  grind

theorem CallsHead.of_part (h : f.CallsHead n) (part : f ∈ e.parts) : e.CallsHead n := by
  obtain ⟨g, callee, headed⟩ := h
  obtain ⟨a, r, call⟩ := mem_callees.1 callee
  exact ⟨g, mem_callees.2 ⟨a, r, parts_subset part call⟩, headed⟩

/-- A name that stands anywhere in an expression is read there as a value or heads a path that is
called. -/
theorem name_mem_parts : name n ∈ e.parts ↔ n ∈ e.reads ∨ e.CallsHead n := by
  induction e using induction with
  | name m => simp [parts, reads, CallsHead, callees]
  | top => simp [parts, reads, CallsHead, callees]
  | key b k ih => simpa [parts, reads, callsHead_key] using ih
  | call f a r callee operands =>
    have inCallee : name n ∈ f.parts ↔
        n ∈ (if f.path?.isSome then [] else f.reads) ∨ f.HeadedBy n ∨ f.CallsHead n := by
      rw [callee]
      by_cases path : f.IsPath
      · rw [if_pos (isSome_path?.2 path), mem_reads_of_isPath path]
        simp
      · rw [if_neg (mt isSome_path?.1 path)]
        simp [mt HeadedBy.isPath path]
    have inOperands : name n ∈ partsList (a :: r) ↔
        n ∈ readsList (a :: r) ∨ ∃ x ∈ a :: r, x.CallsHead n := by
      rw [mem_partsList, mem_readsList, ← exists_or]
      refine exists_congr fun x => ?_
      rw [← and_or_left]
      exact and_congr_right fun hx => operands x hx
    have whole : name n ∈ (call f a r).parts ↔ name n ∈ f.parts ∨ name n ∈ partsList (a :: r) := by
      simp [parts, partsList]
    rw [whole, inCallee, inOperands, callsHead_call]
    simp only [reads, readsList, List.mem_append, or_assoc, List.exists_mem_cons_iff]
    exact Iff.of_eq (by ac_rfl)

/-- The names that count as values of an expression: those that it reads, unless a path with the
name at its head is called, or the name is read in a callee that is no path. -/
theorem mem_valueNames : n ∈ e.valueNames ↔
    n ∈ e.reads ∧ ¬ e.CallsHead n ∧ ∀ f ∈ e.callees, ¬ f.IsPath → n ∉ f.reads := by
  have standing : n ∈ e.valueNames ↔ name n ∈ e.parts ∧ ∀ f ∈ e.callees, name n ∉ f.parts := by
    simp only [valueNames, List.mem_filter, mem_names, calleeParts, List.mem_flatMap,
      decide_eq_true_eq, not_exists, not_and]
  rw [standing]
  constructor
  · rintro ⟨part, outside⟩
    have noHead : ¬ e.CallsHead n := by
      rintro ⟨f, callee, headed⟩
      have read : n ∈ f.reads := (mem_reads_of_isPath headed.isPath).2 headed
      exact outside f callee (name_mem_parts.2 (.inl read))
    refine ⟨(name_mem_parts.1 part).resolve_right noHead, noHead, ?_⟩
    intro f callee _ read
    exact outside f callee (name_mem_parts.2 (.inl read))
  · rintro ⟨read, noHead, unread⟩
    refine ⟨name_mem_parts.2 (.inl read), ?_⟩
    -- A callee has the name at its own head, or reads it, or calls a path with it inside.
    intro f callee part
    obtain ⟨a, r, call⟩ := mem_callees.1 callee
    rcases name_mem_parts.1 part with inside | heads
    · by_cases path : f.IsPath
      · exact noHead ⟨f, callee, (mem_reads_of_isPath path).1 inside⟩
      · exact unread f callee path inside
    · exact noHead (heads.of_part (parts_subset call callee_mem_parts))

end Expr

/-! ## The names of a template -/

/-- A template is said to read a name just if a tag, at any depth, reads it and has it nowhere
inside a callee: not at the head of a path, and not read in a callee that is no path. -/
theorem Template.reports_name_iff (t : Template) (n : String) :
    n ∈ t.valueNames ↔ ∃ head ∈ t.heads, n ∈ head.expression.reads ∧
      ¬ head.expression.CallsHead n ∧
      ∀ f ∈ head.expression.callees, ¬ f.IsPath → n ∉ f.reads := by
  rw [valueNames, mem_distinct, List.mem_flatMap]
  exact exists_congr fun head => and_congr_right fun _ => Expr.mem_valueNames

/-- Names that are read, in a callee that is itself called or beside a call of a filter of that
name, are not reported. -/
theorem Press.drops_read_names :
    ((Press.start {}).read "\x7b\x7badder(n)(x)\x7d\x7d").map (fun t =>
      (t.heads.flatMap fun head => head.expression.reads, t.valueNames)) =
        .ok (["n", "x"], ["x"]) ∧
    ((Press.start {}).read "\x7b\x7bf(f)\x7d\x7d").map (fun t =>
      (t.heads.flatMap fun head => head.expression.reads, t.valueNames)) = .ok (["f"], []) := by
  constructor <;> cbv

end Stencil
