-- What strict reviews warn of. An expected name counts as unused unless a tag has it outside of
-- what is called, or calls a filter that is written like it. Nested sections are counted wherever
-- they stand, nested calls only along the arguments; the longest chain is the one that is told.
import Mathlib
import Stencil.Proofs.ValueNames

namespace Stencil

/-! ## The warnings of a strict review -/

/-- The tag of whose nested calls a warning tells, and their number. -/
def Warning.calls? : Warning → Option (Head × Nat)
  | .deepCalls tag depth => some (tag, depth)
  | _ => none

namespace Review

variable {p : Press} {source : String} {t : Template} {expected : Option (List String)}
  {longest : Option Int} {w : Warning}

theorem exists_of_unusedWarnings (h : w ∈ unusedWarnings t expected) :
    ∃ names, w = .unused names := by
  unfold unusedWarnings at h
  split at h
  · cases h
  · split at h
    · cases h
    · exact ⟨_, List.mem_singleton.1 h⟩

theorem exists_of_unescapedTags (h : w ∈ unescapedTags t) : ∃ head, w = .unescaped head := by
  obtain ⟨tag, _, is⟩ := List.mem_filterMap.1 h
  split at is
  · exact ⟨_, (Option.some.inj is).symm⟩
  · cases is

theorem exists_of_longLines {number : Nat} {lines : List (List Char)}
    (h : w ∈ longLines number lines) : ∃ n length, w = .longLine n length := by
  induction lines generalizing number with
  | nil => cases h
  | cons line rest ih =>
    rw [longLines, List.mem_append] at h
    rcases h with h | h
    · split at h
      · exact ⟨_, _, List.mem_singleton.1 h⟩
      · cases h
    · exact ih h

theorem exists_of_deepSections (h : w ∈ deepSections t) : w = .deepSections t.depth := by
  unfold deepSections at h
  split at h
  · exact List.mem_singleton.1 h
  · cases h

theorem exists_of_deepCalls (h : w ∈ deepCalls t) : ∃ head depth, w = .deepCalls head depth := by
  obtain ⟨head, _, is⟩ := List.mem_filterMap.1 h
  simp only at is
  split at is
  · exact ⟨_, _, (Option.some.inj is).symm⟩
  · cases is

/-- The warnings of a strict review of a source that is a template, one kind after the other. -/
theorem warnings_of_strict (given : source ≠ "") (reads : p.read source = .ok t) :
    (Review.of p .strict source expected longest).warnings =
      unusedWarnings t expected ++ (unescapedTags t ++
        (longLines 1 (source.toList.splitOn '\n') ++ (deepSections t ++ deepCalls t))) := by
  unfold Review.of
  rw [if_neg given]
  simp only [reads, levelWarnings, styleWarnings, List.append_assoc]

theorem mem_warnings (given : source ≠ "") (reads : p.read source = .ok t) :
    w ∈ (Review.of p .strict source expected longest).warnings ↔
      w ∈ unusedWarnings t expected ∨ w ∈ unescapedTags t ∨
        w ∈ longLines 1 (source.toList.splitOn '\n') ∨ w ∈ deepSections t ∨ w ∈ deepCalls t := by
  simp only [warnings_of_strict given reads, List.mem_append]

/-- A warning is of one of five kinds, and its kind says which check gave it. -/
theorem cases_of_mem_warnings (given : source ≠ "") (reads : p.read source = .ok t)
    (h : w ∈ (Review.of p .strict source expected longest).warnings) :
    (w ∈ unusedWarnings t expected ∧ ∃ names, w = .unused names) ∨
      (∃ head, w = .unescaped head) ∨ (∃ number length, w = .longLine number length) ∨
      (w ∈ deepSections t ∧ w = .deepSections t.depth) ∨
        ∃ head depth, w = .deepCalls head depth := by
  rcases (mem_warnings given reads).1 h with h | h | h | h | h
  · exact .inl ⟨h, exists_of_unusedWarnings h⟩
  · exact .inr (.inl (exists_of_unescapedTags h))
  · exact .inr (.inr (.inl (exists_of_longLines h)))
  · exact .inr (.inr (.inr (.inl ⟨h, exists_of_deepSections h⟩)))
  · exact .inr (.inr (.inr (.inr (exists_of_deepCalls h))))

/-! ## Unused names -/

/-- A warning says that the name is unused. -/
def ReportsUnused (r : Review) (n : String) : Prop :=
  ∃ names, .unused names ∈ r.warnings ∧ n ∈ names

theorem unused_mem_warnings {names : List String} (given : source ≠ "")
    (reads : p.read source = .ok t) :
    .unused names ∈ (Review.of p .strict source expected longest).warnings ↔
      .unused names ∈ unusedWarnings t expected := by
  constructor
  · intro h
    rcases cases_of_mem_warnings given reads h with
      ⟨h, _⟩ | ⟨_, other⟩ | ⟨_, _, other⟩ | ⟨_, other⟩ | ⟨_, _, other⟩
    · exact h
    all_goals cases other
  · intro h
    exact (mem_warnings given reads).2 (.inl h)

theorem reportsUnused_iff {expected : List String} {n : String} (given : source ≠ "")
    (reads : p.read source = .ok t) :
    (Review.of p .strict source (some expected) longest).ReportsUnused n ↔
      n ∈ expected ∧ n ∉ t.valueNames ∧ n ∉ t.filterNames := by
  have member : n ∈ without (without (distinct expected) t.valueNames) t.filterNames ↔
      n ∈ expected ∧ n ∉ t.valueNames ∧ n ∉ t.filterNames := by
    simp only [without, List.mem_filter, mem_distinct, decide_eq_true_eq, and_assoc]
  rw [← member]
  simp only [ReportsUnused, unused_mem_warnings given reads, unusedWarnings]
  constructor
  · rintro ⟨names, listed, hn⟩
    split at listed
    · cases listed
    · cases List.mem_singleton.1 listed
      exact hn
  · intro hn
    split
    · rename_i none
      rw [none] at hn
      cases hn
    · exact ⟨_, List.mem_singleton_self _, hn⟩

end Review

namespace Expr

variable {e f : Expr} {n : String}

/-- An expression that is written like a word is the name. -/
theorem text_eq_iff (legal : f.IsLegal) (word : IsWord n) : f.text = n ↔ f = .name n := by
  constructor
  · intro written
    have reads := parse_text legal
    have same : f.text = (name n).text := written
    rw [same, parse_text (show (name n).IsLegal from word)] at reads
    exact (Except.ok.inj reads).symm
  · rintro rfl
    rfl

/-- A name that is called or that stands in what is called is not read as a value. -/
theorem mem_valueNames_iff : n ∈ e.valueNames ↔
    name n ∈ e.parts ∧ ∀ f ∈ e.callees, name n ∉ f.parts := by
  simp only [valueNames, List.mem_filter, mem_names, calleeParts, List.mem_flatMap,
    decide_eq_true_eq, not_exists, not_and]

end Expr

namespace Review

variable {p : Press} {source : String} {t : Template} {longest : Option Int} {n : String}

theorem not_mem_valueNames : n ∉ t.valueNames ↔ ∀ head ∈ t.heads, .name n ∈ head.expression.parts →
    ∃ f ∈ head.expression.callees, .name n ∈ f.parts := by
  rw [Template.valueNames, mem_distinct, List.mem_flatMap]
  constructor
  · intro none head hh part
    by_contra outside
    refine none ⟨head, hh, Expr.mem_valueNames_iff.2 ⟨part, fun f hf inside => ?_⟩⟩
    exact outside ⟨f, hf, inside⟩
  · rintro all ⟨head, hh, member⟩
    obtain ⟨part, outside⟩ := Expr.mem_valueNames_iff.1 member
    obtain ⟨f, hf, inside⟩ := all head hh part
    exact outside f hf inside

theorem not_mem_filterNames :
    n ∉ t.filterNames ↔ ∀ head ∈ t.heads, ∀ f ∈ head.expression.callees, f.text ≠ n := by
  rw [Press.mem_filterNames]
  constructor
  · intro none head hh f hf written
    exact none ⟨head, hh, f, hf, written⟩
  · rintro all ⟨head, hh, f, hf, written⟩
    exact all head hh f hf written

/-- A strict review says of an expected name that it is unused just if no filter is called that is
written like the name, and every tag that has the name has it in something that is called. For a
word the first means that the name itself is not called. So a word that no tag has is reported; but
so is a word that tags only have at the head of a longer path that is called, or in a callee that is
made by a call. -/
theorem reports_unused_iff (given : source ≠ "") (reads : p.read source = .ok t)
    (expected : List String) (longest : Option Int) (n : String) :
    ((Review.of p .strict source (some expected) longest).ReportsUnused n ↔
      n ∈ expected ∧ (∀ head ∈ t.heads, .name n ∈ head.expression.parts →
          ∃ f ∈ head.expression.callees, .name n ∈ f.parts) ∧
        ∀ head ∈ t.heads, ∀ f ∈ head.expression.callees, f.text ≠ n) ∧
    (Expr.IsWord n →
      ((Review.of p .strict source (some expected) longest).ReportsUnused n ↔
        n ∈ expected ∧ ∀ head ∈ t.heads, .name n ∈ head.expression.parts →
          .name n ∉ head.expression.callees ∧
            ∃ f ∈ head.expression.callees, .name n ∈ f.parts)) := by
  have reported : (Review.of p .strict source (some expected) longest).ReportsUnused n ↔
      n ∈ expected ∧ (∀ head ∈ t.heads, .name n ∈ head.expression.parts →
          ∃ f ∈ head.expression.callees, .name n ∈ f.parts) ∧
        ∀ head ∈ t.heads, ∀ f ∈ head.expression.callees, f.text ≠ n := by
    rw [reportsUnused_iff given reads, not_mem_valueNames, not_mem_filterNames]
  refine ⟨reported, fun word => ?_⟩
  rw [reported]
  refine and_congr_right fun _ => ?_
  have legal {head : Head} {f : Expr} (hh : head ∈ t.heads) (hf : f ∈ head.expression.callees) :
      f.IsLegal := Expr.isLegal_callee (Template.isLegal_of_parse reads head hh) hf
  constructor
  · rintro ⟨inside, unlike⟩ head hh part
    refine ⟨fun called => ?_, inside head hh part⟩
    exact unlike head hh _ called rfl
  · intro all
    refine ⟨fun head hh part => (all head hh part).2, ?_⟩
    intro head hh f hf written
    obtain rfl := (Expr.text_eq_iff (legal hh hf) word).1 written
    obtain ⟨a, rest, call⟩ := Expr.mem_callees.1 hf
    have part : .name n ∈ head.expression.parts := Expr.parts_subset call Expr.callee_mem_parts
    exact (all head hh part).1 hf

/-- A page that calls a filter of a namespace, and reads two names. -/
def scopedPage : String := "\x7b\x7bns.f(x)\x7d\x7d\x7b\x7by\x7d\x7d"

def scopedTree : Template := [
  .variableTag ⟨.call (.key (.name "ns") "f") (.name "x") [], ⟨1, 1, none⟩⟩ true,
  .variableTag ⟨.name "y", ⟨1, 12, none⟩⟩ true]

theorem reports_unused_iff_scoped :
    scopedPage ≠ "" ∧ (Press.start {}).read scopedPage = .ok scopedTree ∧
      (Review.of (.start {}) .strict scopedPage (some ["ns", "y", "z"]) none).ReportsUnused "z" ∧
      ¬ (Review.of (.start {}) .strict scopedPage (some ["ns", "y", "z"]) none).ReportsUnused
        "y" := by
  have given : scopedPage ≠ "" := by decide
  have reads : (Press.start {}).read scopedPage = .ok scopedTree := by cbv
  have unused := reports_unused_iff given reads ["ns", "y", "z"] none
  refine ⟨given, reads, (unused "z").1.2 ?_, fun reported => ?_⟩
  · decide
  · have absent := ((unused "y").1.1 reported).2.1
    revert absent
    decide

/-- The name of a namespace is reported although a tag calls a filter of the namespace. -/
theorem namespace_reported_unused :
    (Review.of (.start {}) .strict "\x7b\x7bns.f(x)\x7d\x7d" (some ["ns", "x"]) none).warnings =
        [.unused ["ns"]] ∧
      ∃ head, (Press.start {}).read "\x7b\x7bns.f(x)\x7d\x7d" =
          .ok [.variableTag head true] ∧ .name "ns" ∈ head.expression.parts := by
  refine ⟨by cbv, ⟨.call (.key (.name "ns") "f") (.name "x") [], ⟨1, 1, none⟩⟩, by cbv, by decide⟩

end Review

/-! ## Nested calls -/

namespace Expr

/-- Calls inside each other, the first one at the expression or below it. Along arguments each call
is an argument of the one before it; anywhere, a call may also be called itself or have keys. -/
inductive Chain (anywhere : Bool) : Expr → Nat → Prop
  | stop (e : Expr) : Chain anywhere e 0
  | argument {f a x : Expr} {r : List Expr} {k : Nat} :
    x ∈ a :: r → Chain anywhere x k → Chain anywhere (call f a r) (k + 1)
  | callee {f a : Expr} {r : List Expr} {k : Nat} :
    anywhere = true → Chain anywhere f k → Chain anywhere (call f a r) (k + 1)
  | base {b : Expr} {key : String} {k : Nat} :
    anywhere = true → Chain anywhere b k → Chain anywhere (.key b key) k

/-- A call stands below a key or is part of what is called. -/
def HidesCalls (e : Expr) : Prop :=
  (∃ b k, key b k ∈ e.parts ∧ b.callees ≠ []) ∨ ∃ f ∈ e.callees, f.callees ≠ []

variable {e x : Expr} {l : List Expr} {k : Nat}

theorem callDepth_le_callDepthList (h : x ∈ l) : x.callDepth ≤ callDepthList l := by
  induction l with
  | nil => cases h
  | cons a r ih =>
    rw [callDepthList]
    rcases List.mem_cons.1 h with rfl | h
    · exact Nat.le_max_left _ _
    · exact (ih h).trans (Nat.le_max_right _ _)

theorem exists_callDepth (a : Expr) (r : List Expr) :
    ∃ x ∈ a :: r, x.callDepth = callDepthList (a :: r) := by
  induction r generalizing a with
  | nil => exact ⟨a, List.mem_cons_self, (Nat.max_zero _).symm⟩
  | cons b r ih =>
    rw [callDepthList]
    rcases Nat.le_total (callDepthList (b :: r)) a.callDepth with first | rest
    · exact ⟨a, List.mem_cons_self, (Nat.max_eq_left first).symm⟩
    · obtain ⟨x, hx, deepest⟩ := ih b
      exact ⟨x, List.mem_cons_of_mem _ hx, by rw [deepest, Nat.max_eq_right rest]⟩

theorem Chain.le_callDepth (h : Chain false e k) : k ≤ e.callDepth := by
  induction h with
  | stop e => exact Nat.zero_le _
  | argument hx _ ih =>
    have deep := ih.trans (callDepth_le_callDepthList hx)
    rw [callDepth, Nat.add_comm]
    exact Nat.add_le_add_left deep 1
  | callee other => cases other
  | base other => cases other

theorem chain_callDepth (e : Expr) : Chain false e e.callDepth := by
  induction e using induction with
  | name n => exact .stop _
  | top => exact .stop _
  | key b k => exact .stop _
  | call f a r _ operands =>
    obtain ⟨x, hx, deepest⟩ := exists_callDepth a r
    have chain := operands x hx
    rw [deepest] at chain
    rw [callDepth, Nat.add_comm]
    exact .argument hx chain

/-- The depth of an expression is the length of its longest chain of calls along arguments. -/
theorem isGreatest_callDepth (e : Expr) : IsGreatest {k | Chain false e k} e.callDepth :=
  ⟨chain_callDepth e, fun _ => Chain.le_callDepth⟩

theorem Chain.anywhere (h : Chain false e k) : Chain true e k := by
  induction h with
  | stop e => exact .stop e
  | argument hx _ ih => exact .argument hx ih
  | callee other => cases other
  | base other => cases other

/-- Without calls there is no chain. -/
theorem Chain.eq_zero {anywhere : Bool} (h : Chain anywhere e k) (none : e.callees = []) :
    k = 0 := by
  induction h with
  | stop e => rfl
  | argument | callee =>
    rw [callees, parts, List.filterMap_cons] at none
    cases none
  | base _ _ ih => exact ih none

/-- Where no call is hidden, chains that go anywhere go along arguments. -/
theorem Chain.along (h : Chain true e k) (open_ : ¬ e.HidesCalls) : Chain false e k := by
  induction h with
  | stop e => exact .stop e
  | @argument f a x r k hx _ ih =>
    refine .argument hx (ih fun hides => open_ ?_)
    have part := argument_mem_parts (f := f) hx
    rcases hides with ⟨b, key, keyed, calls⟩ | ⟨g, callee, calls⟩
    · exact .inl ⟨b, key, parts_subset part keyed, calls⟩
    · obtain ⟨a', r', call⟩ := mem_callees.1 callee
      exact .inr ⟨g, mem_callees.2 ⟨a', r', parts_subset part call⟩, calls⟩
  | @callee f a r k _ chain _ =>
    have none : f.callees = [] := by
      by_contra calls
      exact open_ (.inr ⟨f, mem_callees.2 ⟨a, r, self_mem_parts _⟩, calls⟩)
    rw [chain.eq_zero none]
    exact .argument List.mem_cons_self (.stop a)
  | @base b key k _ chain _ =>
    have none : b.callees = [] := by
      by_contra calls
      exact open_ (.inl ⟨b, key, self_mem_parts _, calls⟩)
    rw [chain.eq_zero none]
    exact .stop _

end Expr

/-! ## Nested sections -/

namespace Template

/-- Sections of a template inside each other, at any distance. -/
inductive SectionChain : Template → Nat → Prop
  | stop (t : Template) : SectionChain t 0
  | inside {t children : Template} {head : Head} {inverted : Bool} {inner : String} {k : Nat} :
    .sectionTag head inverted children inner ∈ t.tags → SectionChain children k →
    SectionChain t (k + 1)

end Template

namespace Node

mutual

theorem depth_le_of_mem_tags : ∀ {n m : Node}, m ∈ n.tags → m.depth ≤ n.depth
  | .text _, _, h => by cases h
  | .variableTag _ _, m, h => by
    rw [tags, List.mem_singleton] at h
    rw [h]
  | .sectionTag _ _ children _, m, h => by
    rw [tags, List.mem_cons] at h
    rcases h with rfl | h
    · exact Nat.le_refl _
    · rw [depth]
      exact (depth_le_of_mem_tagsList h).trans (Nat.le_add_left _ 1)

theorem depth_le_of_mem_tagsList : ∀ {t : List Node} {m : Node}, m ∈ tagsList t →
    m.depth ≤ depthList t
  | [], _, h => by cases h
  | n :: rest, m, h => by
    rw [tagsList, List.mem_append] at h
    rw [depthList]
    rcases h with h | h
    · exact (depth_le_of_mem_tags h).trans (Nat.le_max_left _ _)
    · exact (depth_le_of_mem_tagsList h).trans (Nat.le_max_right _ _)

end

end Node

namespace Template

variable {t u : Template} {k : Nat}

theorem SectionChain.le_depth (h : t.SectionChain k) : k ≤ t.depth := by
  induction h with
  | stop t => exact Nat.zero_le _
  | inside tag _ ih =>
    have deep := Node.depth_le_of_mem_tagsList tag
    rw [Node.depth, Nat.add_comm] at deep
    exact (Nat.add_le_add_right ih 1).trans deep

theorem SectionChain.mono (h : t.SectionChain k) (tags : t.tags ⊆ u.tags) : u.SectionChain k := by
  cases h with
  | stop t => exact .stop u
  | inside tag inner => exact .inside (tags tag) inner

mutual

theorem sectionChain_node : ∀ n : Node, SectionChain [n] n.depth
  | .text _ => .stop _
  | .variableTag _ _ => .stop _
  | .sectionTag head inverted children inner => by
    have tag : .sectionTag head inverted children inner ∈
        tags [.sectionTag head inverted children inner] := by
      simp [tags, Node.tagsList, Node.tags]
    rw [Node.depth, Nat.add_comm]
    exact .inside tag (sectionChain_nodes children)

theorem sectionChain_nodes : ∀ t : List Node, SectionChain t (Node.depthList t)
  | [] => .stop _
  | n :: rest => by
    rw [Node.depthList]
    rcases Nat.le_total (Node.depthList rest) n.depth with first | others
    · rw [Nat.max_eq_left first]
      refine (sectionChain_node n).mono ?_
      simp [tags, Node.tagsList]
    · rw [Nat.max_eq_right others]
      refine (sectionChain_nodes rest).mono ?_
      simp [tags, Node.tagsList]

end

/-- The depth of a template is the length of its longest chain of sections. -/
theorem isGreatest_depth (t : Template) : IsGreatest {k | t.SectionChain k} t.depth :=
  ⟨sectionChain_nodes t, fun _ => SectionChain.le_depth⟩

end Template

/-! ## Warnings of nesting -/

namespace Review

variable {p : Press} {source : String} {t : Template}

theorem deepSections_mem_warnings {expected : Option (List String)} {longest : Option Int} {d : Nat}
    (given : source ≠ "") (reads : p.read source = .ok t) :
    .deepSections d ∈ (Review.of p .strict source expected longest).warnings ↔
      .deepSections d ∈ deepSections t := by
  constructor
  · intro h
    rcases cases_of_mem_warnings given reads h with
      ⟨_, _, other⟩ | ⟨_, other⟩ | ⟨_, _, other⟩ | ⟨h, _⟩ | ⟨_, _, other⟩
    case inr.inr.inr.inl => exact h
    all_goals cases other
  · intro h
    exact (mem_warnings given reads).2 (.inr (.inr (.inr (.inl h))))

theorem filterMap_calls? {expected : Option (List String)} {longest : Option Int}
    (given : source ≠ "") (reads : p.read source = .ok t) :
    (Review.of p .strict source expected longest).warnings.filterMap Warning.calls? =
      (deepCalls t).filterMap Warning.calls? := by
  have unused : (unusedWarnings t expected).filterMap Warning.calls? = [] := by
    refine List.filterMap_eq_nil_iff.2 fun w h => ?_
    obtain ⟨_, rfl⟩ := exists_of_unusedWarnings h
    rfl
  have unescaped : (unescapedTags t).filterMap Warning.calls? = [] := by
    refine List.filterMap_eq_nil_iff.2 fun w h => ?_
    obtain ⟨_, rfl⟩ := exists_of_unescapedTags h
    rfl
  have long : (longLines 1 (source.toList.splitOn '\n')).filterMap Warning.calls? = [] := by
    refine List.filterMap_eq_nil_iff.2 fun w h => ?_
    obtain ⟨_, _, rfl⟩ := exists_of_longLines h
    rfl
  have sections : (deepSections t).filterMap Warning.calls? = [] := by
    refine List.filterMap_eq_nil_iff.2 fun w h => ?_
    rw [exists_of_deepSections h]
    rfl
  simp only [warnings_of_strict given reads, List.filterMap_append, unused, unescaped, long,
    sections, List.nil_append]

/-- A strict review warns of nested calls for just those tags, in the order of the source, in which
a chain of more than three calls goes along arguments, and tells the length of the longest one. That
is the longest chain of all, unless a call stands below a key or is part of what is called. It warns
of nested sections just if more than three stand inside each other, and tells the length of the
longest chain. -/
theorem warns_of_nesting (given : source ≠ "") (reads : p.read source = .ok t)
    (expected : Option (List String)) (longest : Option Int) :
    (∃ depth : Expr → Nat, (∀ e, IsGreatest {k | e.Chain false k} (depth e)) ∧
      (∀ e, ¬ e.HidesCalls → IsGreatest {k | e.Chain true k} (depth e)) ∧
      (Review.of p .strict source expected longest).warnings.filterMap Warning.calls? =
        (t.heads.filter fun head => 3 < depth head.expression).map fun head =>
          (head, depth head.expression)) ∧
    ∀ d, .deepSections d ∈ (Review.of p .strict source expected longest).warnings ↔
      3 < d ∧ IsGreatest {k | t.SectionChain k} d := by
  refine ⟨⟨Expr.callDepth, Expr.isGreatest_callDepth, ?_, ?_⟩, ?_⟩
  · intro e open_
    refine ⟨(Expr.chain_callDepth e).anywhere, fun k chain => ?_⟩
    exact (chain.along open_).le_callDepth
  · rw [filterMap_calls? given reads, deepCalls, ← List.filterMap_eq_map,
      ← List.filterMap_eq_filter, List.filterMap_filterMap, List.filterMap_filterMap]
    refine List.filterMap_congr fun head _ => ?_
    by_cases deep : 3 < head.expression.callDepth
    · simp [deepestCalls, deep, Warning.calls?, Option.guard]
    · simp [deepestCalls, deep, Option.guard]
  · intro d
    rw [deepSections_mem_warnings given reads, deepSections]
    constructor
    · intro warned
      split at warned
      · rename_i deep
        cases List.mem_singleton.1 warned
        exact ⟨deep, t.isGreatest_depth⟩
      · cases warned
    · rintro ⟨deep, greatest⟩
      obtain rfl := greatest.unique t.isGreatest_depth
      rw [if_pos (show deepestSections < t.depth from deep)]
      exact List.mem_singleton_self _

/-- Four calls, each an argument of the one before it. -/
def nestedCalls : Expr :=
  .call (.name "f") (.call (.name "f") (.call (.name "f")
    (.call (.name "f") (.name "x") []) []) []) []

/-- A page with these calls in four sections. -/
def nestedPage : String := "\x7b\x7b#a\x7d\x7d\x7b\x7b#b\x7d\x7d\x7b\x7b#c\x7d\x7d" ++
  "\x7b\x7b#d\x7d\x7d\x7b\x7bf(f(f(f(x))))\x7d\x7d\x7b\x7b/\x7d\x7d\x7b\x7b/\x7d\x7d" ++
  "\x7b\x7b/\x7d\x7d\x7b\x7b/\x7d\x7d"

theorem warns_of_nesting_four : ∃ t, nestedPage ≠ "" ∧ (Press.start {}).read nestedPage = .ok t ∧
    (Review.of (.start {}) .strict nestedPage none none).warnings.filterMap Warning.calls? =
      [(⟨nestedCalls, ⟨1, 25, none⟩⟩, 4)] ∧
    .deepSections 4 ∈ (Review.of (.start {}) .strict nestedPage none none).warnings := by
  have given : nestedPage ≠ "" := by decide
  have parsed : ((Press.start {}).read nestedPage).map (fun t => (t.heads, t.depth)) =
      .ok ([⟨.name "a", ⟨1, 1, none⟩⟩, ⟨.name "b", ⟨1, 7, none⟩⟩, ⟨.name "c", ⟨1, 13, none⟩⟩,
        ⟨.name "d", ⟨1, 19, none⟩⟩, ⟨nestedCalls, ⟨1, 25, none⟩⟩], 4) := by cbv
  cases reads : (Press.start {}).read nestedPage with
  | error rejection =>
    rw [reads] at parsed
    cases parsed
  | ok t =>
    rw [reads] at parsed
    obtain ⟨heads, sections⟩ := Prod.mk.inj (Except.ok.inj parsed)
    obtain ⟨⟨depth, greatest, _, calls⟩, deep⟩ := warns_of_nesting given reads none none
    obtain rfl : depth = Expr.callDepth :=
      funext fun e => (greatest e).unique e.isGreatest_callDepth
    rw [heads] at calls
    refine ⟨t, given, rfl, calls.trans rfl, (deep 4).2 ⟨by decide, ?_⟩⟩
    rw [← sections]
    exact t.isGreatest_depth

/-- Calls below a key are not counted: a tag with four of them passes without a warning. -/
theorem calls_below_key_pass :
    (Press.start {}).read "\x7b\x7bf(f(f(f(x)))).k\x7d\x7d" =
        .ok [.variableTag ⟨.key nestedCalls "k", ⟨1, 1, none⟩⟩ true] ∧
      (Review.of (.start {}) .strict "\x7b\x7bf(f(f(f(x)))).k\x7d\x7d" none none).warnings = [] ∧
      (Expr.key nestedCalls "k").Chain true 4 := by
  refine ⟨by cbv, by cbv, .base rfl ?_⟩
  exact nestedCalls.chain_callDepth.anywhere

end Review

end Stencil
