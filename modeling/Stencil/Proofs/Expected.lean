-- Reviews with expected names. A review asks that the names which a template reads are expected,
-- and that what it calls is known or begins with an expected name. So when the data provides these
-- names, a rendering finds every name that the template mentions, but for those that stand in a
-- callee which is itself made by calling a dotted path.
import Mathlib
import Stencil.Proofs.Callees
import Stencil.Review

namespace Stencil

/-! ## First names -/

namespace Review

/-- The characters up to the first point are not changed by what follows a point. -/
theorem takeWhile_point (a b : List Char) :
    (a ++ '.' :: b).takeWhile (· ≠ '.') = a.takeWhile (· ≠ '.') := by
  induction a with
  | nil => simp
  | cons c a ih =>
    by_cases point : c = '.'
    · simp [point]
    · simpa [point] using ih

theorem headOf_point (a b : String) : headOf (a ++ "." ++ b) = headOf a := by
  have point : (a ++ "." ++ b).toList = a.toList ++ '.' :: b.toList := by
    simp [String.toList_append]
  rw [headOf, point, takeWhile_point, headOf]

theorem headOf_word {s : String} (h : Expr.IsWord s) : headOf s = s := by
  have solid : ∀ c ∈ s.toList, decide (c ≠ '.') = true := fun c hc =>
    decide_eq_true fun point : c = '.' => (h.2 c hc).2 (by subst point; decide)
  rw [headOf, List.takeWhile_eq_self_iff.2 solid, String.ofList_toList]

/-- The first piece of a dotted name is its first name. -/
theorem exists_pieces (dotted : String) :
    ∃ keys, Filters.pieces dotted = headOf dotted :: keys := by
  have first : ∀ l : List Char, ∃ rest, l.splitOn '.' = l.takeWhile (· ≠ '.') :: rest := by
    intro l
    induction l with
    | nil => exact ⟨[], rfl⟩
    | cons c l ih =>
      obtain ⟨rest, split⟩ := ih
      rw [List.splitOn_cons_eq_if_modifyHead]
      by_cases point : c = '.'
      · exact ⟨l.splitOn '.', by simp [point]⟩
      · exact ⟨rest, by simp [point, split]⟩
  obtain ⟨rest, split⟩ := first dotted.toList
  exact ⟨rest.map String.ofList, by rw [Filters.pieces, split, List.map_cons, headOf]⟩

end Review

/-! ## Callees that are made by calls -/

namespace Expr

open Review (headOf)

/-- At some place in the expression, a dotted path with this first name is called. -/
def CallsPath (e : Expr) (m : String) : Prop :=
  ∃ base a rest keys, call base a rest ∈ e.parts ∧ base.path? = some (m, keys) ∧ keys ≠ []

theorem CallsPath.of_part {e f : Expr} {m : String} (h : f.CallsPath m) (part : f ∈ e.parts) :
    e.CallsPath m := by
  obtain ⟨base, a, rest, keys, call, path⟩ := h
  exact ⟨base, a, rest, keys, parts_subset part call, path⟩

/-- The only name in a path is its first one. -/
theorem eq_of_mem_path : ∀ {e : Expr} {m n : String} {keys : List String},
    e.path? = some (m, keys) → name n ∈ e.parts → n = m
  | .name m, _, n, _, h, part => by
    cases h
    exact Expr.name.inj (List.mem_singleton.1 part)
  | .key b k, m, n, keys, h, part => by
    obtain ⟨keys', inner, rfl⟩ := path?_key h
    rcases List.mem_cons.1 part with key | part
    · cases key
    · exact eq_of_mem_path inner part

/-- If the written form of an expression begins with a word and a point, or is a word, then the
expression is a path, or a dotted path is called in it. -/
theorem path_or_callsPath : ∀ {e : Expr}, e.IsLegal → IsWord (headOf e.text) →
    (∃ keys, e.path? = some (headOf e.text, keys)) ∨ e.CallsPath (headOf e.text)
  | .name m, legal, _ => .inl ⟨[], by rw [text, Review.headOf_word legal]; rfl⟩
  | .top, _, word => absurd rfl word.1
  | .key b k, legal, word => by
    by_cases top : b = .top
    · subst top
      have written : (key top k).text = "" ++ "." ++ k := rfl
      rw [written, Review.headOf_point] at word
      exact absurd rfl word.1
    · rw [text_key top, Review.headOf_point] at word ⊢
      rcases path_or_callsPath legal.1 word with ⟨keys, path⟩ | calls
      · exact .inl ⟨keys ++ [k], by rw [path?, path]; rfl⟩
      · exact .inr (calls.of_part (List.mem_cons_of_mem _ b.self_mem_parts))
  | .call f a r, legal, word => by
    have written : (call f a r).text.toList =
        f.text.toList ++ '(' :: (a.text ++ restText r ++ ")").toList := by
      simp [text, String.toList_append]
    by_cases point : '.' ∈ f.text.toList
    · obtain ⟨front, back, split⟩ := List.append_of_mem point
      have same : headOf (call f a r).text = headOf f.text := by
        rw [headOf, headOf, written, split, List.append_assoc, List.cons_append,
          Review.takeWhile_point, Review.takeWhile_point]
      rw [same] at word ⊢
      rcases path_or_callsPath legal.1 word with ⟨keys, path⟩ | calls
      · refine .inr ⟨f, a, r, keys, self_mem_parts _, path, ?_⟩
        rintro rfl
        rw [eq_name_of_path path] at point legal
        exact ((legal.1 : IsWord _).2 '.' point).2 (by decide)
      · exact .inr (calls.of_part callee_mem_parts)
    · -- Without a point in front of it, the parenthesis stands among the first characters.
      have solid : ∀ c ∈ f.text.toList, decide (c ≠ '.') = true := fun c hc =>
        decide_eq_true fun same : c = '.' => point (same ▸ hc)
      have opened : '(' ∈ (headOf (call f a r).text).toList := by
        rw [headOf, String.toList_ofList, written, List.takeWhile_append_of_pos solid]
        simp
      exact absurd (word.2 '(' opened).2 (by decide)

end Expr

/-! ## What a valid review has found -/

namespace Review

variable {p : Press} {level : Level} {source : String} {expected : List String}
  {longest : Option Int} {t : Template}

/-- A valid review has found no filter that nobody provides and no name that is not expected. -/
theorem findings_of_isValid (valid : (Review.of p level source (some expected) longest).isValid)
    (reads : p.read source = .ok t) :
    filterFindings p t (some expected) = [] ∧ undefinedFindings t (some expected) = [] := by
  unfold Review.of at valid
  split at valid
  · cases valid
  · rw [reads] at valid
    simp only [isValid, List.isEmpty_iff, List.append_eq_nil_iff] at valid
    exact ⟨valid.1.2, valid.2⟩

theorem mem_of_undefinedFindings (none : undefinedFindings t (some expected) = []) :
    ∀ n ∈ t.valueNames, n ∈ expected := by
  intro n hn
  by_contra other
  have found : n ∈ without t.valueNames expected := List.mem_filter.2 ⟨hn, by simpa using other⟩
  simp only [undefinedFindings] at none
  split at none
  · rename_i nothing
    rw [nothing] at found
    cases found
  · cases none

theorem known_of_filterFindings (none : filterFindings p t (some expected) = []) {head : Head}
    {f : Expr} (hh : head ∈ t.heads) (hf : f ∈ head.expression.callees) :
    headOf f.text ∈ expected ∨ ∃ u, p.filters.resolve? f.text = some u := by
  rw [filterFindings, List.map_eq_nil_iff, List.filter_eq_nil_iff] at none
  by_cases unknown : f.text ∈ p.unknownFilters t
  · exact .inl (by simpa using none _ unknown)
  · refine .inr (Option.ne_none_iff_exists'.1 fun missing => unknown ?_)
    exact Press.mem_unknownFilters.2 ⟨Press.mem_filterNames.2 ⟨head, hh, f, hf, rfl⟩, missing⟩

/-- A valid review of legal names covers every name in the tags of the template: it is expected, or
the press has something under it, or it stands in a callee that is made by calling a dotted path
whose first name is expected or the name of a filter. -/
theorem covers_names (valid : (Review.of p level source (some expected) longest).isValid)
    (reads : p.read source = .ok t) (filters : ∀ f ∈ p.filters, Expr.IsWord f.1)
    (words : ∀ n ∈ expected, Expr.IsWord n) {head : Head} (hh : head ∈ t.heads) {n : String}
    (hn : .name n ∈ head.expression.parts) :
    n ∈ expected ∨ (∃ v, p.filters.lookup n = some v) ∨
      ∃ g ∈ head.expression.callees, .name n ∈ g.parts ∧ ∃ m, g.CallsPath m ∧
        (m ∈ expected ∨ ∃ v, p.filters.lookup m = some v) := by
  obtain ⟨known, undefined⟩ := findings_of_isValid valid reads
  by_cases inCallee : .name n ∈ head.expression.calleeParts
  · obtain ⟨g, hg, part⟩ := List.mem_flatMap.1 inCallee
    have legal := Expr.isLegal_callee (Template.isLegal_of_parse reads head hh) hg
    have provided : headOf g.text ∈ expected ∨ ∃ v, p.filters.lookup (headOf g.text) = some v := by
      refine (known_of_filterFindings known hh hg).imp_right ?_
      rintro ⟨u, resolved⟩
      obtain ⟨keys, pieces⟩ := exists_pieces g.text
      rw [Filters.resolve?_of_pieces pieces] at resolved
      obtain ⟨v, found, _⟩ := Option.bind_eq_some_iff.1 resolved
      exact ⟨v, found⟩
    have word : Expr.IsWord (headOf g.text) := by
      rcases provided with member | ⟨v, found⟩
      · exact words _ member
      · exact filters _ (Value.mem_of_lookup found)
    rcases Expr.path_or_callsPath legal word with ⟨keys, path⟩ | calls
    · rw [← Expr.eq_of_mem_path path part] at provided
      exact provided.imp_right .inl
    · exact .inr (.inr ⟨g, hg, part, _, calls, provided⟩)
  · refine .inl (mem_of_undefinedFindings undefined n (mem_distinct.2 ?_))
    refine List.mem_flatMap_of_mem hh (List.mem_filter.2 ⟨?_, by simpa using inCallee⟩)
    exact List.mem_filterMap.2 ⟨_, hn, rfl⟩

end Review

/-! ## Finding the names -/

namespace Press

variable {σ : Type} {p : Press} {d : Context} {n : String} {data : Value}
  {entries named : List (Value × Value)}

/-- In sight of the outer scopes, the data and the filters of the press are found. -/
theorem not_missing_of_sees (made : p.Made)
    (sees : (p.context (.mapping entries) named).scopes ⊆ d.scopes)
    (there : (∃ v, Value.find? n entries = some v ∧ v.isMissing = false) ∨
      ∃ v, p.filters.lookup n = some v) {v : Value} (found : d.lookup n = .ok v) :
    v.isMissing = false := by
  rcases Context.lookup_cases found with ⟨present, _⟩ | ⟨_, gone⟩
  · exact present
  rcases there with ⟨u, bound, present⟩ | ⟨u, registered⟩
  · obtain ⟨u', looked, absent⟩ := gone _ (sees ((p.subset_context _ named).2 nofun))
    have own : (⟨.mapping entries, []⟩ : Scope).lookup n = .ok u := by
      simp [Scope.lookup, Value.lookup, bound, present, bind, Except.bind, pure, Except.pure]
    rw [own] at looked
    cases looked
    rw [present] at absent
    cases absent
  · have some : p.filters ≠ [] := List.ne_nil_of_mem (Value.mem_of_lookup registered)
    obtain ⟨u', looked, absent⟩ := gone _ (sees (ground_mem_context some _ named))
    rw [lookup_ground, registered, Option.getD_some] at looked
    cases looked
    have own := made.isRegistered _ (Value.mem_of_lookup registered)
    cases u with
    | missing => exact own.elim
    | _ => cases absent

/-- A template that a review has found valid for these names is rendered with data that has them.
Whatever is unresolved then is an expression in one of the tags, and no expected name; and it is no
bare name at all, unless the name stands in a callee that is made by calling a dotted path whose
first name is expected or the name of a filter. The review takes such a name for a part of what is
called. -/
theorem reviewed_finds_names {level : Level} {source : String} {expected : List String}
    {longest : Option Int} {c : Compiled} {host : Host σ} {strict : Option Bool} {w : World σ}
    (made : p.Made) (filters : ∀ f ∈ p.filters, Expr.IsWord f.1)
    (words : ∀ n ∈ expected, Expr.IsWord n)
    (valid : (Review.of p level source (some expected) longest).isValid)
    (compiled : (p.compile source).1 = .ok c)
    (binds : ∀ n ∈ expected, ∃ v, Value.find? n entries = some v ∧ v.isMissing = false)
    (unprovoked : (p.engine host strict).Unprovoked c.template (p.context (.mapping entries) named)
      w fun cause => cause.kind = .unresolved) :
    ∀ fault, (p.render host c (.mapping entries) named strict w).1 = .failed (.fault fault) →
      fault.cause.kind = .unresolved →
      ∃ head ∈ c.template.heads, ∃ x ∈ head.expression.parts, fault.cause = .unresolved x.text ∧
        ∀ n, x = .name n → n ∉ expected ∧ ∃ g ∈ head.expression.callees, .name n ∈ g.parts ∧
          ∃ m, g.CallsPath m ∧ (m ∈ expected ∨ ∃ v, p.filters.lookup m = some v) := by
  intro fault failed unresolved
  obtain ⟨head, d, x, _, hh, sees, lacks⟩ :=
    unprovoked.exists_lacks failed (.inl unresolved) unresolved
  have reads := (made.sound.of_compile compiled).2
  -- A bare name that comes to nothing is neither expected nor the name of a filter.
  have bare {x : Expr} {v : Value} {w₁ w₂ : World σ} (part : x ∈ head.expression.parts)
      (found : (p.engine host strict).evaluator.evaluate d x w₁ = (.done v, w₂))
      (missing : v.isMissing = true) : ∀ n, x = .name n → n ∉ expected ∧
        ∃ g ∈ head.expression.callees, .name n ∈ g.parts ∧ ∃ m, g.CallsPath m ∧
          (m ∈ expected ∨ ∃ v, p.filters.lookup m = some v) := by
    rintro n rfl
    have looked : d.lookup n = .ok v := by
      rw [Evaluator.evaluate] at found
      cases h : d.lookup n with
      | error error =>
        rw [h] at found
        cases found
      | ok u =>
        rw [h] at found
        cases found
        rfl
    have present := not_missing_of_sees made sees (n := n)
    have unexpected : n ∉ expected := fun member => by
      rw [present (.inl (binds n member)) looked] at missing
      cases missing
    refine ⟨unexpected, ?_⟩
    rcases Review.covers_names valid reads filters words hh part with member | registered | slips
    · exact absurd member unexpected
    · rw [present (.inr registered) looked] at missing
      cases missing
    · exact slips
  generalize fault.cause = cause at lacks unresolved ⊢
  cases lacks with
  | callee hf found missing =>
    obtain ⟨a, rest, call⟩ := Expr.mem_callees.1 hf
    have part := Expr.parts_subset call Expr.callee_mem_parts
    exact ⟨head, hh, x, part, rfl, bare part found missing⟩
  | notFilter => cases unresolved
  | value part found missing =>
    exact ⟨head, hh, x, part, rfl, bare part found missing⟩

end Press

theorem Library.isWord_standard : ∀ f ∈ Library.standard, Expr.IsWord f.1 := by
  simp only [Library.standard, List.forall_mem_cons]
  refine ⟨?_, ?_, ?_, ?_, ?_, ?_, ?_, ?_, ?_, List.forall_mem_nil _⟩ <;>
    simp [Expr.IsWord] <;> decide

namespace Press

/-- A page that reads a name and a key. -/
def titlePage : String := "\x7b\x7bname\x7d\x7d\x7b\x7buppercase(book.title)\x7d\x7d"

def titleTree : Template := [
  .variableTag ⟨.name "name", ⟨1, 1, none⟩⟩ true,
  .variableTag ⟨.call (.name "uppercase") (.key (.name "book") "title") [], ⟨1, 9, none⟩⟩ true]

/-- Data with the names of the page, but without the key. -/
def untitledData : Value := .mapping [(.text "name", .text "Ada"), (.text "book", .mapping [])]

theorem reviewed_finds_names_untitled :
    (Review.of (start {}) .standard titlePage (some ["name", "book"]) none).isValid = true ∧
      ∃ c fault, ((start {}).compile titlePage).1 = .ok c ∧
        ((start {}).render Host.none c untitledData [] (some true) (World.start ())).1 =
          .failed (.fault fault) ∧ fault.cause = .unresolved "book.title" ∧
        ∃ head ∈ c.template.heads, ∃ x ∈ head.expression.parts, x.text = "book.title" ∧
          ∀ n, x ≠ .name n := by
  have valid : (Review.of (start {}) .standard titlePage (some ["name", "book"]) none).isValid =
      true := by cbv
  have parsed : (start {}).read titlePage = .ok titleTree := by cbv
  have compiled := congrArg Prod.fst (compile_of_read (p := start {}) rfl parsed)
  have words : ∀ n ∈ ["name", "book"], Expr.IsWord n := by
    simp only [List.forall_mem_cons]
    refine ⟨?_, ?_, List.forall_mem_nil _⟩ <;> simp [Expr.IsWord] <;> decide
  have binds : ∀ n ∈ ["name", "book"], ∃ v,
      Value.find? n [(.text "name", .text "Ada"), (.text "book", .mapping [])] = some v ∧
        v.isMissing = false := by
    simp only [List.forall_mem_cons]
    exact ⟨⟨_, rfl, rfl⟩, ⟨_, rfl, rfl⟩, List.forall_mem_nil _⟩
  have calm : untitledData.Throughout Value.Calm := by
    refine .mapping Value.ordinary_calm fun entry is => ?_
    have text (s : String) : (Value.text s).Throughout Value.Calm :=
      .simple (Value.ordinary_calm.text s) rfl
    simp only [List.mem_cons, List.not_mem_nil, or_false] at is
    rcases is with rfl | rfl
    · exact ⟨text _, text _⟩
    · exact ⟨text _, .mapping Value.ordinary_calm (List.forall_mem_nil _)⟩
  have unprovoked : ((start {}).engine Host.none (some true)).Unprovoked titleTree
      ((start {}).context untitledData []) (World.start ()) fun cause => cause.kind = .unresolved :=
    (Engine.unprovoked_of_quiet Host.none_stays Host.none_quiet (none_calm calm) _ _).mono
      fun _ => .inl
  have finds := reviewed_finds_names (.start {}) Library.isWord_standard words valid compiled binds
    unprovoked
  have rendered : ((start {}).render Host.none ⟨(start {}).compiled, titlePage, titleTree⟩
      untitledData [] (some true) (World.start ())).1 =
      .failed (.fault ⟨.unresolved "book.title", some ⟨1, 9, none⟩⟩) := by cbv
  obtain ⟨head, hh, x, hx, cause, bare⟩ := finds _ rendered rfl
  have written := (Cause.unresolved.inj cause).symm
  refine ⟨valid, _, _, compiled, rendered, rfl, head, hh, x, hx, written, ?_⟩
  rintro n rfl
  obtain ⟨_, g, hg, part, _⟩ := bare n rfl
  rcases List.mem_cons.1 hh with rfl | hh
  · cases hg
  · obtain rfl := List.mem_singleton.1 hh
    obtain rfl := List.mem_singleton.1 hg
    obtain rfl := Expr.name.inj (List.mem_singleton.1 part)
    exact absurd written (by decide)

/-- A page that calls what a call gives. -/
def computedPage : String := "\x7b\x7bn.k(x)(y)\x7d\x7d"

def computedData : Value := .mapping [
  (.text "n", .mapping [(.text "k", .filter (.generic (.host "adder")) [])]), (.text "y", .int 1)]

/-- A name in a callee that is made by a call passes the review unexpected, since it is taken for a
part of what is called; but it is a value, which the data need not have. -/
theorem computed_callee_passes_review :
    (Review.of (start {}) .standard computedPage (some ["n", "y"]) none).isValid = true ∧
      (((start {}).renderSource Host.none computedPage computedData (some true)).1
        (World.start ())).1 = .failed (.fault ⟨.unresolved "x", some ⟨1, 1, none⟩⟩) := by
  constructor <;> cbv

end Press

end Stencil
