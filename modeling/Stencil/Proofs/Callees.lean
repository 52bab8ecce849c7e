-- What templates call. The check of a press looks for each callee by its written form, and a
-- rendering evaluates it. Where the callee is a path and the scopes in front of the filters do not
-- know its first name, both come to the same value; so what has passed the check and is called is
-- a filter, unless it is a namespace or no path at all.
import Mathlib
import Stencil.Proofs.Batches
import Stencil.Proofs.CleanText
import Stencil.Proofs.Coverage
import Stencil.Proofs.Visits
import Stencil.Proofs.Written

namespace Stencil

/-! ## The expressions of a template -/

namespace Expr

mutual

theorem IsLegal.part : ∀ {x e : Expr}, e.IsLegal → x ∈ e.parts → x.IsLegal
  | x, .name n, legal, h => by
    obtain rfl := List.mem_singleton.1 h
    exact legal
  | x, .top, legal, h => by
    obtain rfl := List.mem_singleton.1 h
    exact legal
  | x, .key b k, legal, h => by
    rcases List.mem_cons.1 h with rfl | h
    · exact legal
    · exact legal.1.part h
  | x, .call f a r, legal, h => by
    simp only [parts, List.mem_cons, List.mem_append] at h
    rcases h with rfl | (h | h) | h
    · exact legal
    · exact legal.1.part h
    · exact legal.2.1.part h
    · exact AreLegal.part legal.2.2 h

theorem AreLegal.part : ∀ {x : Expr} {l : List Expr}, AreLegal l → x ∈ partsList l → x.IsLegal
  | x, [], _, h => by cases h
  | x, a :: r, legal, h => by
    rcases List.mem_append.1 h with h | h
    · exact legal.1.part h
    · exact AreLegal.part legal.2 h

end

theorem isLegal_callee {e f : Expr} (legal : e.IsLegal) (h : f ∈ e.callees) : f.IsLegal := by
  obtain ⟨a, rest, part⟩ := mem_callees.1 h
  exact (legal.part part).1

end Expr

namespace Template

theorem isLegal_of_means {t : RawTag} {e : Expr} {m : Meaning} (h : t.Means m)
    (is : (∃ escaped, m = .variableTag e escaped) ∨ ∃ inverted, m = .opening e inverted) :
    e.IsLegal := by
  cases h with
  | triple parsed | ampersand _ parsed | plain _ _ parsed | opening _ parsed | inverted _ parsed =>
    rcases is with ⟨_, same⟩ | ⟨_, same⟩ <;> cases same
    exact Expr.isLegal_of_parse parsed
  | closing | closingNamed | comment => rcases is with ⟨_, same⟩ | ⟨_, same⟩ <;> cases same

theorem Spells.isLegal {tokens : List Token} {rest : List Char} {t : Template}
    (h : Spells tokens rest t) : ∀ head ∈ t.heads, head.expression.IsLegal := by
  induction h with
  | nil =>
    intro head hh
    simp [heads, tags, tagsList_textNodes] at hh
  | variableTag means _ ih =>
    intro head hh
    simp only [heads, tags, Node.tagsList_append, tagsList_textNodes, Node.tagsList, Node.tags,
      List.nil_append, List.cons_append, List.filterMap_cons, Node.head?, List.mem_cons] at hh ih
    rcases hh with rfl | hh
    · exact isLegal_of_means means (.inl ⟨_, rfl⟩)
    · exact ih head hh
  | comment _ _ ih =>
    intro head hh
    simp only [heads, tags, Node.tagsList_append, tagsList_textNodes, List.nil_append] at hh ih
    exact ih head hh
  | sectionTag means _ _ _ _ inside ih =>
    intro head hh
    simp only [heads, tags, Node.tagsList_append, tagsList_textNodes, Node.tagsList, Node.tags,
      List.nil_append, List.cons_append, List.filterMap_cons, List.filterMap_append, Node.head?,
      List.mem_cons, List.mem_append] at hh ih inside
    rcases hh with rfl | hh | hh
    · exact isLegal_of_means means (.inr ⟨_, rfl⟩)
    · exact inside head hh
    · exact ih head hh

/-- The expressions in a template that was read are legal. -/
theorem isLegal_of_parse {template : Option String} {source : String} {t : Template}
    (h : parse template source = .ok t) : ∀ head ∈ t.heads, head.expression.IsLegal :=
  ((parse_eq_ok_iff (Prod.mk.eta).symm).1 h).1.isLegal

end Template

/-! ## Paths -/

namespace Filters

/-- The pieces of a dotted name. -/
def pieces (dotted : String) : List String := (dotted.toList.splitOn '.').map String.ofList

theorem pieces_point (a b : String) : pieces (a ++ "." ++ b) = pieces a ++ pieces b := by
  have point : (a ++ "." ++ b).toList = a.toList ++ '.' :: b.toList := by
    simp [String.toList_append]
  unfold pieces
  rw [point, List.splitOn_append_cons_self, List.map_append]

theorem pieces_word {s : String} (h : Expr.IsWord s) : pieces s = [s] := by
  have solid : '.' ∉ s.toList := fun point => (h.2 '.' point).2 (by decide)
  unfold pieces
  rw [List.splitOn_eq_singleton solid, List.map_singleton, String.ofList_toList]

/-- A character other than a point stands in one of the pieces. -/
theorem exists_piece {dotted : String} {c : Char} (h : c ∈ dotted.toList) (hc : c ≠ '.') :
    ∃ piece ∈ pieces dotted, c ∈ piece.toList := by
  rw [← @List.intercalate_splitOn _ dotted.toList _ _ '.'] at h
  rcases Text.mem_intercalate h with point | ⟨piece, member, found⟩
  · exact absurd point hc
  · exact ⟨String.ofList piece, List.mem_map_of_mem member, by simpa using found⟩

/-- What a key names in a value that may be a namespace. -/
def within (value : Value) (key : String) : Option Value :=
  match value with
  | .mapping entries => Value.find? key entries
  | _ => none

theorem resolve?_of_pieces {filters : Filters} {dotted first : String} {keys : List String}
    (h : pieces dotted = first :: keys) :
    filters.resolve? dotted = (filters.lookup first).bind fun v => keys.foldlM within v := by
  unfold resolve?
  rw [show (dotted.toList.splitOn '.').map String.ofList = first :: keys from h]
  rfl

end Filters

namespace Expr

/-- A name and the keys behind it, if the expression is made of these. -/
def path? : Expr → Option (String × List String)
  | .name n => some (n, [])
  | .key b k => b.path?.map fun (n, keys) => (n, keys ++ [k])
  | .top | .call .. => none

/-- The expression is a name or a key of a path. -/
def IsPath (e : Expr) : Prop := ∃ n keys, e.path? = some (n, keys)

theorem path?_key {b : Expr} {k n : String} {keys : List String}
    (h : (key b k).path? = some (n, keys)) :
    ∃ keys', b.path? = some (n, keys') ∧ keys = keys' ++ [k] := by
  obtain ⟨⟨m, keys'⟩, found, same⟩ := Option.map_eq_some_iff.1 h
  cases same
  exact ⟨keys', found, rfl⟩

theorem eq_name_of_path {e : Expr} {n : String} (h : e.path? = some (n, [])) : e = .name n := by
  cases e with
  | name m =>
    cases h
    rfl
  | key b k =>
    obtain ⟨keys, _, absurd⟩ := path?_key h
    simp at absurd
  | _ => cases h

theorem text_key {b : Expr} {k : String} (h : b ≠ .top) : (key b k).text = b.text ++ "." ++ k := by
  cases b with
  | top => exact absurd rfl h
  | _ => rfl

/-- The pieces of the written form of a path are its name and its keys. -/
theorem pieces_of_path : ∀ {e : Expr} {n : String} {keys : List String}, e.IsLegal →
    e.path? = some (n, keys) → Filters.pieces e.text = n :: keys
  | .name m, n, keys, legal, h => by
    cases h
    exact Filters.pieces_word legal
  | .key b k, n, keys, legal, h => by
    obtain ⟨keys', found, rfl⟩ := path?_key h
    have notTop : b ≠ .top := by
      rintro rfl
      cases found
    rw [text_key notTop, Filters.pieces_point, pieces_of_path legal.1 found,
      Filters.pieces_word legal.2]
    rfl

/-- The written form of a legal expression that is no path has a piece that is no word. -/
theorem exists_piece_of_not_path : ∀ {e : Expr}, e.IsLegal → ¬ e.IsPath →
    ∃ piece ∈ Filters.pieces e.text, ¬ IsWord piece
  | .name m, _, h => absurd ⟨m, [], rfl⟩ h
  | .top, _, _ => ⟨"", by decide, fun word => word.1 rfl⟩
  | .key b k, legal, h => by
    by_cases top : b = .top
    · subst top
      refine ⟨"", ?_, fun word => word.1 rfl⟩
      show "" ∈ Filters.pieces ("" ++ "." ++ k)
      rw [Filters.pieces_point]
      exact List.mem_append_left _ (by decide)
    · have noPath : ¬ b.IsPath := by
        rintro ⟨n, keys, found⟩
        exact h ⟨n, keys ++ [k], by rw [path?, found]; rfl⟩
      obtain ⟨piece, member, noWord⟩ := exists_piece_of_not_path legal.1 noPath
      refine ⟨piece, ?_, noWord⟩
      rw [text_key top, Filters.pieces_point]
      exact List.mem_append_left _ member
  | .call f a r, _, _ => by
    have opened : '(' ∈ (call f a r).text.toList := by
      simp [text, String.toList_append]
    obtain ⟨piece, member, inside⟩ := Filters.exists_piece opened (by decide)
    exact ⟨piece, member, fun word => (word.2 _ inside).2 (by decide)⟩

/-! ## Evaluating paths -/

variable {σ : Type} {ev : Evaluator σ} {d : Context} {w w' : World σ}

/-- A path comes to what its keys name in the value of its name. -/
theorem evaluate_path : ∀ {e : Expr} {n : String} {keys : List String} {v u : Value},
    e.path? = some (n, keys) → d.lookup n = .ok v → keys.foldlM Filters.within v = some u →
    ev.evaluate d e w = (.done u, w)
  | .name m, n, keys, v, u, h, found, named => by
    cases h
    cases named
    rw [Evaluator.evaluate, found]
    rfl
  | .key b k, n, keys, v, u, h, found, named => by
    obtain ⟨keys', inner, rfl⟩ := path?_key h
    rw [List.foldlM_append] at named
    obtain ⟨base, reached, last⟩ := Option.bind_eq_some_iff.1 named
    have same : base.lookup k = .ok u := by
      cases base with
      | mapping entries =>
        have key : Value.find? k entries = some u := by simpa [Filters.within] using last
        simp [Value.lookup, key]
      | _ => simp [Filters.within] at last
    rw [Evaluator.evaluate, Run.bind_apply, evaluate_path inner found reached]
    simp only [same]
    rfl

/-- A path whose name cannot be looked up is not evaluated either. -/
theorem fails_path : ∀ {e : Expr} {n : String} {keys : List String} {error : HostError},
    e.path? = some (n, keys) → d.lookup n = .error error →
    (ev.evaluate d e w).1 = .failed (.host error)
  | .name m, n, keys, error, h, failed => by
    cases h
    rw [Evaluator.evaluate, failed]
    rfl
  | .key b k, n, keys, error, h, failed => by
    obtain ⟨keys', inner, rfl⟩ := path?_key h
    have base : (ev.evaluate d b w).1 = .failed (.host error) := fails_path inner failed
    rw [Evaluator.evaluate, Run.bind_apply]
    rcases reached : ev.evaluate d b w with ⟨o, w₁⟩
    rw [reached] at base
    cases base
    rfl

end Expr

/-! ## What a press registers -/

/-- What may stand among the filters of a press: a filter, or a namespace of filters. -/
def Value.IsRegistered : Value → Prop
  | .filter .. => True
  | .mapping entries => ∀ entry ∈ entries, ∃ f captured, entry.2 = .filter f captured
  | _ => False

theorem Value.exists_of_asFilter {v u : Value} (h : v.asFilter = .ok u) :
    ∃ f captured, u = .filter f captured := by
  cases v with
  | filter f captured =>
    cases h
    exact ⟨_, _, rfl⟩
  | function label name captured =>
    cases h
    exact ⟨_, _, rfl⟩
  | _ => cases h

/-- What a list of calls that all succeed gives, each of them gives. -/
theorem Except.exists_of_mapM {ε α β : Type} {f : α → Except ε β} {l : List α} {found : List β}
    (h : l.mapM f = .ok found) {y : β} (member : y ∈ found) : ∃ x ∈ l, f x = .ok y := by
  induction l generalizing found with
  | nil =>
    cases h
    cases member
  | cons a rest ih =>
    rw [List.mapM_cons] at h
    obtain ⟨b, first, h⟩ := Template.Builder.bind_eq_ok h
    obtain ⟨found', others, h⟩ := Template.Builder.bind_eq_ok h
    cases h
    rcases List.mem_cons.1 member with rfl | member
    · exact ⟨a, List.mem_cons_self, first⟩
    · obtain ⟨x, hx, same⟩ := ih others member
      exact ⟨x, List.mem_cons_of_mem _ hx, same⟩

theorem Value.isRegistered_of_asFilter {v u : Value} (h : v.asFilter = .ok u) :
    u.IsRegistered := by
  obtain ⟨f, captured, rfl⟩ := Value.exists_of_asFilter h
  trivial

namespace Filters

variable {filters : Filters}

theorem mem_put {name : String} {value : Value} {f : String × Value}
    (h : f ∈ filters.put name value) : f = (name, value) ∨ f ∈ filters := by
  induction filters with
  | nil => exact .inl (List.mem_singleton.1 h)
  | cons g rest ih =>
    simp only [put] at h
    split at h
    · rcases List.mem_cons.1 h with rfl | h
      · subst_vars
        exact .inl rfl
      · exact .inr (List.mem_cons_of_mem _ h)
    · rcases List.mem_cons.1 h with rfl | h
      · exact .inr List.mem_cons_self
      · exact (ih h).imp_right (List.mem_cons_of_mem _)

end Filters

namespace Press

variable {p q : Press}

theorem isRegistered_asFilters {v u : Value} (h : asFilters v = .ok u) : u.IsRegistered := by
  unfold asFilters at h
  split at h
  · rename_i entries
    obtain ⟨found, made, same⟩ := Template.Builder.bind_eq_ok h
    cases same
    intro entry member
    obtain ⟨⟨key, value⟩, _, same⟩ := Except.exists_of_mapM made member
    obtain ⟨u, as, same⟩ := Template.Builder.bind_eq_ok same
    cases same
    exact Value.exists_of_asFilter as
  · exact Value.isRegistered_of_asFilter h

theorem isRegistered_standard : ∀ f ∈ Library.standard, f.2.IsRegistered := by
  simp only [Library.standard, List.forall_mem_cons]
  simp [Value.IsRegistered, Library.ofText, Library.ofValue, Library.escapes]

/-- What stands among the filters of a press is a filter or a namespace of filters. -/
theorem Made.isRegistered (h : p.Made) : ∀ f ∈ p.filters, f.2.IsRegistered := by
  induction h with
  | start settings =>
    show ∀ f ∈ (if settings.standardLibrary then Library.standard else []), _
    split
    · exact isRegistered_standard
    · exact nofun
  | register _ registered ih =>
    obtain ⟨found, as, rfl⟩ := exists_of_register registered
    intro f member
    rcases Filters.mem_put member with rfl | member
    · exact isRegistered_asFilters as
    · exact ih f member
  | @compile p source _ ih =>
    rw [p.filters_compile]
    exact ih

end Press

theorem Value.mem_of_find? {key : String} {entries : List (Value × Value)} {u : Value}
    (h : Value.find? key entries = some u) :
    ∃ entry ∈ entries, entry.1.text? = some key ∧ entry.2 = u := by
  obtain ⟨entry, found, rfl⟩ := Option.map_eq_some_iff.1 h
  refine ⟨entry, List.mem_of_find?_eq_some found, ?_, rfl⟩
  simpa using List.find?_some found

namespace Filters

variable {filters : Filters} {first : String} {keys : List String} {v u : Value}

/-- A path through registered values ends at a filter, or is the bare name of a namespace; it has
one key at most, which is a key of the namespace. -/
theorem ends_of_isRegistered (registered : v.IsRegistered) (named : keys.foldlM within v = some u) :
    (∃ entries, v = .mapping entries ∧ u = v ∧ keys = []) ∨
      (∃ f captured, u = .filter f captured) ∧ (keys = [] ∨
        ∃ entries entry k, v = .mapping entries ∧ entry ∈ entries ∧ entry.1.text? = some k ∧
          keys = [k]) := by
  cases keys with
  | nil =>
    cases named
    cases v with
    | mapping entries => exact .inl ⟨entries, rfl, rfl, rfl⟩
    | filter f captured => exact .inr ⟨⟨f, captured, rfl⟩, .inl rfl⟩
    | _ => exact registered.elim
  | cons k rest =>
    rw [List.foldlM_cons] at named
    obtain ⟨inner, found, named⟩ := Option.bind_eq_some_iff.1 named
    cases v with
    | mapping entries =>
      obtain ⟨entry, member, key, rfl⟩ := Value.mem_of_find? found
      obtain ⟨f, captured, same⟩ := registered entry member
      rw [same] at named
      cases rest with
      | nil =>
        cases named
        exact .inr ⟨⟨f, captured, rfl⟩, .inr ⟨entries, entry, k, rfl, member, key, rfl⟩⟩
      | cons k' rest => cases named
    | _ => cases found

end Filters

/-! ## Names of the press in a context -/

/-- What a context gives for a name, one of its scopes gives; or no scope has anything. -/
theorem Context.lookup_cases {d : Context} {n : String} {v : Value} (h : d.lookup n = .ok v) :
    (v.isMissing = false ∧ ∃ s ∈ d.scopes, s.lookup n = .ok v) ∨
      (v.isMissing = true ∧ ∀ s ∈ d.scopes, ∃ u, s.lookup n = .ok u ∧ u.isMissing = true) := by
  obtain ⟨scopes⟩ := d
  replace h : lookupIn n scopes = .ok v := h
  show (_ ∧ ∃ s ∈ scopes, _) ∨ (_ ∧ ∀ s ∈ scopes, _)
  induction scopes with
  | nil =>
    cases h
    exact .inr ⟨rfl, nofun⟩
  | cons s rest ih =>
    rw [lookupIn] at h
    obtain ⟨u, found, h⟩ := Template.Builder.bind_eq_ok h
    cases gone : u.isMissing with
    | false =>
      rw [gone] at h
      cases h
      exact .inl ⟨gone, s, List.mem_cons_self, found⟩
    | true =>
      rw [gone, if_pos rfl] at h
      rcases ih h with ⟨present, s', hs, given⟩ | ⟨missing, all⟩
      · exact .inl ⟨present, s', List.mem_cons_of_mem _ hs, given⟩
      · exact .inr ⟨missing, List.forall_mem_cons.2 ⟨⟨u, found, gone⟩, all⟩⟩

/-- The scope gives nothing for the name. -/
def Scope.Silent (s : Scope) (name : String) : Prop :=
  ∀ v, s.lookup name = .ok v → v.isMissing = true

namespace Press

/-- The outermost scope of the renderings of a press, which holds its filters. -/
def ground (p : Press) : Scope := ⟨.missing, p.filters⟩

variable {p : Press} {d : Context} {n : String} {v : Value}

/-- A press renders in contexts that hold its filters and the data. -/
theorem subset_context (p : Press) (data : Value) (named : List (Value × Value)) :
    (p.rootContext []).scopes ⊆ (p.context data named).scopes ∧
      (data ≠ .null → ⟨data, []⟩ ∈ (p.context data named).scopes) := by
  have back : (p.rootContext []).scopes ⊆ (p.context data []).scopes ∧
      (data ≠ .null → ⟨data, []⟩ ∈ (p.context data []).scopes) := by
    cases data with
    | null => exact ⟨List.Subset.refl _, fun some => absurd rfl some⟩
    | _ => exact ⟨List.subset_cons_self _ _, fun _ => List.mem_cons_self⟩
  have front : (p.context data []).scopes ⊆ (p.context data named).scopes := by
    cases named with
    | nil => exact List.Subset.refl _
    | cons => exact List.subset_cons_self _ _
  exact ⟨List.Subset.trans back.1 front, fun some => front (back.2 some)⟩

theorem ground_mem_context (some : p.filters ≠ []) (data : Value) (named : List (Value × Value)) :
    p.ground ∈ (p.context data named).scopes := by
  refine (p.subset_context data named).1 ?_
  simp [rootContext, Context.root, some, Context.withFilters, Context.push, ground]

theorem lookup_ground (p : Press) (n : String) :
    p.ground.lookup n = .ok ((p.filters.lookup n).getD .missing) := rfl

/-- In a context of the press, a name that no other scope shadows stands for what the press has under
it, unless a scope cannot be searched. -/
theorem lookup_of_silent (grounded : p.ground ∈ d.scopes)
    (silent : ∀ s ∈ d.scopes, s = p.ground ∨ s.Silent n) (found : p.filters.lookup n = some v)
    (there : v.isMissing = false) : d.lookup n = .ok v ∨ ∃ error, d.lookup n = .error error := by
  have own : p.ground.lookup n = .ok v := by rw [lookup_ground, found, Option.getD_some]
  cases looked : d.lookup n with
  | error error => exact .inr ⟨error, rfl⟩
  | ok u =>
    rcases Context.lookup_cases looked with ⟨present, s, hs, given⟩ | ⟨_, all⟩
    · rcases silent s hs with rfl | quiet
      · exact .inl (given.symm.trans own)
      · rw [quiet u given] at present
        cases present
    · obtain ⟨u', given, absent⟩ := all _ grounded
      rw [own] at given
      cases given
      rw [there] at absent
      cases absent

end Press

/-! ## What a check has found -/

theorem mem_distinct {names : List String} {n : String} : n ∈ distinct names ↔ n ∈ names := by
  simp [distinct, List.mem_mergeSort]

namespace Press

variable {σ : Type} {p : Press} {source : String} {c : Compiled} {head : Head} {f : Expr}

theorem mem_filterNames {t : Template} {name : String} :
    name ∈ t.filterNames ↔ ∃ head ∈ t.heads, ∃ f ∈ head.expression.callees, f.text = name := by
  simp only [Template.filterNames, mem_distinct, List.mem_flatMap, Expr.filterNames, List.mem_map]

theorem mem_unknownFilters {t : Template} {name : String} :
    name ∈ p.unknownFilters t ↔ name ∈ t.filterNames ∧ p.filters.resolve? name = none := by
  rw [unknownFilters, List.mem_filter, Option.isNone_iff_eq_none]

/-- A template has no unknown filters if the press knows all that it calls. -/
theorem unknownFilters_eq_nil_iff {t : Template} :
    p.unknownFilters t = [] ↔ ∀ head ∈ t.heads, ∀ f ∈ head.expression.callees,
      ∃ u, p.filters.resolve? f.text = some u := by
  simp only [List.eq_nil_iff_forall_not_mem, mem_unknownFilters, mem_filterNames, not_and,
    ← Option.isSome_iff_exists, ← Option.isSome_iff_ne_none]
  constructor
  · exact fun all head hh f hf => all f.text ⟨head, hh, f, hf, rfl⟩
  · rintro all _ ⟨head, hh, f, hf, rfl⟩
    exact all head hh f hf

/-- A source that passes the check calls nothing that the press does not know. -/
theorem exists_of_check (valid : (p.check source).1 = [])
    (compiled : (p.compile source).1 = .ok c) :
    ∀ head ∈ c.template.heads, ∀ f ∈ head.expression.callees,
      ∃ u, p.filters.resolve? f.text = some u := by
  have notBlank : Text.isBlankText source = false := by
    by_contra blank
    rw [check, if_pos (by simpa using blank)] at valid
    cases valid
  rw [check_of_compile notBlank compiled, List.map_eq_nil_iff] at valid
  exact unknownFilters_eq_nil_iff.1 valid

/-- The callee is the bare name of a namespace. -/
def IsNamespace (p : Press) (f : Expr) : Prop :=
  ∃ n entries, f = .name n ∧ p.filters.lookup n = some (.mapping entries)

/-- The names of the filters and the keys of the namespaces are words. -/
def IsWorded (p : Press) : Prop :=
  ∀ f ∈ p.filters, Expr.IsWord f.1 ∧ ∀ entries, f.2 = .mapping entries →
    ∀ entry ∈ entries, ∀ key, entry.1.text? = some key → Expr.IsWord key

/-- Where all names are words, only paths are known to the press. -/
theorem Made.isPath_of_resolve? (made : p.Made) (worded : p.IsWorded) (legal : f.IsLegal)
    {u : Value} (known : p.filters.resolve? f.text = some u) : f.IsPath := by
  by_contra noPath
  obtain ⟨piece, member, noWord⟩ := Expr.exists_piece_of_not_path legal noPath
  cases split : Filters.pieces f.text with
  | nil =>
    rw [split] at member
    cases member
  | cons first keys =>
    rw [split] at member
    rw [Filters.resolve?_of_pieces split] at known
    obtain ⟨v, found, named⟩ := Option.bind_eq_some_iff.1 known
    have there := Value.mem_of_lookup found
    obtain ⟨word, words⟩ := worded _ there
    apply noWord
    rcases Filters.ends_of_isRegistered (made.isRegistered _ there) named with
      ⟨_, _, _, rfl⟩ | ⟨_, rfl | ⟨entries, entry, k, same, inside, key, rfl⟩⟩
    · exact List.mem_singleton.1 member ▸ word
    · exact List.mem_singleton.1 member ▸ word
    · rcases List.mem_cons.1 member with rfl | member
      · exact word
      · exact List.mem_singleton.1 member ▸ words entries same entry inside k key

/-- A path that the press knows, and whose name no other scope shadows, comes to what the press has,
which is a filter unless the path is the bare name of a namespace. -/
theorem Made.evaluate_path (made : p.Made) {ev : Evaluator σ} {d : Context} {n : String}
    {keys : List String} {data : Value} {named : List (Value × Value)} (legal : f.IsLegal)
    (path : f.path? = some (n, keys)) (sees : (p.context data named).scopes ⊆ d.scopes)
    (silent : ∀ s ∈ d.scopes, s = p.ground ∨ s.Silent n) {u : Value}
    (resolved : p.filters.resolve? f.text = some u) :
    (p.IsNamespace f ∧ u.kind = "dict" ∨ ∃ g captured, u = .filter g captured) ∧
      ∀ w, ev.evaluate d f w = (.done u, w) ∨
        ∃ error, (ev.evaluate d f w).1 = .failed (.host error) := by
  rw [Filters.resolve?_of_pieces (Expr.pieces_of_path legal path)] at resolved
  obtain ⟨v, found, reached⟩ := Option.bind_eq_some_iff.1 resolved
  have registered := made.isRegistered _ (Value.mem_of_lookup found)
  refine ⟨?_, fun w => ?_⟩
  · rcases Filters.ends_of_isRegistered registered reached with ⟨entries, rfl, rfl, rfl⟩ | ⟨ends, _⟩
    · exact .inl ⟨⟨n, entries, Expr.eq_name_of_path path, found⟩, rfl⟩
    · exact .inr ends
  · have there : v.isMissing = false := by
      cases v with
      | missing => exact registered.elim
      | _ => rfl
    have some : p.filters ≠ [] := List.ne_nil_of_mem (Value.mem_of_lookup found)
    have grounded := sees (ground_mem_context some data named)
    rcases lookup_of_silent grounded silent found there with looked | ⟨error, failed⟩
    · exact .inl (Expr.evaluate_path path looked reached)
    · exact .inr ⟨error, Expr.fails_path path failed⟩

/-- Where a tag of the template sees the outer scopes, no scope in front of the filters of the press
gives anything for the first name of a path that the tag calls. -/
def Unshadowed (p : Press) (e : Engine σ) (t : Template) (c : Context) (w : World σ) : Prop :=
  ∀ head d, e.Visits t c w head d → head ∈ t.heads → c.scopes ⊆ d.scopes →
    ∀ f ∈ head.expression.callees, ∀ n keys, f.path? = some (n, keys) →
      ∀ s ∈ d.scopes, s = p.ground ∨ s.Silent n

/-- What a source calls that has passed the check is a filter wherever it is called, unless it is
the bare name of a namespace or no path. So when such a source is rendered and missing values are
empty, only for these callees can the fault be that one has no value or is no filter; and where the
names of the filters are words, all callees are paths. -/
theorem checked_calls_filters {host : Host σ} {data : Value} {named : List (Value × Value)}
    {strict : Option Bool} {w : World σ} (made : p.Made) (valid : (p.check source).1 = [])
    (compiled : (p.compile source).1 = .ok c) (lenient : p.policy strict = .empty)
    (unshadowed : p.Unshadowed (p.engine host strict) c.template (p.context data named) w)
    (unprovoked :
      (p.engine host strict).Unprovoked c.template (p.context data named) w Cause.Misses) :
    (∀ head d, (p.engine host strict).Visits c.template (p.context data named) w head d →
      head ∈ c.template.heads → (p.context data named).scopes ⊆ d.scopes →
      ∀ f ∈ head.expression.callees, f.IsPath → ¬ p.IsNamespace f →
      ∃ g captured, p.filters.resolve? f.text = some (.filter g captured) ∧
        ∀ w, (p.engine host strict).evaluator.evaluate d f w = (.done (.filter g captured), w) ∨
          ∃ error, ((p.engine host strict).evaluator.evaluate d f w).1 = .failed (.host error)) ∧
    (∀ fault, (p.render host c data named strict w).1 = .failed (.fault fault) →
      fault.cause.Misses → ∃ head ∈ c.template.heads, ∃ f ∈ head.expression.callees,
        p.IsNamespace f ∧ fault.cause = .notFilter f.text "dict" ∨
        ¬ f.IsPath ∧ (fault.cause = .unresolved f.text ∨
          ∃ kind, fault.cause = .notFilter f.text kind)) ∧
    (p.IsWorded → ∀ head ∈ c.template.heads, ∀ f ∈ head.expression.callees, f.IsPath) := by
  have legal : ∀ head ∈ c.template.heads, ∀ f ∈ head.expression.callees, f.IsLegal :=
    fun head hh f hf => Expr.isLegal_callee
      (Template.isLegal_of_parse (made.sound.of_compile compiled).2 head hh) hf
  have known := exists_of_check valid compiled
  -- A callee that is a path comes to what the press has, wherever a tag sees the outer scopes.
  have reaches {head : Head} {d : Context} {f : Expr}
      (visits : (p.engine host strict).Visits c.template (p.context data named) w head d)
      (hh : head ∈ c.template.heads) (sees : (p.context data named).scopes ⊆ d.scopes)
      (hf : f ∈ head.expression.callees) (is : f.IsPath) :
      ∃ u, p.filters.resolve? f.text = some u ∧
        (p.IsNamespace f ∧ u.kind = "dict" ∨ ∃ g captured, u = .filter g captured) ∧
        ∀ w, (p.engine host strict).evaluator.evaluate d f w = (.done u, w) ∨
          ∃ error, ((p.engine host strict).evaluator.evaluate d f w).1 = .failed (.host error) := by
    obtain ⟨n, keys, path⟩ := is
    obtain ⟨u, resolved⟩ := known head hh f hf
    exact ⟨u, resolved, made.evaluate_path (legal head hh f hf) path sees
      (unshadowed head d visits hh sees f hf n keys path) resolved⟩
  refine ⟨fun head d visits hh sees f hf is single => ?_, fun fault failed misses => ?_,
    fun worded head hh f hf => ?_⟩
  · obtain ⟨u, resolved, ends, comes⟩ := reaches visits hh sees hf is
    obtain ⟨g, captured, rfl⟩ := ends.resolve_left fun h => single h.1
    exact ⟨g, captured, resolved, comes⟩
  · obtain ⟨head, d, x, visits, hh, sees, lacks⟩ := unprovoked.exists_lacks failed misses misses
    have ends {f : Expr} {v : Value} {w₁ w₂ : World σ} (hf : f ∈ head.expression.callees)
        (found : (p.engine host strict).evaluator.evaluate d f w₁ = (.done v, w₂))
        (is : f.IsPath) :
        p.IsNamespace f ∧ v.kind = "dict" ∨ ∃ g captured, v = .filter g captured := by
      obtain ⟨u, _, ends, comes⟩ := reaches visits hh sees hf is
      rcases comes w₁ with done | ⟨error, failed⟩
      · rw [found] at done
        exact Outcome.done.inj (congrArg Prod.fst done) ▸ ends
      · rw [found] at failed
        cases failed
    generalize fault.cause = cause at lacks ⊢
    cases lacks with
    | @callee v _ _ hf found missing =>
      refine ⟨head, hh, _, hf, .inr ⟨fun is => ?_, .inl rfl⟩⟩
      rcases ends hf found is with ⟨_, kind⟩ | ⟨g, captured, rfl⟩
      · cases v with
        | missing => exact absurd kind (by decide)
        | _ => cases missing
      · cases missing
    | @notFilter v _ _ hf found noFilter =>
      by_cases is : x.IsPath
      · rcases ends hf found is with ⟨single, kind⟩ | ⟨g, captured, filter⟩
        · exact ⟨head, hh, x, hf, .inl ⟨single, by rw [kind]⟩⟩
        · exact absurd filter (noFilter g captured)
      · exact ⟨head, hh, x, hf, .inr ⟨is, .inr ⟨_, rfl⟩⟩⟩
    | value _ _ _ fail =>
      have empty : (p.engine host strict).policy = .empty := lenient
      rw [empty] at fail
      cases fail
  · obtain ⟨u, resolved⟩ := known head hh f hf
    exact made.isPath_of_resolve? worded (legal head hh f hf) resolved

/-- A page that calls a filter by its path, and then the namespace of the filter. -/
def escapesPage : String := "\x7b\x7bHTML.escape(x)\x7d\x7d\x7b\x7bHTML(x)\x7d\x7d"

def escapesData : Value := .mapping [(.text "x", .text "a")]

def escapesHead : Head := ⟨.call (.key (.name "HTML") "escape") (.name "x") [], ⟨1, 1, none⟩⟩

def escapeHead : Head := ⟨.call (.name "HTML") (.name "x") [], ⟨1, 19, none⟩⟩

def escapesTree : Template := [.variableTag escapesHead true, .variableTag escapeHead true]

theorem calls_escapes : ∀ head ∈ [escapesHead, escapeHead], ∀ f ∈ head.expression.callees,
    (∃ u, (start {}).filters.resolve? f.text = some u) ∧ ∃ keys, f.path? = some ("HTML", keys) := by
  intro head hh f hf
  rcases List.mem_cons.1 hh with rfl | hh
  · obtain rfl := List.mem_singleton.1 hf
    exact ⟨Option.isSome_iff_exists.1 (by cbv), _, rfl⟩
  · obtain rfl := List.mem_singleton.1 hh
    obtain rfl := List.mem_singleton.1 hf
    exact ⟨Option.isSome_iff_exists.1 (by cbv), _, rfl⟩

theorem silent_escapes : ∀ s ∈ ((start {}).context escapesData []).scopes,
    s = (start {}).ground ∨ s.Silent "HTML" := by
  intro s hs
  rcases List.mem_cons.1 hs with rfl | hs
  · refine .inr fun v looked => ?_
    cases looked
    rfl
  · exact .inl (List.mem_singleton.1 hs)

theorem checked_calls_filters_escapes :
    ((start {}).check escapesPage).1 = [] ∧
      (∃ g captured, (start {}).filters.resolve? "HTML.escape" = some (.filter g captured)) ∧
      ∃ c fault, ((start {}).compile escapesPage).1 = .ok c ∧
        ((start {}).render Host.none c escapesData [] none (World.start ())).1 =
          .failed (.fault fault) ∧ ∃ head ∈ c.template.heads, ∃ f ∈ head.expression.callees,
            (start {}).IsNamespace f ∧ fault.cause = .notFilter f.text "dict" := by
  have parsed : (start {}).read escapesPage = .ok escapesTree := by cbv
  have compiled := congrArg Prod.fst (compile_of_read (p := start {}) rfl parsed)
  have heads : escapesTree.heads = [escapesHead, escapeHead] := rfl
  have valid : ((start {}).check escapesPage).1 = [] := by
    rw [check_of_compile (by cbv) compiled, List.map_eq_nil_iff, unknownFilters_eq_nil_iff,
      heads]
    exact fun head hh f hf => (calls_escapes head hh f hf).1
  have unshadowed : (start {}).Unshadowed ((start {}).engine Host.none none) escapesTree
      ((start {}).context escapesData []) (World.start ()) := by
    intro head d visits hh _ f hf n keys path
    obtain rfl := visits.eq_of_flat Host.none_stays rfl
    obtain ⟨keys', html⟩ := (calls_escapes head (heads ▸ hh) f hf).2
    cases path.symm.trans html
    exact silent_escapes
  have calm : escapesData.Throughout Value.Calm := by
    refine .mapping Value.ordinary_calm fun entry is => ?_
    obtain rfl := List.mem_singleton.1 is
    exact ⟨.simple (Value.ordinary_calm.text _) rfl, .simple (Value.ordinary_calm.text _) rfl⟩
  obtain ⟨calls, faults, _⟩ := checked_calls_filters (.start {}) valid compiled rfl unshadowed
    (Engine.unprovoked_of_quiet Host.none_stays Host.none_quiet (none_calm calm) _ _)
  have member : escapesHead ∈ escapesTree.heads := heads ▸ List.mem_cons_self
  obtain ⟨g, captured, named, _⟩ := calls escapesHead _ ⟨_, _, _, _, .enter (.node .here rfl) .here⟩
    member (List.Subset.refl _) _ (List.mem_singleton_self _) ⟨_, _, rfl⟩
    (by rintro ⟨n, entries, ⟨⟩, _⟩)
  have rendered : ((start {}).render Host.none ⟨(start {}).compiled, escapesPage, escapesTree⟩
      escapesData [] none (World.start ())).1 =
      .failed (.fault ⟨.notFilter "HTML" "dict", some ⟨1, 19, none⟩⟩) := by
    cbv
  refine ⟨valid, ⟨g, captured, named⟩, _, _, compiled, rendered, ?_⟩
  obtain ⟨head, hh, f, hf, slips | ⟨noPath, _⟩⟩ := faults _ rendered (.inr ⟨rfl, _, _, rfl⟩)
  · exact ⟨head, hh, f, hf, slips⟩
  · obtain ⟨keys, path⟩ := (calls_escapes head (heads ▸ hh) f hf).2
    exact absurd ⟨_, _, path⟩ noPath

/-- A page that calls a namespace. -/
def namespacePage : String := "\x7b\x7bHTML(x)\x7d\x7d"

/-- The bare name of a namespace passes the check, since the press has something under it; but it is
no filter. -/
theorem namespace_passes_check :
    ((start {}).check namespacePage).1 = [] ∧
      (((start {}).renderSource Host.none namespacePage escapesData none).1
        (World.start ())).1 =
        .failed (.fault ⟨.notFilter "HTML" "dict", some ⟨1, 1, none⟩⟩) := by
  have parsed : (start {}).read namespacePage =
      .ok [.variableTag ⟨.call (.name "HTML") (.name "x") [], ⟨1, 1, none⟩⟩ true] := by cbv
  have compiled := congrArg Prod.fst (compile_of_read (p := start {}) rfl parsed)
  have serves : (start {}).Serves namespacePage _ := ⟨_, compiled, rfl⟩
  refine ⟨?_, ?_⟩
  · rw [check_of_compile (by cbv) compiled]
    cbv
  · rw [serves.renderSource]
    cbv

end Press

end Stencil
