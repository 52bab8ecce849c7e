-- Named values in front of data. A template finds names in two layers as it would find them in the
-- data with its entries overridden; only `.` can tell two layers from one, and a named value that
-- is missing overrides nothing.
import Stencil.Press
import Stencil.Proofs.Demands

namespace Stencil

/-! ## Entries over entries -/

namespace Value

variable {n : String} {v : Value} {entries : List (Value × Value)} {named : List (String × Value)}

/-- What entries give for a name. -/
def found (n : String) (entries : List (Value × Value)) : Value := (find? n entries).getD .missing

/-- Named values as entries. -/
def entriesOf (named : List (String × Value)) : List (Value × Value) :=
  named.map fun (n, v) => (.text n, v)

/-- The entries with named values put in, one after the other. -/
def overridden (entries : List (Value × Value)) (named : List (String × Value)) :
    List (Value × Value) :=
  named.foldl (fun all (n, v) => insert (.text n) v all) entries

/-- The named values that are there. -/
def present (named : List (String × Value)) : List (String × Value) :=
  named.filter fun (_, v) => !v.isMissing

theorem eq_missing (h : v.isMissing = true) : v = .missing := by
  cases v <;> first | rfl | cases h

/-- A text is the same key as the texts that spell it, safe or not, and as nothing else. -/
theorem sameKey_text (k : Value) (s : String) : sameKey k (.text s) = (k.text? == some s) := by
  cases k with
  | float x =>
    -- A number is never the same key as a text, whether or not it is whole.
    unfold sameKey
    cases (Value.float x).whole? <;> rfl
  | _ => simp [sameKey, whole?, text?]

theorem find?_cons (k : Value) (v : Value) (entries : List (Value × Value)) (n : String) :
    find? n ((k, v) :: entries) = if k.text? = some n then some v else find? n entries := by
  by_cases h : k.text? = some n
  · simp [find?, h]
  · simp [find?, h]

theorem find?_insert (s : String) (v : Value) (entries : List (Value × Value)) (n : String) :
    find? n (insert (.text s) v entries) = if s = n then some v else find? n entries := by
  induction entries with
  | nil => simp [insert, find?_cons, text?]
  | cons entry rest ih =>
    obtain ⟨k, u⟩ := entry
    by_cases same : k.text? = some s
    · simp only [insert, sameKey_text, same, find?_cons, beq_self_eq_true, if_true,
        Option.some.injEq]
      by_cases h : s = n
      · simp only [h, if_true]
      · simp only [h, if_false]
    · have other : sameKey k (.text s) = false := by simpa [sameKey_text] using same
      simp only [insert, other, find?_cons, ih, Bool.false_eq_true, if_false]
      by_cases h : k.text? = some n
      · have apart : s ≠ n := fun hs => same (hs ▸ h)
        simp only [h, apart, if_true, if_false]
      · simp only [h, if_false]

theorem lookup_cons_ite (m : String) (v : Value) (rest : List (String × Value)) (n : String) :
    ((m, v) :: rest).lookup n = if m = n then some v else rest.lookup n := by
  by_cases h : m = n
  · simp [h]
  · have other : (n == m) = false := by simpa using Ne.symm h
    simp [List.lookup_cons, other, h]

theorem lookup_eq_none (h : n ∉ named.map Prod.fst) : named.lookup n = none := by
  rw [List.lookup_eq_none_iff]
  intro entry hentry
  have apart : n ≠ entry.1 := fun hn => h (hn ▸ List.mem_map.2 ⟨entry, hentry, rfl⟩)
  simpa using apart

theorem find?_entriesOf (named : List (String × Value)) (n : String) :
    find? n (entriesOf named) = named.lookup n := by
  induction named with
  | nil => rfl
  | cons entry rest ih =>
    obtain ⟨m, v⟩ := entry
    show find? n ((.text m, v) :: entriesOf rest) = _
    rw [find?_cons, ih, lookup_cons_ite]
    simp only [text?, Option.some.injEq]

/-- A named value comes before the entries. -/
theorem find?_overridden (distinct : (named.map Prod.fst).Nodup)
    (entries : List (Value × Value)) (n : String) :
    find? n (overridden entries named) = (named.lookup n).or (find? n entries) := by
  induction named generalizing entries with
  | nil => rfl
  | cons entry rest ih =>
    obtain ⟨m, v⟩ := entry
    rw [List.map_cons, List.nodup_cons] at distinct
    show find? n (overridden (insert (.text m) v entries) rest) = _
    rw [ih distinct.2, find?_insert, lookup_cons_ite]
    by_cases h : m = n
    · have once : rest.lookup n = none := lookup_eq_none (h ▸ distinct.1)
      simp only [h, once, if_true, Option.none_or, Option.some_or]
    · simp only [h, if_false]

/-- A named value that is there stays so when the others are left out. -/
theorem lookup_present (distinct : (named.map Prod.fst).Nodup) (n : String) :
    (present named).lookup n = (named.lookup n).filter fun v => !v.isMissing := by
  induction named with
  | nil => rfl
  | cons entry rest ih =>
    obtain ⟨m, v⟩ := entry
    rw [List.map_cons, List.nodup_cons] at distinct
    have others := ih distinct.2
    rw [lookup_cons_ite]
    by_cases missing : v.isMissing = true
    · have dropped : present ((m, v) :: rest) = present rest := by simp [present, missing]
      rw [dropped, others]
      by_cases h : m = n
      · have once : rest.lookup n = none := lookup_eq_none (h ▸ distinct.1)
        simp [h, once, Option.filter_some, missing]
      · simp only [h, if_false]
    · have kept : present ((m, v) :: rest) = (m, v) :: present rest := by simp [present, missing]
      rw [kept, lookup_cons_ite, others]
      by_cases h : m = n
      · simp [h, Option.filter_some, missing]
      · simp only [h, if_false]

theorem distinct_present (distinct : (named.map Prod.fst).Nodup) :
    ((present named).map Prod.fst).Nodup :=
  (List.filter_sublist.map Prod.fst).nodup distinct

/-- What two layers give for a name: that of the front one, if it is there. -/
def layered (n : String) (named : List (String × Value)) (entries : List (Value × Value)) : Value :=
  let v := found n (entriesOf named)
  if v.isMissing then found n entries else v

theorem layered_nil (n : String) (entries : List (Value × Value)) :
    layered n [] entries = found n entries := rfl

theorem found_overridden_present (distinct : (named.map Prod.fst).Nodup)
    (entries : List (Value × Value)) (n : String) :
    found n (overridden entries (present named)) = layered n named entries := by
  rw [found, find?_overridden (distinct_present distinct), lookup_present distinct]
  simp only [layered, found, find?_entriesOf]
  cases named.lookup n with
  | none => rfl
  | some v => cases h : v.isMissing <;> simp [Option.filter_some, h]

theorem found_overridden (distinct : (named.map Prod.fst).Nodup)
    (harmless : named.lookup n = some .missing → (found n entries).isMissing = true) :
    found n (overridden entries named) = layered n named entries := by
  rw [found, find?_overridden distinct]
  simp only [layered, found, find?_entriesOf]
  cases hv : named.lookup n with
  | none => rfl
  | some v =>
    cases h : v.isMissing with
    | false => simp [h]
    | true =>
      have missing : v = .missing := eq_missing h
      have nothing : (find? n entries).getD .missing = .missing :=
        eq_missing (harmless (missing ▸ hv))
      simp [nothing, missing]

end Value

/-! ## Contexts of layers -/

namespace Context

theorem lookupIn_mapping (n : String) (entries : List (Value × Value)) (rest : List Scope) :
    lookupIn n (⟨.mapping entries, []⟩ :: rest) =
      if (Value.found n entries).isMissing then lookupIn n rest
      else .ok (Value.found n entries) := by
  have own : (⟨.mapping entries, []⟩ : Scope).lookup n = .ok (Value.found n entries) := by
    show (Except.ok (if (Value.found n entries).isMissing then .missing
      else Value.found n entries) : Except HostError Value) = _
    cases h : (Value.found n entries).isMissing with
    | false => rfl
    | true => rw [Value.eq_missing h]; rfl
  rw [lookupIn, own]
  rfl

end Context

namespace Press

variable {σ : Type} {p : Press} {data both : List (Value × Value)} {named : List (String × Value)}

/-- The look-ups of a rendering: named values, then data, then the filters of the press. -/
theorem lookup_context (p : Press) (data : List (Value × Value)) (named : List (String × Value))
    (n : String) :
    (p.context (.mapping data) (Value.entriesOf named)).lookup n =
      if (Value.layered n named data).isMissing then (p.rootContext []).lookup n
      else .ok (Value.layered n named data) := by
  have behind : Context.lookupIn n (⟨.mapping data, []⟩ :: (p.rootContext []).scopes) = _ :=
    Context.lookupIn_mapping n data _
  cases named with
  | nil => exact behind
  | cons entry rest =>
    show Context.lookupIn n (⟨.mapping (Value.entriesOf (entry :: rest)), []⟩ ::
      ⟨.mapping data, []⟩ :: (p.rootContext []).scopes) = _
    rw [Context.lookupIn_mapping, behind, Value.layered]
    cases h : (Value.found n (Value.entriesOf (entry :: rest))).isMissing with
    | false => simp [h]
    | true => simp [Context.lookup]

theorem context_agree (h : ∀ n, Value.found n both = Value.layered n named data) :
    (p.context (.mapping data) (Value.entriesOf named)).AgreeOn .allNames
      (p.context (.mapping both) []) := by
  constructor
  · intro n _
    have single := lookup_context p both [] n
    rw [Value.layered_nil, h] at single
    exact (lookup_context p data named n).trans single.symm
  · intro dot
    cases dot

/-- Named values are in front of the data as in one mapping, the data with its entries overridden: a
template without `.` is rendered alike, whatever the press, if no renderable asks its context for
more than names. A named value that is missing overrides nothing; so the one mapping may hold it as
well, unless the data has its name. -/
theorem render_layers (p : Press) (host : Host σ) (heedless : host.HeedlessOn .allNames)
    (c : Compiled) (dotless : ¬ c.template.Mentions .top) (data : List (Value × Value))
    (named : List (String × Value)) (distinct : (named.map Prod.fst).Nodup)
    (strict : Option Bool) :
    p.render host c (.mapping data) (Value.entriesOf named) strict =
      p.render host c (.mapping (Value.overridden data (Value.present named))) [] strict ∧
    ((∀ n, named.lookup n = some .missing → (Value.found n data).isMissing = true) →
      p.render host c (.mapping data) (Value.entriesOf named) strict =
        p.render host c (.mapping (Value.overridden data named)) [] strict) := by
  have alike {both : List (Value × Value)}
      (h : ∀ n, Value.found n both = Value.layered n named data) :
      p.render host c (.mapping data) (Value.entriesOf named) strict =
        p.render host c (.mapping both) [] strict := by
    have steady : (p.engine host strict).IsSteadyOn .allNames Engine.deepest :=
      Engine.isSteadyOn heedless Engine.deepest
    exact steady.nodes (Demand.allNames_covers_iff.2 dotless) (context_agree h)
  constructor
  · exact alike (Value.found_overridden_present distinct data)
  · intro harmless
    exact alike fun n => Value.found_overridden distinct (harmless n)

/-- A page that is signed by whoever its context names. -/
def signedPage : Compiled := ⟨0, "\x7b\x7btext\x7d\x7d, \x7b\x7bsign\x7d\x7d", [
  .variableTag ⟨.name "text", ⟨1, 1, none⟩⟩ true, .text ", ",
  .variableTag ⟨.name "sign", ⟨1, 11, none⟩⟩ true]⟩

/-- Its renderables show a template of their own. -/
def signingHost : Host Unit where
  call name _ _ o := (.error (.host (.raised "NameError" name)), o)
  script _ _ _ c := .template [.variableTag ⟨.name "author", ⟨1, 1, none⟩⟩ true] c fun s =>
    .done (.rendering ⟨.plain s, true⟩)

def signedData : List (Value × Value) :=
  [(.text "sign", .deferred "sign" []), (.text "author", .text "Ann"), (.text "text", .text "Hi")]

def signedNames : List (String × Value) := [("author", .text "<Bo>"), ("date", .missing)]

theorem render_layers_signed :
    ((start {}).render signingHost signedPage (.mapping signedData)
        (Value.entriesOf signedNames) none (World.start ())).1 = .done "Hi, &lt;Bo&gt;" ∧
      (start {}).render signingHost signedPage (.mapping signedData)
          (Value.entriesOf signedNames) none =
        (start {}).render signingHost signedPage
          (.mapping (Value.overridden signedData (Value.present signedNames))) [] none ∧
      (start {}).render signingHost signedPage (.mapping signedData)
          (Value.entriesOf signedNames) none =
        (start {}).render signingHost signedPage
          (.mapping (Value.overridden signedData signedNames)) [] none := by
  have heedless : signingHost.HeedlessOn .allNames := by
    intro name captured tag c d _ agree
    refine .template (Demand.allNames_covers_iff.2 ?_) agree fun s => .done _
    simp [Template.Mentions, Template.heads, Template.tags, Node.tagsList, Node.tags, Node.head?,
      Expr.parts]
  have dotless : ¬ signedPage.template.Mentions .top := by
    simp [signedPage, Template.Mentions, Template.heads, Template.tags, Node.tagsList, Node.tags,
      Node.head?, Expr.parts]
  have distinct : (signedNames.map Prod.fst).Nodup := by decide
  have both := render_layers (start {}) signingHost heedless signedPage dotless signedData
    signedNames distinct none
  refine ⟨by cbv, both.1, both.2 fun n hn => ?_⟩
  have date : n = "date" := by
    by_contra other
    rw [signedNames, Value.lookup_cons_ite, Value.lookup_cons_ite, if_neg (Ne.symm other)] at hn
    split at hn <;> cases hn
  subst date
  rfl

/-- A named value that is missing is in nothing's way, but in one mapping it takes the place of the
entry. -/
theorem missing_name_hides_nothing :
    (((start {}).withCompiled "\x7b\x7bx\x7d\x7d" fun p c =>
        p.render Host.none c (.mapping [(.text "x", .int 1)])
          (Value.entriesOf [("x", .missing)]) none).1 (World.start ())).1 = .done "1" ∧
      (((start {}).withCompiled "\x7b\x7bx\x7d\x7d" fun p c =>
        p.render Host.none c
          (.mapping (Value.overridden [(.text "x", .int 1)] [("x", .missing)])) []
          none).1 (World.start ())).1 = .done "" := by
  constructor <;> cbv

end Press

end Stencil
