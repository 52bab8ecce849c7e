-- The grammar of templates: what a tag may mean, and when tags make up a template. Sections nest,
-- and a closing tag is empty or names its section again. A run over a list of open sections tells
-- where tags stop being the beginning of a template.
import Stencil.Proofs.Scan

namespace Stencil

/-! ## Meanings -/

/-- What a tag means. -/
inductive Meaning where
  | variableTag (expression : Expr) (escaped : Bool)
  | opening (expression : Expr) (inverted : Bool)
  /-- The end of a section, which names its expression or nothing. -/
  | closing (expression : Option Expr)
  | comment

/-- The characters that decide what a tag with two braces means. -/
def RawTag.sigils : List Char := ['&', '#', '^', '/', '!', '>', '=']

/-- The meanings of a tag, by its braces and its stripped content. Where an expression is asked for
there has to be a valid one, and for the sigils that are left out there is no meaning. -/
inductive RawTag.Means : RawTag → Meaning → Prop
  | triple {content : List Char} {e : Expr} :
    Expr.parse (Text.trim content) = .ok e → Means ⟨true, content⟩ (.variableTag e false)
  | ampersand {content text : List Char} {e : Expr} :
    Text.trim content = '&' :: text → Expr.parse text = .ok e →
    Means ⟨false, content⟩ (.variableTag e false)
  | plain {content text : List Char} {c : Char} {e : Expr} :
    Text.trim content = c :: text → c ∉ sigils → Expr.parse (c :: text) = .ok e →
    Means ⟨false, content⟩ (.variableTag e true)
  | opening {content text : List Char} {e : Expr} :
    Text.trim content = '#' :: text → Expr.parse text = .ok e →
    Means ⟨false, content⟩ (.opening e false)
  | inverted {content text : List Char} {e : Expr} :
    Text.trim content = '^' :: text → Expr.parse text = .ok e →
    Means ⟨false, content⟩ (.opening e true)
  | closing {content text : List Char} :
    Text.trim content = '/' :: text → Text.trim text = [] → Means ⟨false, content⟩ (.closing none)
  | closingNamed {content text : List Char} {e : Expr} :
    Text.trim content = '/' :: text → Text.trim text ≠ [] → Expr.parse (Text.trim text) = .ok e →
    Means ⟨false, content⟩ (.closing (some e))
  | comment {content text : List Char} :
    Text.trim content = '!' :: text → Means ⟨false, content⟩ .comment

namespace Template

/-- The meanings of a role. -/
def Role.Means : Role → Meaning → Prop
  | .variableTag escaped text, m => ∃ e, Expr.parse text = .ok e ∧ m = .variableTag e escaped
  | .opening inverted text, m => ∃ e, Expr.parse text = .ok e ∧ m = .opening e inverted
  | .closing text, m =>
    (text = [] ∧ m = .closing none) ∨
      (text ≠ [] ∧ ∃ e, Expr.parse text = .ok e ∧ m = .closing (some e))
  | .comment, m => m = .comment
  | .inclusion, _ | .delimiters, _ | .empty, _ => False

/-- A character that is no sigil begins an expression. -/
theorem Role.of_plain {content text : List Char} {c : Char}
    (h : Text.trim content = c :: text) (hc : c ∉ RawTag.sigils) :
    Role.of ⟨false, content⟩ = .variableTag true (c :: text) := by
  simp only [RawTag.sigils, List.mem_cons, List.not_mem_nil, or_false, not_or] at hc
  obtain ⟨h1, h2, h3, h4, h5, h6, h7⟩ := hc
  simp [of, RawTag.body, h, h1, h2, h3, h4, h5, h6, h7]

theorem role_means_of_means {t : RawTag} {m : Meaning} (h : t.Means m) : (Role.of t).Means m := by
  cases h with
  | triple he => exact ⟨_, he, rfl⟩
  | ampersand hb he =>
    simp only [Role.of, RawTag.body, hb]
    exact ⟨_, he, rfl⟩
  | plain hb hc he =>
    rw [Role.of_plain hb hc]
    exact ⟨_, he, rfl⟩
  | opening hb he =>
    simp only [Role.of, RawTag.body, hb]
    exact ⟨_, he, rfl⟩
  | inverted hb he =>
    simp only [Role.of, RawTag.body, hb]
    exact ⟨_, he, rfl⟩
  | closing hb ht =>
    simp only [Role.of, RawTag.body, hb]
    exact .inl ⟨ht, rfl⟩
  | closingNamed hb ht he =>
    simp only [Role.of, RawTag.body, hb]
    exact .inr ⟨ht, _, he, rfl⟩
  | comment hb =>
    simp only [Role.of, RawTag.body, hb]
    exact rfl

theorem means_of_role_means {t : RawTag} {m : Meaning} (h : (Role.of t).Means m) : t.Means m := by
  obtain ⟨triple, content⟩ := t
  cases triple with
  | true =>
    obtain ⟨e, he, rfl⟩ := h
    exact .triple he
  | false =>
    cases hb : Text.trim content with
    | nil =>
      simp only [Role.of, RawTag.body, hb] at h
      exact absurd h id
    | cons c text =>
      by_cases hc : c ∈ RawTag.sigils
      · simp only [RawTag.sigils, List.mem_cons, List.not_mem_nil, or_false] at hc
        rcases hc with rfl | rfl | rfl | rfl | rfl | rfl | rfl <;>
          simp only [Role.of, RawTag.body, hb] at h
        · obtain ⟨e, he, rfl⟩ := h
          exact .ampersand hb he
        · obtain ⟨e, he, rfl⟩ := h
          exact .opening hb he
        · obtain ⟨e, he, rfl⟩ := h
          exact .inverted hb he
        · rcases h with ⟨ht, rfl⟩ | ⟨ht, e, he, rfl⟩
          · exact .closing hb ht
          · exact .closingNamed hb ht he
        · obtain rfl := h
          exact .comment hb
        · exact absurd h id
        · exact absurd h id
      · rw [Role.of_plain hb hc] at h
        obtain ⟨e, he, rfl⟩ := h
        exact .plain hb hc he

/-- A tag has one meaning at most. -/
theorem means_unique {t : RawTag} {m m' : Meaning} (h : t.Means m) (h' : t.Means m') :
    m = m' := by
  have hr := role_means_of_means h
  have hr' := role_means_of_means h'
  cases hrole : Role.of t with
  | variableTag escaped text =>
    rw [hrole] at hr hr'
    obtain ⟨e, he, rfl⟩ := hr
    obtain ⟨e', he', rfl⟩ := hr'
    cases he.symm.trans he'
    rfl
  | opening inverted text =>
    rw [hrole] at hr hr'
    obtain ⟨e, he, rfl⟩ := hr
    obtain ⟨e', he', rfl⟩ := hr'
    cases he.symm.trans he'
    rfl
  | closing text =>
    rw [hrole] at hr hr'
    rcases hr with ⟨ht, rfl⟩ | ⟨ht, e, he, rfl⟩
    · rcases hr' with ⟨_, rfl⟩ | ⟨ht', _⟩
      · rfl
      · exact absurd ht ht'
    · rcases hr' with ⟨ht', _⟩ | ⟨_, e', he', rfl⟩
      · exact absurd ht' ht
      · cases he.symm.trans he'
        rfl
  | comment =>
    rw [hrole] at hr hr'
    exact Eq.trans hr (Eq.symm hr')
  | inclusion | delimiters | empty =>
    rw [hrole] at hr
    exact absurd hr id

end Template

/-! ## Nesting -/

/-- Sections stand one behind the other and inside each other, and each is closed by a tag that is
empty or names its expression. -/
inductive Nested : List Meaning → Prop
  | nil : Nested []
  | variableTag {e : Expr} {escaped : Bool} {ms : List Meaning} :
    Nested ms → Nested (.variableTag e escaped :: ms)
  | comment {ms : List Meaning} : Nested ms → Nested (.comment :: ms)
  | sectionTag {e : Expr} {inverted : Bool} {name : Option Expr} {inner ms : List Meaning} :
    name = none ∨ name = some e → Nested inner → Nested ms →
    Nested (.opening e inverted :: inner ++ .closing name :: ms)

theorem Nested.append {a b : List Meaning} (ha : Nested a) (hb : Nested b) : Nested (a ++ b) := by
  induction ha with
  | nil => exact hb
  | variableTag _ ih => exact .variableTag ih
  | comment _ ih => exact .comment ih
  | sectionTag hname hinner _ _ ih =>
    rw [List.append_assoc, List.cons_append]
    exact .sectionTag hname hinner ih

namespace Meaning

/-- The expressions of the open sections, innermost first, behind one more tag; there are none if
the tag closes what is not open. -/
def after : Meaning → List Expr → Option (List Expr)
  | .variableTag _ _, opened | .comment, opened => some opened
  | .opening e _, opened => some (e :: opened)
  | .closing _, [] => none
  | .closing name, e :: outer => if name = none ∨ name = some e then some outer else none

/-- The open sections behind a row of tags. -/
def run (opened : List Expr) (ms : List Meaning) : Option (List Expr) :=
  ms.foldlM (fun opened m => m.after opened) opened

theorem run_cons (opened : List Expr) (m : Meaning) (ms : List Meaning) :
    run opened (m :: ms) = (m.after opened).bind (run · ms) := rfl

theorem run_append (opened : List Expr) (a b : List Meaning) :
    run opened (a ++ b) = (run opened a).bind (run · b) :=
  List.foldlM_append

end Meaning

/-- What is nested leaves the open sections around it as they are. -/
theorem Nested.run {ms : List Meaning} (h : Nested ms) (opened : List Expr) :
    Meaning.run opened ms = some opened := by
  induction h generalizing opened with
  | nil => rfl
  | variableTag _ ih => exact ih opened
  | comment _ ih => exact ih opened
  | @sectionTag e inverted name inner ms hname _ _ hinner hms =>
    have closed : (Meaning.closing name).after (e :: opened) = some opened := if_pos hname
    rw [Meaning.run_append, Meaning.run_cons, Meaning.after, Option.bind_some, hinner,
      Option.bind_some, Meaning.run_cons, closed, Option.bind_some, hms]

/-! ## Tags that are read -/

/-- A tag at its place, with its meaning. -/
structure ReadTag where
  placed : PlacedTag
  meaning : Meaning
  means : placed.tag.Means meaning

/-- The same tags are read in one way only. -/
theorem meanings_unique {read read' : List ReadTag}
    (h : read.map (·.placed) = read'.map (·.placed)) :
    read.map (·.meaning) = read'.map (·.meaning) := by
  induction read generalizing read' with
  | nil =>
    have empty : read' = [] := List.map_eq_nil_iff.1 h.symm
    rw [empty]
  | cons r rest ih =>
    cases read' with
    | nil => cases h
    | cons r' rest' =>
      obtain ⟨hr, hrest⟩ := List.cons.inj h
      have same : r.placed = r'.placed := hr
      have means := r.means
      rw [same] at means
      rw [List.map_cons, List.map_cons, ih hrest, Template.means_unique means r'.means]

/-- The tags may begin a template: all of them have meanings, and with further tags behind them,
sections nest. -/
def Viable (tags : List PlacedTag) : Prop :=
  ∃ (read : List ReadTag) (more : List Meaning), read.map (·.placed) = tags ∧
    Nested (read.map (·.meaning) ++ more)

/-- The sections that are open behind tags, innermost first: in front of each of them and behind the
last one, sections nest. -/
inductive Opened : List ReadTag → List Head → Prop
  | nested {read : List ReadTag} : Nested (read.map (·.meaning)) → Opened read []
  | opening {before inner : List ReadTag} {heads : List Head} {r : ReadTag} {e : Expr}
    {inverted : Bool} : Opened before heads → r.meaning = .opening e inverted →
    Nested (inner.map (·.meaning)) →
    Opened (before ++ r :: inner) (⟨e, r.placed.location⟩ :: heads)

namespace Opened

variable {read more : List ReadTag} {heads : List Head} {h : Head} {r : ReadTag}

theorem append (ho : Opened read heads) (hm : Nested (more.map (·.meaning))) :
    Opened (read ++ more) heads := by
  cases ho with
  | nested hn =>
    refine .nested ?_
    rw [List.map_append]
    exact hn.append hm
  | opening hbefore hr hn =>
    rw [List.append_assoc, List.cons_append]
    refine .opening hbefore hr ?_
    rw [List.map_append]
    exact hn.append hm

/-- The innermost open section is opened by a tag behind which everything nests. -/
theorem innermost (ho : Opened read (h :: heads)) :
    ∃ before opener inner e inverted, read = before ++ opener :: inner ∧
      h = ⟨e, opener.placed.location⟩ ∧ opener.meaning = .opening e inverted ∧
      Opened before heads ∧ Nested (inner.map (·.meaning)) := by
  cases ho with
  | @opening before inner _ opener e inverted hbefore hopener hn =>
    exact ⟨before, opener, inner, e, inverted, rfl, rfl, hopener, hbefore, hn⟩

/-- A section that is closed becomes one of those that nest around it. -/
theorem close (ho : Opened read (h :: heads)) {name : Option Expr}
    (hr : r.meaning = .closing name) (hname : name = none ∨ name = some h.expression) :
    Opened (read ++ [r]) heads := by
  obtain ⟨before, opener, inner, e, inverted, rfl, rfl, hopener, hbefore, hn⟩ := ho.innermost
  rw [List.append_assoc]
  refine hbefore.append ?_
  rw [List.cons_append, List.map_cons, List.map_append, List.map_cons, List.map_nil, hopener, hr]
  exact .sectionTag hname hn .nil

/-- The run comes to the sections that are open. -/
theorem run (ho : Opened read heads) :
    Meaning.run [] (read.map (·.meaning)) = some (heads.map (·.expression)) := by
  induction ho with
  | nested hn => exact hn.run []
  | @opening before inner heads opener e inverted _ hopener hn ih =>
    rw [List.map_append, Meaning.run_append, ih, Option.bind_some, List.map_cons, Meaning.run_cons,
      hopener, Meaning.after, Option.bind_some, hn.run, List.map_cons]

/-- What is open can be closed by empty closing tags, so the tags may begin a template. -/
theorem viable (ho : Opened read heads) : Viable (read.map (·.placed)) := by
  refine ⟨read, ?_⟩
  induction heads generalizing read with
  | nil =>
    cases ho with
    | nested hn =>
      refine ⟨[], rfl, ?_⟩
      rw [List.append_nil]
      exact hn
  | cons h heads ih =>
    -- The innermost section is closed first, which leaves one open section less.
    let closing : ReadTag := ⟨⟨⟨false, ['/']⟩, h.location⟩, .closing none, .closing rfl rfl⟩
    obtain ⟨more, _, hn⟩ := ih (ho.close (r := closing) rfl (.inl rfl))
    refine ⟨.closing none :: more, rfl, ?_⟩
    rw [List.map_append, List.append_assoc] at hn
    exact hn

/-- A tag at which the run stops cannot follow. -/
theorem not_viable (ho : Opened read heads) {p : PlacedTag}
    (stops : ∀ r : ReadTag, r.placed = p → r.meaning.after (heads.map (·.expression)) = none) :
    ¬ Viable (read.map (·.placed) ++ [p]) := by
  rintro ⟨read', more, htags, hn⟩
  obtain ⟨front, back, rfl, hfront, hback⟩ := List.map_eq_append_iff.1 htags
  obtain ⟨r, rfl, rfl⟩ := List.map_eq_singleton_iff.1 hback
  have run := hn.run []
  rw [List.map_append, List.append_assoc, meanings_unique hfront, Meaning.run_append, ho.run,
    Option.bind_some, List.map_cons, List.map_nil, List.singleton_append, Meaning.run_cons,
    stops r rfl] at run
  cases run

/-- The run tells whether all sections are closed. -/
theorem nested_iff (ho : Opened read heads) : Nested (read.map (·.meaning)) ↔ heads = [] := by
  constructor
  · intro hn
    have same := (hn.run []).symm.trans ho.run
    exact List.map_eq_nil_iff.1 (Option.some.inj same).symm
  · rintro rfl
    cases ho with
    | nested hn => exact hn

end Opened

end Stencil
