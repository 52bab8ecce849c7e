-- The pieces of a rendering. A run that gives text is also a run that gives pieces: text of the
-- template as it stands, and renderings that tags insert, each with its tag and its value. Only
-- a piece that says so is escaped, so the text of the run is what its pieces are written as.
import Stencil.Render

namespace Stencil

/-! ## Runs and what is made of their ends -/

namespace Run

variable {σ α β : Type}

/-- A run of two steps ends with a value if both steps do. -/
theorem bind_eq_done {r : Run σ α} {f : α → Run σ β} {w w' : World σ} {b : β} :
    (r >>= f) w = (.done b, w') ↔ ∃ a v, r w = (.done a, v) ∧ f a v = (.done b, w') := by
  rw [bind_apply]
  rcases r w with ⟨a | e | _, v⟩
  · constructor
    · intro h
      exact ⟨a, v, rfl, h⟩
    · rintro ⟨_, _, h, hf⟩
      cases h
      exact hf
  · constructor
    · intro h
      cases h
    · rintro ⟨_, _, h, _⟩
      cases h
  · constructor
    · intro h
      cases h
    · rintro ⟨_, _, h, _⟩
      cases h

theorem pure_eq_done {a b : α} {w w' : World σ} :
    (pure a : Run σ α) w = (.done b, w') ↔ a = b ∧ w = w' := by
  constructor
  · intro h
    cases h
    exact ⟨rfl, rfl⟩
  · rintro ⟨rfl, rfl⟩
    rfl

/-- What becomes of failures does not matter to a run that ends with a value. -/
theorem onFailure_eq_done {r : Run σ α} {h : Failure → Run σ Failure} {w w' : World σ} {a : α} :
    r.onFailure h w = (.done a, w') ↔ r w = (.done a, w') := by
  unfold onFailure
  rcases r w with ⟨b | e | _, v⟩
  · exact .rfl
  · constructor
    · intro hr
      obtain ⟨e', v', _, hf⟩ := bind_eq_done.1 hr
      cases hf
    · intro hr
      cases hr
  · exact .rfl

theorem map_onFailure (f : α → β) (r : Run σ α) (h : Failure → Run σ Failure) :
    f <$> r.onFailure h = (f <$> r).onFailure h := by
  simp only [map_eq_pure_bind]
  funext w
  rw [bind_apply]
  unfold onFailure
  rw [bind_apply]
  rcases r w with ⟨a | e | _, v⟩
  · rfl
  · simp only [bind_apply]
    rcases h e v with ⟨_ | _ | _, _⟩ <;> rfl
  · rfl

theorem map_each {γ : Type} (f : β → γ) (g : α → Run σ β) (l : List α) :
    List.map f <$> each g l = each (fun a => f <$> g a) l := by
  induction l with
  | nil => rfl
  | cons a rest ih =>
    simp only [each, ← ih]
    simp

theorem each_append (f : α → Run σ β) (l k : List α) :
    each f (l ++ k) = do return (← each f l) ++ (← each f k) := by
  induction l with
  | nil => simp [each]
  | cons a rest ih => simp [each, ih]

theorem map_drain {γ : Type} (f : β → γ) (g : Value → Run σ β) (id : Nat) (items : List Value)
    (ending : Option Failure) (bound : Nat) :
    List.map f <$> drain g id items ending bound =
      drain (fun v => f <$> g v) id items ending bound := by
  induction bound with
  | zero => rfl
  | succ bound ih =>
    simp only [drain, ← ih, map_bind]
    congr
    funext next
    cases next with
    | ended => rfl
    | raised failure => rfl
    | item item => simp

theorem map_eachItem {γ : Type} (f : β → γ) (g : Value → Run σ β) (items : Items) :
    List.map f <$> eachItem g items = eachItem (fun v => f <$> g v) items := by
  cases items with
  | fixed items => exact map_each f g items
  | stream id items ending => exact map_drain f g id items ending _

end Run

/-! ## Pieces -/

inductive Piece where
  /-- Text of the template. -/
  | verbatim (text : String)
  /-- What a tag inserts for a value. -/
  | inserted (tag : Tag) (value : Value) (rendering : Rendering)

namespace Piece

def text : Piece → Passage
  | .verbatim s => .plain s
  | .inserted _ _ r => r.text

/-- Whether the piece is escaped: an unsafe rendering that a tag which escapes inserts. -/
def flag : Piece → Bool
  | .verbatim _ => false
  | .inserted tag _ r => tag.escaped && !r.safe

theorem flag_iff (p : Piece) :
    p.flag = true ↔ ∃ tag v r, p = .inserted tag v r ∧ tag.escaped = true ∧ r.safe = false := by
  cases p with
  | verbatim s =>
    constructor
    · intro h
      cases h
    · rintro ⟨_, _, _, h, _⟩
      cases h
  | inserted tag v r =>
    constructor
    · intro h
      rw [flag, Bool.and_eq_true, Bool.not_eq_true'] at h
      exact ⟨tag, v, r, rfl, h.1, h.2⟩
    · rintro ⟨_, _, _, h, ht, hr⟩
      cases h
      rw [flag, ht, hr]
      rfl

/-- The piece as an engine with an escaper writes it. -/
def shown (escape : Passage → Passage) (p : Piece) : String :=
  if p.flag then (escape p.text).text else p.text.text

/-- The text that pieces are written as. -/
def join (escape : Passage → Passage) (ps : List Piece) : String :=
  String.join (ps.map (·.shown escape))

theorem join_verbatim (escape : Passage → Passage) (s : String) : join escape [.verbatim s] = s := by
  simp [join, shown, flag, text]

theorem join_flatten (escape : Passage → Passage) (l : List (List Piece)) :
    join escape l.flatten = String.join (l.map (join escape)) := by
  induction l with
  | nil => rfl
  | cons ps rest ih =>
    rw [List.flatten_cons, join, List.map_append, String.join_append, List.map_cons,
      String.join_cons, ← ih]
    rfl

end Piece

namespace Engine

variable {σ : Type} (e : Engine σ)

/-- An inserted piece is written as what the engine inserts. -/
theorem join_inserted (tag : Tag) (v : Value) (r : Rendering) :
    Piece.join e.escape [.inserted tag v r] = (e.insert tag r).text := by
  unfold insert
  by_cases hs : r.safe = true
  · simp [Piece.join, Piece.shown, Piece.flag, Piece.text, hs]
  · by_cases ht : tag.escaped = true
    · simp [Piece.join, Piece.shown, Piece.flag, Piece.text, hs, ht]
    · simp [Piece.join, Piece.shown, Piece.flag, Piece.text, hs, ht]

/-! ## The engine by pieces -/

mutual

/-- The pieces of nodes in a context. -/
def pieces : Nat → Template → Context → Run σ (List Piece)
  | 0, _, _ => Run.exhaust
  | depth + 1, nodes, c => do
    let parts ← nodes |> Run.each fun
      | .text s => pure [.verbatim s]
      | .variableTag head escaped =>
        e.visit head (.variableTag escaped) c fun tag v => variablePieces depth tag v c
      | .sectionTag head inverted children inner =>
        e.visit head (.sectionTag inverted children inner) c fun tag v =>
          sectionPieces depth tag v c
    return parts.flatten

/-- The pieces of a variable tag: one for a value, and those of its items for a sequence. -/
def variablePieces : Nat → Tag → Value → Context → Run σ (List Piece)
  | 0, _, _, _ => Run.exhaust
  | depth + 1, tag, v, c =>
    match v.items? with
    | some items => do
      let parts ← items |> Run.eachItem fun item => variablePieces depth tag item c
      return parts.flatten
    | none => do return [.inserted tag v (← e.renderValue depth tag v c)]

/-- The pieces of a section tag. -/
def sectionPieces : Nat → Tag → Value → Context → Run σ (List Piece)
  | 0, _, _, _ => Run.exhaust
  | depth + 1, tag, v, c =>
    if tag.isInverted then do
      if ← Run.ofExcept v.truth then return []
      pieces depth tag.children c
    else
      match v.items? with
      | some items => do
        let parts ← items |> Run.eachItem fun item => itemPieces depth tag item c
        return parts.flatten
      | none => do
        if ← Run.ofExcept v.isShown then itemPieces depth tag v c else return []

/-- The pieces of a section for one value: one piece for a renderable, unless it is an item with
its position, which holds the pieces of the content as any other value does. -/
def itemPieces : Nat → Tag → Value → Context → Run σ (List Piece)
  | 0, _, _, _ => Run.exhaust
  | depth + 1, tag, v, c =>
    match v with
    | .eachItem item index last key => heldPieces depth tag item index last key c
    | v =>
      if v.isRenderable then do return [.inserted tag v (← e.renderValue depth tag v c)]
      else pieces depth tag.children (c.push v [])

/-- The pieces of a section for an item with its position. -/
def heldPieces : Nat → Tag → Value → Nat → Bool → Value → Context → Run σ (List Piece)
  | 0, _, _, _, _, _, _ => Run.exhaust
  | depth + 1, tag, item, index, last, key, c =>
    Run.wrap (.renderingFailed (Value.eachItem item index last key).kind) <|
      pieces depth tag.children ((c.push (.mapping (Value.position index last key)) []).push item [])

end

/-! ## Text is what pieces are written as -/

theorem map_visit {α β : Type} (f : α → β) (head : Head) (form : Form) (c : Context)
    (g : Tag → Value → Run σ α) :
    f <$> e.visit head form c g = e.visit head form c fun tag v => f <$> g tag v := by
  unfold visit
  rw [map_bind]
  congr
  funext tag
  rw [Run.map_onFailure]
  simp only [map_bind, map_pure, bind_map_left]

theorem visit_congr {α : Type} {head : Head} {form : Form} {c : Context}
    {f g : Tag → Value → Run σ α} (h : ∀ tag v, tag.form = form → f tag v = g tag v) :
    e.visit head form c f = e.visit head form c g := by
  unfold visit create
  simp only [bind_assoc, pure_bind]
  congr
  funext j
  congr
  funext _
  congr
  funext v
  rw [h ⟨j.created, head, form⟩ v rfl]

/-- At one depth, the engine gives the text of the pieces that it gives. -/
structure Writes (depth : Nat) : Prop where
  nodes : ∀ t c, e.renderNodes depth t c = Piece.join e.escape <$> e.pieces depth t c
  variableTag : ∀ tag v c,
    e.renderVariable depth tag v c = Piece.join e.escape <$> e.variablePieces depth tag v c
  sectionTag : ∀ tag v c, tag.isSection = true →
    (·.text) <$> e.renderSection depth tag v c =
      Piece.join e.escape <$> e.sectionPieces depth tag v c
  item : ∀ tag v c, tag.isSection = true →
    (·.text) <$> e.renderItem depth tag v c = Piece.join e.escape <$> e.itemPieces depth tag v c
  held : ∀ tag item index last key c, tag.isSection = true →
    (e.insert tag · |>.text) <$> e.renderValue depth tag (.eachItem item index last key) c =
      Piece.join e.escape <$> e.heldPieces depth tag item index last key c

variable {e} {depth : Nat}

/-- Lists of pieces in a row are written one behind the other. -/
theorem join_parts (r : Run σ (List (List Piece))) :
    String.join <$> List.map (Piece.join e.escape) <$> r =
      (fun parts => Piece.join e.escape parts.flatten) <$> r := by
  rw [Functor.map_map]
  congr
  funext parts
  rw [Piece.join_flatten]

/-- A safe rendering is inserted as it stands. -/
theorem insert_safe (tag : Tag) (p : Passage) : e.insert tag ⟨p, true⟩ = p := by
  simp [insert]

section
variable (ih : e.Writes depth)
include ih

theorem Writes.succ_nodes (t : Template) (c : Context) :
    e.renderNodes (depth + 1) t c = Piece.join e.escape <$> e.pieces (depth + 1) t c := by
  simp only [renderNodes, pieces, bind_pure_comp, Functor.map_map]
  rw [← join_parts, Run.map_each]
  congr
  funext n
  cases n with
  | text s => rw [map_pure, Piece.join_verbatim]
  | variableTag head escaped =>
    simp only
    rw [map_visit]
    exact e.visit_congr fun tag v _ => ih.variableTag tag v c
  | sectionTag head inverted children inner =>
    simp only
    rw [map_visit]
    refine e.visit_congr fun tag v htag => ih.sectionTag tag v c ?_
    simp only [Tag.isSection, htag]

theorem Writes.succ_variableTag (tag : Tag) (v : Value) (c : Context) :
    e.renderVariable (depth + 1) tag v c =
      Piece.join e.escape <$> e.variablePieces (depth + 1) tag v c := by
  simp only [renderVariable, variablePieces, bind_pure_comp]
  cases v.items? with
  | some items =>
    simp only [Functor.map_map]
    rw [← join_parts, Run.map_eachItem]
    congr
    funext item
    exact ih.variableTag tag item c
  | none => simp only [Functor.map_map, join_inserted]

theorem Writes.succ_sectionTag {tag : Tag} (ht : tag.isSection = true) (v : Value) (c : Context) :
    (·.text) <$> e.renderSection (depth + 1) tag v c =
      Piece.join e.escape <$> e.sectionPieces (depth + 1) tag v c := by
  simp only [renderSection, sectionPieces, bind_pure_comp]
  split
  · rw [map_bind, map_bind]
    congr
    funext truthy
    cases truthy with
    | true => rfl
    | false =>
      simp only [Bool.false_eq_true, if_false]
      rw [ih.nodes, Functor.map_map, Functor.map_map]
      rfl
  · cases v.items? with
    | some items =>
      have parts : Run.eachItem (fun item => (·.text) <$> e.renderItem depth tag item c) items =
          Run.eachItem (fun item => Piece.join e.escape <$> e.itemPieces depth tag item c)
            items := by
        congr
        funext item
        exact ih.item tag item c ht
      simp only [Functor.map_map, Passage.text_plain]
      rw [← join_parts, Run.map_eachItem, ← parts, ← Run.map_eachItem, Functor.map_map]
    | none =>
      simp only
      rw [map_bind, map_bind]
      congr
      funext shown
      cases shown with
      | true => exact ih.item tag v c ht
      | false => rfl

theorem Writes.succ_item {tag : Tag} (ht : tag.isSection = true) (v : Value) (c : Context) :
    (·.text) <$> e.renderItem (depth + 1) tag v c =
      Piece.join e.escape <$> e.itemPieces (depth + 1) tag v c := by
  cases v with
  | eachItem item index last key =>
    simp only [renderItem, itemPieces, Value.isRenderable, if_true, bind_pure_comp,
      Functor.map_map]
    exact ih.held tag item index last key c ht
  | _ =>
    simp only [renderItem, itemPieces, bind_pure_comp]
    split
    · simp only [Functor.map_map, join_inserted]
    · rw [ih.nodes, Functor.map_map, Functor.map_map]
      rfl

theorem Writes.succ_held {tag : Tag} (ht : tag.isSection = true) (item : Value) (index : Nat)
    (last : Bool) (key : Value) (c : Context) :
    (e.insert tag · |>.text) <$> e.renderValue (depth + 1) tag (.eachItem item index last key) c =
      Piece.join e.escape <$> e.heldPieces (depth + 1) tag item index last key c := by
  simp only [renderValue, handlers, contentOf, heldPieces, ht, if_true, bind_pure_comp,
    Run.wrap, Run.map_onFailure, ih.nodes, Functor.map_map, insert_safe, Passage.text_plain]

end

theorem writes (depth : Nat) : e.Writes depth := by
  induction depth with
  | zero => constructor <;> intros <;> rfl
  | succ depth ih =>
    constructor
    · exact ih.succ_nodes
    · exact ih.succ_variableTag
    · exact fun tag v c ht => ih.succ_sectionTag ht v c
    · exact fun tag v c ht => ih.succ_item ht v c
    · exact fun tag item index last key c ht => ih.succ_held ht item index last key c

/-- The text of a template is what its pieces are written as: each at once, and escaped only where
it says so. This holds at every depth, so for `render` too. -/
theorem renderNodes_eq_pieces (depth : Nat) (t : Template) (c : Context) :
    e.renderNodes depth t c = Piece.join e.escape <$> e.pieces depth t c :=
  (writes depth).nodes t c

end Engine

end Stencil
