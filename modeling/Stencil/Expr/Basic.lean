-- Tag expressions: names, the innermost value, keys and filter calls. A call has at least one
-- argument, so its first argument stands apart from the rest.

namespace Stencil

inductive Expr where
  /-- A bare name, looked up in the context. -/
  | name (name : String)
  /-- The `.` expression: the innermost value. -/
  | top
  /-- A key of another value. -/
  | key (base : Expr) (key : String)
  /-- A filter applied to one or more arguments. -/
  | call (filter first : Expr) (rest : List Expr)
  deriving Repr

namespace Expr

/-! ## Equality -/

mutual

def decEq : (a b : Expr) → Decidable (a = b)
  | .name m, .name n =>
    if h : m = n then isTrue (h ▸ rfl) else isFalse fun e => h (Expr.name.inj e)
  | .top, .top => isTrue rfl
  | .key b k, .key c l =>
    match decEq b c with
    | isTrue h => if g : k = l then isTrue (h ▸ g ▸ rfl) else isFalse fun e => g (Expr.key.inj e).2
    | isFalse h => isFalse fun e => h (Expr.key.inj e).1
  | .call f a r, .call g b s =>
    match decEq f g, decEq a b, decEqList r s with
    | isTrue h, isTrue h', isTrue h'' => isTrue (h ▸ h' ▸ h'' ▸ rfl)
    | isFalse h, _, _ => isFalse fun e => h (Expr.call.inj e).1
    | _, isFalse h, _ => isFalse fun e => h (Expr.call.inj e).2.1
    | _, _, isFalse h => isFalse fun e => h (Expr.call.inj e).2.2
  | .name _, .top | .name _, .key _ _ | .name _, .call _ _ _ => isFalse nofun
  | .top, .name _ | .top, .key _ _ | .top, .call _ _ _ => isFalse nofun
  | .key _ _, .name _ | .key _ _, .top | .key _ _, .call _ _ _ => isFalse nofun
  | .call _ _ _, .name _ | .call _ _ _, .top | .call _ _ _, .key _ _ => isFalse nofun

def decEqList : (a b : List Expr) → Decidable (a = b)
  | [], [] => isTrue rfl
  | [], _ :: _ => isFalse nofun
  | _ :: _, [] => isFalse nofun
  | a :: r, b :: s =>
    match decEq a b, decEqList r s with
    | isTrue h, isTrue h' => isTrue (h ▸ h' ▸ rfl)
    | isFalse h, _ => isFalse fun e => h (List.cons.inj e).1
    | _, isFalse h => isFalse fun e => h (List.cons.inj e).2

end

instance : DecidableEq Expr := decEq

/-! ## The written form -/

mutual

/-- The expression as a template writes it; a key of `.` needs no second point. -/
def text : Expr → String
  | .name n => n
  | .top => "."
  | .key .top k => "." ++ k
  | .key b k => b.text ++ "." ++ k
  | .call f a r => f.text ++ "(" ++ a.text ++ restText r ++ ")"

/-- The arguments behind the first one, each with the comma in front of it. -/
def restText : List Expr → String
  | [] => ""
  | a :: r => ", " ++ a.text ++ restText r

end

/-! ## Subexpressions -/

mutual

/-- The expression and every expression inside it, each before its own parts, from left to right. -/
def parts : Expr → List Expr
  | e@(.name _) => [e]
  | e@.top => [e]
  | e@(.key b _) => e :: b.parts
  | e@(.call f a r) => e :: (f.parts ++ a.parts ++ partsList r)

def partsList : List Expr → List Expr
  | [] => []
  | a :: r => a.parts ++ partsList r

end

mutual

/-- The most filter calls that stand inside each other along the arguments. -/
def callDepth : Expr → Nat
  | .call _ a r => 1 + max a.callDepth (callDepthList r)
  | _ => 0

def callDepthList : List Expr → Nat
  | [] => 0
  | a :: r => max a.callDepth (callDepthList r)

end

end Expr

end Stencil
