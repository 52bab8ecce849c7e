-- Reading expressions. The reader takes one lexeme at a time and keeps the calls that are still
-- open, so it runs once over its lexemes; what it still waits for decides what it may meet.
import Stencil.Expr.Basic
import Stencil.Expr.Lexeme

namespace Stencil.Expr

/-- Why a text is no expression. -/
inductive Flaw where
  /-- No lexeme begins at this offset. -/
  | strayCharacter (offset : Nat)
  /-- The text holds no lexeme. -/
  | blank
  /-- The text ends inside an expression. -/
  | unfinished
  /-- A key has to be a name. -/
  | noKey (got : Lexeme)
  /-- An empty pair of parentheses. -/
  | noArgument
  /-- An argument is followed by neither a comma nor a parenthesis. -/
  | noSeparator (got : Lexeme)
  /-- A lexeme that cannot stand where it stands. -/
  | unexpected (got : Lexeme)
  deriving DecidableEq, Repr

def Flaw.message : Flaw → String
  | .strayCharacter offset => s!"Unexpected character at offset {offset}"
  | .blank => "empty expression"
  | .unfinished => "unexpected end of expression"
  | .noKey got => s!"expected a name, got '{got.text}'"
  | .noArgument => "filters need at least one argument"
  | .noSeparator got => s!"expected ',' or ')', got '{got.text}'"
  | .unexpected got => s!"unexpected '{got.text}'"

/-- A call whose parenthesis is still open, with the arguments read so far. -/
structure OpenCall where
  filter : Expr
  arguments : List Expr

/-- The call, closed behind its last argument. -/
def OpenCall.close (c : OpenCall) (last : Expr) : Expr :=
  match c.arguments with
  | [] => .call c.filter last []
  | first :: rest => .call c.filter first (rest ++ [last])

/-- What the reader waits for. -/
inductive Awaited where
  /-- An expression; the flag tells that a parenthesis was opened just before. -/
  | expression (opened : Bool)
  /-- The name of a key of this expression. -/
  | keyOf (base : Expr)
  /-- What follows this expression; the flag tells that it is a `.` which was read just before,
  so that a name becomes its key. -/
  | more (done : Expr) (point : Bool)

/-- The open calls, innermost first, and what is awaited. -/
structure Reader where
  calls : List OpenCall
  awaited : Awaited

namespace Reader

def start : Reader := ⟨[], .expression false⟩

/-- Where an expression is awaited, only a name or a point may stand. -/
def begin (calls : List OpenCall) (opened : Bool) : Lexeme → Except Flaw Reader
  | .name n => .ok ⟨calls, .more (.name n) false⟩
  | .dot => .ok ⟨calls, .more .top true⟩
  | .closing => .error (if opened then .noArgument else .unexpected .closing)
  | got => .error (.unexpected got)

/-- Behind an expression stands a key, the arguments of a call, or the end of an argument. -/
def goOn (calls : List OpenCall) (done : Expr) (point : Bool) : Lexeme → Except Flaw Reader
  | .dot => .ok ⟨calls, .keyOf done⟩
  | .opening => .ok ⟨⟨done, []⟩ :: calls, .expression true⟩
  | .name n =>
    if point then .ok ⟨calls, .more (.key .top n) false⟩
    else .error (if calls.isEmpty then .unexpected (.name n) else .noSeparator (.name n))
  | .comma =>
    match calls with
    | [] => .error (.unexpected .comma)
    | c :: outer =>
      .ok ⟨{ c with arguments := c.arguments ++ [done] } :: outer, .expression false⟩
  | .closing =>
    match calls with
    | [] => .error (.unexpected .closing)
    | c :: outer => .ok ⟨outer, .more (c.close done) false⟩

def step (r : Reader) (l : Lexeme) : Except Flaw Reader :=
  match r.awaited with
  | .expression opened => begin r.calls opened l
  | .keyOf base =>
    match l with
    | .name k => .ok ⟨r.calls, .more (.key base k) false⟩
    | got => .error (.noKey got)
  | .more done point => goOn r.calls done point l

/-- The expression read, if nothing is open any more. -/
def finish (r : Reader) : Except Flaw Expr :=
  match r.calls, r.awaited with
  | [], .more done _ => .ok done
  | _, _ => .error .unfinished

end Reader

/-- The expression that a list of lexemes spells. -/
def ofLexemes (ls : List Lexeme) : Except Flaw Expr :=
  if ls.isEmpty then .error .blank else do (← ls.foldlM Reader.step Reader.start).finish

/-- The expression that a text spells. -/
def parse (cs : List Char) : Except Flaw Expr := do
  ofLexemes (← (Lexeme.scan 0 cs).mapError .strayCharacter)

end Stencil.Expr
