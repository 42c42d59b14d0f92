import Destructure.Clause.Basic
import Destructure.Outline.Value

set_option autoImplicit false

/-! # Outlines of patterns, guards and match expressions -/

namespace Destructure

def Extractor.outline (e : Extractor) : Outline := .word e.description

def Predicate.outline (p : Predicate) : Outline := callableOutline p.name

namespace Pattern

/-- The outline of the name of a rest. -/
def restOutline (rest : Option String) : Outline := .option (rest.map .text)

mutual

def outline : Pattern → Outline
  | .literal value => .call "Literal" [value.outline]
  | .wildcard => .word "Wildcard"
  | .binder name => .call "Binder" [.text name]
  | .sequence elements rest =>
    .fields "Sequence" [("elements", .list (elementOutlines elements)), ("rest", restOutline rest)]
  | .mapping fields rest =>
    .fields "Mapping" [("fields", .list (fieldOutlines fields)), ("rest", restOutline rest)]
  | .alternation branches => .call "Alternation" [.list (outlines branches)]
  | .conjunction members => .call "Conjunction" [.list (outlines members)]
  | .predicate test => .call "Predicate" [test.outline]
  | .extractor source inner =>
    .fields "Extractor" [("extractor", source.outline), ("inner", innerOutline inner)]
  | .regex engine inner =>
    .fields "Regex" [("extractor", engine.extractor.outline), ("groups_as", innerOutline inner)]

def outlines : List Pattern → List Outline
  | [] => []
  | p :: rest => p.outline :: outlines rest

def elementOutlines : List (Option Pattern) → List Outline
  | [] => []
  | none :: rest => .word "Hole" :: elementOutlines rest
  | some p :: rest => .call "Pattern" [p.outline] :: elementOutlines rest

def fieldOutlines : List (String × Pattern) → List Outline
  | [] => []
  | (key, p) :: rest => .call "" [.text key, p.outline] :: fieldOutlines rest

def innerOutline : Option Pattern → Outline
  | none => .option none
  | some p => .option (some p.outline)

end

end Pattern

def Compiled.outline (compiled : Compiled) : Outline :=
  .fields "CompiledPattern" [
    ("pattern", compiled.pattern.outline),
    ("binders", .list (compiled.binders.map .text)),
    ("depth", .nat compiled.depth)]

def CompareOp.outline : CompareOp → Outline
  | .eq => .word "Eq"
  | .ne => .word "Ne"
  | .lt => .word "Lt"
  | .le => .word "Le"
  | .gt => .word "Gt"
  | .ge => .word "Ge"

namespace Guard

mutual

def outline : Guard → Outline
  | .compare binding op value =>
    .fields "Compare" [("binding", .text binding), ("op", op.outline), ("value", value.outline)]
  | .all members => .call "All" [.list (outlines members)]
  | .any members => .call "Any" [.list (outlines members)]
  | .not inner => .call "Not" [inner.outline]
  | .bound name => .call "Bound" [.text name]
  | .custom condition => .call "FnGuard" [.text condition.name]

def outlines : List Guard → List Outline
  | [] => []
  | guard :: rest => guard.outline :: outlines rest

end

end Guard

/-- The outline of a clause whose body is a text. -/
def Clause.outline (clause : Clause String) : Outline :=
  .fields "Clause" [
    ("pattern", clause.pattern.outline),
    ("guard", .option (clause.guard.map Guard.outline)),
    ("body", .text clause.body)]

/-- The outline of a match expression whose bodies are texts. -/
def MatchExpr.outline (expr : MatchExpr String) : Outline :=
  .fields "MatchExpr" [
    ("clauses", .list (expr.clauses.map Clause.outline)),
    ("default", .option (expr.default.map .text))]

end Destructure
