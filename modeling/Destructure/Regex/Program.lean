import Destructure.Regex.Expr

set_option autoImplicit false

/-! # Programs

An expression is compiled to instructions that a search follows. A fork prefers its first branch, so
the order in which a depth-first walk meets the end of the program is the order of preference.

A repetition of at least none is one of at least once that may be skipped. When the repeated
expression can match the empty text, no other form keeps the order of preference. -/

namespace Destructure.Regex

/-- One instruction; numbers of instructions say where to go on. -/
inductive Instruction where
  | accept
  | set (chars : CharSet) (next : Nat)
  | look (condition : Look) (next : Nat)
  /-- Remember the position in a slot. -/
  | save (slot : Nat) (next : Nat)
  | fork (first second : Nat)
deriving Inhabited

abbrev Program := Array Instruction

/-- The fork of a repetition: once more, or go on. -/
def forkFor (greedy : Bool) (again next : Nat) : Instruction :=
  if greedy then .fork again next else .fork next again

/-- Code that goes on at `next`: the program with it, and where it starts. -/
abbrev Emitter := Nat → Program → Program × Nat

/-- Add an instruction at the end, and tell its number. -/
def append (instruction : Instruction) (program : Program) : Program × Nat :=
  let start := program.size
  (program.push instruction, start)

/-- The same code `count` times in a row. -/
def emitTimes (emit : Emitter) : Nat → Emitter
  | 0, next, program => (program, next)
  | count + 1, next, program =>
    let (program, start) := emit next program
    emitTimes emit count start program

/-- Code that runs at most `count` times before `next`, each further time inside the one before; it can
be left for `exit` every time. -/
def emitUpTo (emit : Emitter) (greedy : Bool) (exit : Nat) : Nat → Emitter
  | 0, next, program => (program, next)
  | count + 1, next, program =>
    let (program, start) := emit next program
    let (program, fork) := append (forkFor greedy start exit) program
    emitUpTo emit greedy exit count fork program

/-- Code that runs once or more. -/
def emitMany (emit : Emitter) (greedy : Bool) : Emitter := fun next program =>
  let (program, loop) := append .accept program
  let (program, start) := emit loop program
  (program.setIfInBounds loop (forkFor greedy start next), start)

/-- The code of an expression. -/
def Expr.emit : Expr → Emitter
  | .empty, next, program => (program, next)
  | .set chars, next, program => append (.set chars next) program
  | .look condition, next, program => append (.look condition next) program
  | .group index inner, next, program =>
    let (program, close) := append (.save (2 * index + 1) next) program
    let (program, start) := inner.emit close program
    append (.save (2 * index) start) program
  | .seq first second, next, program =>
    let (program, middle) := second.emit next program
    first.emit middle program
  | .either first second, next, program =>
    let (program, right) := second.emit next program
    let (program, left) := first.emit next program
    append (.fork left right) program
  | .repeated inner min max greedy, next, program =>
    match max with
    | some max =>
      let (program, optional) := emitUpTo inner.emit greedy next (max - min) next program
      emitTimes inner.emit min optional program
    | none =>
      let (program, many) := emitMany inner.emit greedy next program
      if min = 0 then append (forkFor greedy many next) program
      else emitTimes inner.emit (min - 1) many program

/-- The program of an expression and its first instruction. -/
def Expr.program (e : Expr) : Program × Nat := e.emit 0 #[.accept]

end Destructure.Regex
