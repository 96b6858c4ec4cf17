import Mathlib.Logic.Function.Basic
import TensorLang.Scope.Operation

set_option autoImplicit false

namespace TensorLang

structure ScopeMaps where
  symbols : String → Option Symbol
  elements : String → Option Element
  routines : String → Option Routine

def ScopeMaps.empty : ScopeMaps := ⟨fun _ => none, fun _ => none, fun _ => none⟩

structure MapStack where
  root : ScopeMaps
  -- The innermost first.
  inner : List ScopeMaps
  nextScope : UInt32
  elementOrder : List Element
  routineOrder : List Routine

namespace MapStack

def empty : MapStack := ⟨.empty, [], 1, [], []⟩

def current (stack : MapStack) : ScopeMaps := stack.inner.headD stack.root

def find {α : Type} (stack : MapStack) (select : ScopeMaps → String → Option α) (name : String) :
    Option α :=
  (stack.inner ++ [stack.root]).findSome? (select · name)

def add (stack : MapStack) (symbol : Symbol) : MapStack :=
  let bind (maps : ScopeMaps) : ScopeMaps :=
    { maps with symbols := Function.update maps.symbols symbol.name (some symbol) }
  match stack.inner with
  | [] => { stack with root := bind stack.root }
  | maps :: outer => { stack with inner := bind maps :: outer }

def registerElement (stack : MapStack) (record : Element) : MapStack :=
  { stack with
    root := { stack.root with
      elements := Function.update stack.root.elements record.name (some record) }
    elementOrder := stack.elementOrder ++ [record] }

def registerRoutine (stack : MapStack) (routine : Routine) : MapStack :=
  { stack with
    root := { stack.root with
      routines := Function.update stack.root.routines routine.name (some routine) }
    routineOrder := stack.routineOrder ++ [routine] }

def promise {α : Type} (what : Registered) (name : String) : Option α → Except Defect α
  | some item => .ok item
  | none => .error (.missing what name)

def answer (stack : MapStack) : Operation → Answer × MapStack
  | .push =>
      (.opened stack.nextScope.toNat,
        { stack with inner := .empty :: stack.inner, nextScope := stack.nextScope + 1 })
  | .pop => (.done, { stack with inner := stack.inner.tail })
  | .addSymbol symbol => (.done, stack.add symbol)
  | .addElement record =>
      if (stack.find ScopeMaps.elements record.name).isSome then
        (.registered (some (.element record.name)), stack)
      else (.registered none, stack.registerElement record)
  | .addRoutine routine =>
      if (stack.find ScopeMaps.routines routine.name).isSome then
        (.registered (some (.routine routine.name)), stack)
      else (.registered none, stack.registerRoutine routine)
  | .hasLocal name => (.symbol (.known (stack.current.symbols name).isSome), stack)
  | .symbol question name =>
      let symbol? := stack.find ScopeMaps.symbols name
      (.symbol (question.reply symbol? (promise .symbol name symbol?)), stack)
  | .element question name =>
      let record? := stack.find ScopeMaps.elements name
      (.element (question.reply record? (promise .elementType name record?)), stack)
  | .routine question name =>
      let routine? := stack.find ScopeMaps.routines name
      (.routine (question.reply routine? (promise .routine name routine?)), stack)

def answers (stack : MapStack) : List Operation → List Answer
  | [] => []
  | operation :: rest => (stack.answer operation).1 :: answers (stack.answer operation).2 rest

end MapStack

end TensorLang
