import TensorLang.Report

set_option autoImplicit false

namespace TensorLang

-- What the checker remembers at one point of a run.
structure Moment where
  table : SymbolTable
  entries : List Entry

inductive Step where
  | record (entry : Entry)
  | push
  | bind (name : String) (type? : Option Ty) (access : Access)
  | pop
  | element (added : Element)
  | routine (added : Routine)

namespace Step

def perform (moment : Moment) : Step → Moment
  | .record entry => { moment with entries := moment.entries ++ [entry] }
  | .push => { moment with table := moment.table.push }
  | .bind name type? access => { moment with table := moment.table.bind name type? access }
  | .pop => { moment with table := moment.table.pop }
  | .element added =>
      { moment with
        table := { moment.table with elements := moment.table.elements ++ [added] } }
  | .routine added =>
      { moment with
        table := { moment.table with routines := moment.table.routines ++ [added] } }

end Step

def Moment.after (moment : Moment) (steps : List Step) : Moment := steps.foldl Step.perform moment

def Logged.recordings {α : Type} (check : Logged α) : List Step := check.log.entries.map .record

def Declaration.steps (table : SymbolTable) (constancy : Constancy)
    (declaration : Declaration Node) : List Step :=
  let name := declaration.name.text
  (declaration.check table constancy).recordings ++
    if (table.local? name).any (·.var.type?.isSome) then []
    else [.bind name (declaration.type.resolve table).value constancy.access]

def targetSteps (table : SymbolTable) : List (Expr Node × Option Ty) → List Step
  | [] => []
  | (target, type?) :: rest =>
      match target.ident? with
      | none => targetSteps table rest
      | some name =>
          match table.symbol? name.text with
          | some _ => targetSteps table rest
          | none =>
              .bind name.text type? .readWrite ::
                targetSteps (table.bind name.text type? .readWrite) rest

def counterStep (counter : Name Node) : Step := .bind counter.text (some .int) .read

mutual
def Stmt.steps (table : SymbolTable) : Stmt Node → List Step
  | .variable declaration => declaration.steps table .variable
  | .constant declaration => declaration.steps table .constant
  | .loop _ condition body =>
      (condition.infer table .read).recordings ++
        (.push :: (body.steps table.push ++ [.pop]))
  | .branch _ condition thenBlock none =>
      (condition.infer table .read).recordings ++
        (.push :: (thenBlock.steps table.push ++ [.pop]))
  | .branch _ condition thenBlock (some elseBlock) =>
      let taken := (thenBlock.check table.push).value.pop
      (condition.infer table .read).recordings ++
        (.push :: (thenBlock.steps table.push ++
          (.pop :: .push :: (elseBlock.steps taken.push ++ [.pop]))))
  | .forRange _ counter _ lower upper body =>
      .push :: ((checkBounds table.push lower upper).recordings ++
        (counterStep counter :: (body.steps (table.push.bindCounter counter) ++ [.pop])))
  | .forSet _ counter _ _ body =>
      .push :: counterStep counter :: (body.steps (table.push.bindCounter counter) ++ [.pop])
  | .print _ value => (checkPrint table value).recordings
  | .assign node targets value =>
      let checked := checkTargets table node.span targets value
      checked.recordings ++ targetSteps table checked.value
  | .eval _ value => (value.infer table .read).recordings
def Block.steps (table : SymbolTable) : Block Node → List Step
  | ⟨_, statements⟩ => stmtSteps table statements
def stmtSteps (table : SymbolTable) : List (Stmt Node) → List Step
  | [] => []
  | statement :: rest =>
      statement.steps table ++ stmtSteps (statement.check table).value rest
end

def ElementDecl.steps (table : SymbolTable) (declaration : ElementDecl Node) : List Step :=
  match table.element? declaration.name.text with
  | some _ => []
  | none =>
      [.element ⟨declaration.name.text, (checkFields table [] declaration.fields).value⟩]

def ExternalDecl.steps (table : SymbolTable) (declaration : ExternalDecl Node) : List Step :=
  match table.symbol? declaration.name.text with
  | some _ => []
  | none =>
      [.bind declaration.name.text (declaration.type.resolve table).value .readWrite]

def slotSteps (table : SymbolTable) : List Slot → List Step
  | [] => []
  | slot :: rest =>
      match (slot.type.resolve table).value with
      | none => slotSteps table rest
      | some type =>
          .bind slot.name (some type) slot.access ::
            slotSteps (table.bind slot.name (some type) slot.access) rest

namespace RoutineDecl

def registerSteps (table : SymbolTable) (declaration : RoutineDecl Node)
    (parameters results : List (Option Var)) : List Step :=
  match allPresent parameters, allPresent results with
  | some parameters, some results =>
      match table.routine? declaration.name.text with
      | some _ => []
      | none =>
          [.routine ⟨declaration.name.text, parameters, results, .declared declaration.body⟩]
  | _, _ => []

def steps (table : SymbolTable) (declaration : RoutineDecl Node) : List Step :=
  let parameterSlots := declaration.parameters.map ParameterDecl.slot
  let resultSlots := declaration.results.map ResultDecl.slot
  let parameters := (bindSlots table.push parameterSlots).value
  let results := (bindSlots parameters.1 resultSlots).value
  let inner := (declaration.body.check results.1).value
  .push :: (slotSteps table.push parameterSlots ++ (slotSteps parameters.1 resultSlots ++
    (declaration.body.steps results.1 ++
      (.pop :: declaration.registerSteps inner.pop parameters.2 results.2))))

end RoutineDecl

def Definition.steps (table : SymbolTable) : Definition Node → List Step
  | .element declaration => declaration.steps table
  | .external declaration => declaration.steps table
  | .routine declaration => declaration.steps table
  | .constant declaration => declaration.steps table .constant
  | .test _ => []

def definitionSteps (table : SymbolTable) : List (Definition Node) → List Step
  | [] => []
  | definition :: rest =>
      definition.steps table ++ definitionSteps (definition.check table).value rest

-- The moment before anything is registered. The variables of the intrinsics are already there.
def Moment.start (intrinsics : Bool) : Moment :=
  ⟨{ SymbolTable.empty with
    nextVar := if intrinsics then (Intrinsic.all.map Intrinsic.varCount).foldl Nat.add 0 else 0 },
    []⟩

def preludeSteps (intrinsics : Bool) : List Step :=
  if intrinsics then prelude.map .routine else []

def Program.steps (program : Program Node) (intrinsics : Bool) : List Step :=
  preludeSteps intrinsics ++
    definitionSteps ((Moment.start intrinsics).after (preludeSteps intrinsics)).table
      program.definitions

end TensorLang
