import ConventionLint.Program.Kind

namespace ConventionLint

structure Dispatch (α : Type) where
  entries : List (OperationKind × List α)

namespace Dispatch

variable {α : Type}

def empty : Dispatch α := ⟨[]⟩

def appendAction (kind : OperationKind) (action : α) :
    List (OperationKind × List α) → List (OperationKind × List α)
  | [] => [(kind, [action])]
  | (key, actions) :: entries =>
    if key = kind then (key, actions ++ [action]) :: entries
    else (key, actions) :: appendAction kind action entries

/-- Take an action for every kind of a list, once for each time that the kind stands there. -/
def register (table : Dispatch α) (action : α) (kinds : List OperationKind) : Dispatch α :=
  ⟨kinds.foldl (fun entries kind => appendAction kind action entries) table.entries⟩

def actionsFor (table : Dispatch α) (kind : OperationKind) : List α :=
  (table.entries.lookup kind).getD []

def kinds (table : Dispatch α) : List OperationKind := table.entries.map Prod.fst

def isEmpty (table : Dispatch α) : Bool := table.entries.isEmpty

end Dispatch

end ConventionLint
