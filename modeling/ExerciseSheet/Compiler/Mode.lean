import ExerciseSheet.Fault

/-!
# Modes of compiling

Compiling is automatic, after a quiet period, or manual, on demand only.
-/

namespace ExerciseSheet

/-- When a document is compiled. -/
inductive CompileMode where
  | auto
  | manual
  deriving DecidableEq, Repr

namespace CompileMode

/-- The modes. -/
def all : List CompileMode := [auto, manual]

/-- The name of a mode. -/
def name : CompileMode → Text
  | auto => "auto".toList
  | manual => "manual".toList

/-- The mode of a name. -/
def ofName (t : Text) : Except Fault CompileMode :=
  match all.find? fun m => m.name == t with
  | some m => .ok m
  | none => .error (.unknownCompileMode t)

end CompileMode

end ExerciseSheet
