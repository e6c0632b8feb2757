import Stencil.Template.Syntax
import Stencil.Value.Dump

/-!
# Dumps of expressions

Messages about an expression that cannot be evaluated show its dump.
-/

namespace Stencil.Template

def MathOperator.word : MathOperator → String
  | .plus => "Add"
  | .minus => "Sub"
  | .times => "Mul"
  | .over => "Div"
  | .modulo => "Modulo"

def LogicOperator.word : LogicOperator → String
  | .greater => "Gt"
  | .atLeast => "Gte"
  | .less => "Lt"
  | .atMost => "Lte"
  | .equal => "Eq"
  | .unequal => "NotEq"
  | .both => "And"
  | .either => "Or"

mutual

def Expression.dump : Expression → String
  | .mk operand negated filters =>
      Dump.many "Expr" [("val", operand.dump), ("negated", Dump.flag negated),
        ("filters", Dump.list (dumpCalls filters))]

def Operand.dump : Operand → String
  | .text text => Dump.one "String" (Dump.text text)
  | .whole value => Dump.one "Int" (toString value)
  | .float bits => Dump.one "Float" (Decimal.dumpText bits)
  | .flag flag => Dump.one "Bool" (Dump.flag flag)
  | .path path => Dump.one "Ident" (Dump.text path)
  | .joined parts =>
      Dump.one "StringConcat"
        (Dump.many "StringConcat" [("values", Dump.list (dumpOperands parts))])
  | .math operator left right =>
      Dump.one "Math" (Dump.many "MathExpr" [("lhs", left.dump), ("rhs", right.dump),
        ("operator", operator.word)])
  | .logic operator left right =>
      Dump.one "Logic" (Dump.many "LogicExpr" [("lhs", left.dump), ("rhs", right.dump),
        ("operator", operator.word)])
  | .membership item container negated =>
      Dump.one "In" (Dump.many "In" [("lhs", item.dump), ("rhs", container.dump),
        ("negated", Dump.flag negated)])
  | .check path name arguments negated =>
      Dump.one "Test" (Dump.many "Test" [("ident", Dump.text path), ("negated", Dump.flag negated),
        ("name", Dump.text name), ("args", Dump.list (dumpExpressions arguments))])
  | .call call => Dump.one "FunctionCall" call.dump
  | .expansion space name arguments =>
      Dump.one "MacroCall" (Dump.many "MacroCall" [("namespace", Dump.text space),
        ("name", Dump.text name), ("args", Dump.mapping (dumpArguments arguments))])
  | .list items => Dump.one "Array" (Dump.list (dumpExpressions items))

def Call.dump : Call → String
  | .mk name arguments =>
      Dump.many "FunctionCall" [("name", Dump.text name),
        ("args", Dump.mapping (dumpArguments arguments))]

def dumpExpressions : List Expression → List String
  | [] => []
  | first :: rest => first.dump :: dumpExpressions rest

def dumpOperands : List Operand → List String
  | [] => []
  | first :: rest => first.dump :: dumpOperands rest

def dumpCalls : List Call → List String
  | [] => []
  | first :: rest => first.dump :: dumpCalls rest

def dumpArguments : List (String × Expression) → List (String × String)
  | [] => []
  | (name, first) :: rest => (name, first.dump) :: dumpArguments rest

end

/-- A part of a joined text as a message shows it. -/
def Operand.joinedText : Operand → String
  | .text words => "'" ++ words ++ "'"
  | .path name => name
  | _ => "unknown"

end Stencil.Template
