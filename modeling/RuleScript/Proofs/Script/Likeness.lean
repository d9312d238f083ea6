import RuleScript.Script.Tree

/-!
Trees of one shape. Two trees are alike when they differ at most in literals, in the names of
variables and in the names of called functions, and each such pair goes together as a `Likeness`
says.
-/
namespace RuleScript

/-- What may stand in the place of what. -/
structure Likeness where
  Literal : Value → Value → Prop
  Variable : String → String → Prop
  /-- Names of called functions; the number of arguments may matter. -/
  Call : Nat → String → String → Prop

mutual

inductive Expr.Like (like : Likeness) : Expr → Expr → Prop
  | literal {value value' : Value} (values : like.Literal value value') :
      Expr.Like like (.literal value) (.literal value')
  | variable {target target' : VarRef} (targets : VarRef.Like like target target') :
      Expr.Like like (.variable target) (.variable target')
  | assign {target target' : VarRef} {value value' : Expr}
      (targets : VarRef.Like like target target') (values : Expr.Like like value value') :
      Expr.Like like (.assign target value) (.assign target' value')
  | binary {op : Operator} {left left' right right' : Expr} (lefts : Expr.Like like left left')
      (rights : Expr.Like like right right') :
      Expr.Like like (.binary op left right) (.binary op left' right')
  | not {operand operand' : Expr} (operands : Expr.Like like operand operand') :
      Expr.Like like (.not operand) (.not operand')
  | builtin {function : Builtin} {args args' : List Expr} (arguments : ArgumentsLike like args args') :
      Expr.Like like (.builtin function args) (.builtin function args')
  | call {name name' : String} {args args' : List Expr}
      (names : like.Call args.length name name') (arguments : ArgumentsLike like args args') :
      Expr.Like like (.call name args) (.call name' args')
  | substitute {primary primary' fallback fallback' : Expr}
      (primaries : Expr.Like like primary primary')
      (fallbacks : Expr.Like like fallback fallback') :
      Expr.Like like (.substitute primary fallback) (.substitute primary' fallback')

inductive VarRef.Like (like : Likeness) : VarRef → VarRef → Prop
  | mk {name name' : String} {index index' : Option Expr} {isLocal : Bool}
      (names : like.Variable name name') (indices : IndexLike like index index') :
      VarRef.Like like ⟨name, index, isLocal⟩ ⟨name', index', isLocal⟩

inductive IndexLike (like : Likeness) : Option Expr → Option Expr → Prop
  | none : IndexLike like none none
  | some {index index' : Expr} (indices : Expr.Like like index index') :
      IndexLike like (some index) (some index')

inductive ArgumentsLike (like : Likeness) : List Expr → List Expr → Prop
  | nil : ArgumentsLike like [] []
  | cons {arg arg' : Expr} {rest rest' : List Expr} (first : Expr.Like like arg arg')
      (others : ArgumentsLike like rest rest') :
      ArgumentsLike like (arg :: rest) (arg' :: rest')

end

mutual

inductive Statement.Like (like : Likeness) : Statement → Statement → Prop
  | expression {value value' : Expr} (values : Expr.Like like value value') :
      Statement.Like like (.expression value) (.expression value')
  | branch {condition condition' : Expr} {yes yes' : List Statement}
      {no no' : Option (List Statement)} (conditions : Expr.Like like condition condition')
      (held : StatementsLike like yes yes') (otherwise : ElseLike like no no') :
      Statement.Like like (.branch condition yes no) (.branch condition' yes' no')
  | loop {condition condition' : Expr} {body body' : List Statement}
      (conditions : Expr.Like like condition condition') (bodies : StatementsLike like body body') :
      Statement.Like like (.loop condition body) (.loop condition' body')

inductive StatementsLike (like : Likeness) : List Statement → List Statement → Prop
  | nil : StatementsLike like [] []
  | cons {statement statement' : Statement} {rest rest' : List Statement}
      (first : Statement.Like like statement statement') (others : StatementsLike like rest rest') :
      StatementsLike like (statement :: rest) (statement' :: rest')

inductive ElseLike (like : Likeness) : Option (List Statement) → Option (List Statement) → Prop
  | none : ElseLike like none none
  | some {no no' : List Statement} (others : StatementsLike like no no') :
      ElseLike like (some no) (some no')

end

theorem ArgumentsLike.length_eq {like : Likeness} :
    {args args' : List Expr} → ArgumentsLike like args args' → args.length = args'.length
  | _, _, .nil => rfl
  | _, _, .cons _ others => congrArg (· + 1) others.length_eq

namespace Likeness

/-- Nothing stands in the place of anything but itself. -/
structure IsEq (like : Likeness) : Prop where
  literal_eq {value value' : Value} (values : like.Literal value value') : value = value'
  name_eq {name name' : String} (names : like.Variable name name') : name = name'
  call_eq {count : Nat} {name name' : String} (names : like.Call count name name') : name = name'

end Likeness

mutual

theorem Expr.Like.eq {like : Likeness} (equal : like.IsEq) :
    {expr expr' : Expr} → Expr.Like like expr expr' → expr = expr'
  | _, _, .literal values => congrArg Expr.literal (equal.literal_eq values)
  | _, _, .variable targets => congrArg Expr.variable (targets.eq equal)
  | _, _, .assign targets values => congr (congrArg Expr.assign (targets.eq equal)) (values.eq equal)
  | _, _, .binary lefts rights =>
    congr (congrArg (Expr.binary _) (lefts.eq equal)) (rights.eq equal)
  | _, _, .not operands => congrArg Expr.not (operands.eq equal)
  | _, _, .builtin arguments => congrArg (Expr.builtin _) (arguments.eq equal)
  | _, _, .call names arguments =>
    congr (congrArg Expr.call (equal.call_eq names)) (arguments.eq equal)
  | _, _, .substitute primaries fallbacks =>
    congr (congrArg Expr.substitute (primaries.eq equal)) (fallbacks.eq equal)

theorem VarRef.Like.eq {like : Likeness} (equal : like.IsEq) :
    {target target' : VarRef} → VarRef.Like like target target' → target = target'
  | _, _, .mk names indices => by rw [equal.name_eq names, indices.eq equal]

theorem IndexLike.eq {like : Likeness} (equal : like.IsEq) :
    {index index' : Option Expr} → IndexLike like index index' → index = index'
  | _, _, .none => rfl
  | _, _, .some indices => congrArg some (indices.eq equal)

theorem ArgumentsLike.eq {like : Likeness} (equal : like.IsEq) :
    {args args' : List Expr} → ArgumentsLike like args args' → args = args'
  | _, _, .nil => rfl
  | _, _, .cons first others => congr (congrArg List.cons (first.eq equal)) (others.eq equal)

end
end RuleScript
