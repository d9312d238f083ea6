import RuleScript.Proofs.Script.Likeness
import RuleScript.Script.References

/-!
The blocks of a script and the calls in them. A block holds the blocks of the functions that it
declares, at any depth; a call is known by the name that it calls and by how many arguments it has.
-/
namespace RuleScript

mutual

/-- The block, and the blocks of the functions declared in it at any depth. -/
def Block.nested : Block → List Block
  | ⟨functions, statements⟩ => ⟨functions, statements⟩ :: nestedInFunctions functions

def FunctionDef.nested : FunctionDef → List Block
  | ⟨_, _, body⟩ => body.nested

def nestedInFunctions : List FunctionDef → List Block
  | [] => []
  | function :: rest => function.nested ++ nestedInFunctions rest

end

theorem Block.mem_nested_self (block : Block) : block ∈ block.nested := by
  obtain ⟨functions, statements⟩ := block
  exact List.mem_cons_self

theorem mem_nestedInFunctions {block : Block} {functions : List FunctionDef} :
    block ∈ nestedInFunctions functions ↔ ∃ function ∈ functions, block ∈ function.body.nested := by
  induction functions with
  | nil => simp [nestedInFunctions]
  | cons function rest others =>
    obtain ⟨name, params, body⟩ := function
    simp [nestedInFunctions, FunctionDef.nested, others]

theorem Block.mem_nested_iff {block inner : Block} :
    inner ∈ block.nested ↔
      inner = block ∨ ∃ function ∈ block.functions, inner ∈ function.body.nested := by
  obtain ⟨functions, statements⟩ := block
  change inner ∈ _ :: nestedInFunctions functions ↔ _
  rw [List.mem_cons, mem_nestedInFunctions]

mutual

/-- What is nested in a nested block is nested. -/
theorem Block.nested_trans {inner innermost : Block} :
    (block : Block) → inner ∈ block.nested → innermost ∈ inner.nested → innermost ∈ block.nested
  | ⟨functions, statements⟩, among, within => by
    rcases List.mem_cons.1 among with rfl | deeper
    · exact within
    · exact List.mem_cons_of_mem _ (nestedInFunctions_trans functions deeper within)

theorem FunctionDef.nested_trans {inner innermost : Block} :
    (function : FunctionDef) → inner ∈ function.nested → innermost ∈ inner.nested →
      innermost ∈ function.nested
  | ⟨_, _, body⟩, among, within => Block.nested_trans body among within

theorem nestedInFunctions_trans {inner innermost : Block} :
    (functions : List FunctionDef) → inner ∈ nestedInFunctions functions →
      innermost ∈ inner.nested → innermost ∈ nestedInFunctions functions
  | [], among, _ => by cases among
  | function :: rest, among, within => by
    rcases List.mem_append.1 among with first | later
    · exact List.mem_append_left _ (function.nested_trans first within)
    · exact List.mem_append_right _ (nestedInFunctions_trans rest later within)

end

theorem Block.body_mem_nested {block inner : Block} (within : inner ∈ block.nested)
    {function : FunctionDef} (declared : function ∈ inner.functions) :
    function.body ∈ block.nested :=
  Block.nested_trans block within
    (mem_nested_iff.2 (.inr ⟨function, declared, function.body.mem_nested_self⟩))

mutual

/-- The calls in an expression, each with its number of arguments. -/
def Expr.callSites : Expr → List (String × Nat)
  | .literal _ => []
  | .variable target => target.callSites
  | .assign target value => target.callSites ++ value.callSites
  | .binary _ left right => left.callSites ++ right.callSites
  | .not operand => operand.callSites
  | .builtin _ args => callSitesOfAll args
  | .call name args => (name, args.length) :: callSitesOfAll args
  | .substitute primary fallback => primary.callSites ++ fallback.callSites

def VarRef.callSites : VarRef → List (String × Nat)
  | ⟨_, index, _⟩ => callSitesOfIndex index

def callSitesOfIndex : Option Expr → List (String × Nat)
  | none => []
  | some index => index.callSites

def callSitesOfAll : List Expr → List (String × Nat)
  | [] => []
  | arg :: rest => arg.callSites ++ callSitesOfAll rest

end

mutual

/-- The calls in a statement. -/
def Statement.callSites : Statement → List (String × Nat)
  | .expression value => value.callSites
  | .branch condition yes no =>
    condition.callSites ++ callSitesOfStatements yes ++ callSitesOfElse no
  | .loop condition body => condition.callSites ++ callSitesOfStatements body

def callSitesOfElse : Option (List Statement) → List (String × Nat)
  | none => []
  | some statements => callSitesOfStatements statements

def callSitesOfStatements : List Statement → List (String × Nat)
  | [] => []
  | statement :: rest => statement.callSites ++ callSitesOfStatements rest

end

/-- Each variable mentioned and each call may stand in its own place. -/
structure Likeness.Covers (like : Likeness) (mentions : List Mention)
    (sites : List (String × Nat)) : Prop where
  names : ∀ name, .variable name ∈ mentions → like.Variable name name
  calls : ∀ name count, (name, count) ∈ sites → like.Call count name name

namespace Likeness.Covers

variable {like : Likeness} {mentions others : List Mention} {sites further : List (String × Nat)}

theorem ofLeft (covers : like.Covers (mentions ++ others) (sites ++ further)) :
    like.Covers mentions sites :=
  ⟨fun name among => covers.names name (List.mem_append_left _ among),
    fun name count among => covers.calls name count (List.mem_append_left _ among)⟩

theorem ofRight (covers : like.Covers (mentions ++ others) (sites ++ further)) :
    like.Covers others further :=
  ⟨fun name among => covers.names name (List.mem_append_right _ among),
    fun name count among => covers.calls name count (List.mem_append_right _ among)⟩

end Likeness.Covers

section LikeSelf

variable {like : Likeness}

mutual

/-- An expression is like itself if all that is in it may stand in its own place. -/
theorem Expr.like_self (literals : ∀ value, like.Literal value value) :
    (expr : Expr) → like.Covers expr.mentions expr.callSites → Expr.Like like expr expr
  | .literal value, _ => .literal (literals value)
  | .variable target, covers => .variable (target.like_self literals covers)
  | .assign target value, covers =>
    .assign (target.like_self literals covers.ofLeft) (value.like_self literals covers.ofRight)
  | .binary _ left right, covers =>
    .binary (left.like_self literals covers.ofLeft) (right.like_self literals covers.ofRight)
  | .not operand, covers => .not (operand.like_self literals covers)
  | .builtin _ args, covers => .builtin (arguments_like_self literals args covers)
  | .call name args, covers =>
    .call (covers.calls name _ List.mem_cons_self)
      (arguments_like_self literals args
        ⟨fun name among => covers.names name (List.mem_cons_of_mem _ among),
          fun name count among => covers.calls name count (List.mem_cons_of_mem _ among)⟩)
  | .substitute primary fallback, covers =>
    .substitute (primary.like_self literals covers.ofLeft)
      (fallback.like_self literals covers.ofRight)

theorem VarRef.like_self (literals : ∀ value, like.Literal value value) :
    (target : VarRef) → like.Covers target.mentions target.callSites →
      VarRef.Like like target target
  | ⟨name, index, _⟩, covers =>
    .mk (covers.names name List.mem_cons_self)
      (index_like_self literals index
        ⟨fun name among => covers.names name (List.mem_cons_of_mem _ among), covers.calls⟩)

theorem index_like_self (literals : ∀ value, like.Literal value value) :
    (index : Option Expr) → like.Covers (mentionsOfIndex index) (callSitesOfIndex index) →
      IndexLike like index index
  | none, _ => .none
  | some index, covers => .some (index.like_self literals covers)

theorem arguments_like_self (literals : ∀ value, like.Literal value value) :
    (args : List Expr) → like.Covers (mentionsOfAll args) (callSitesOfAll args) →
      ArgumentsLike like args args
  | [], _ => .nil
  | arg :: rest, covers =>
    .cons (arg.like_self literals covers.ofLeft) (arguments_like_self literals rest covers.ofRight)

end

mutual

theorem Statement.like_self (literals : ∀ value, like.Literal value value) :
    (statement : Statement) → like.Covers statement.mentions statement.callSites →
      Statement.Like like statement statement
  | .expression value, covers => .expression (value.like_self literals covers)
  | .branch condition yes no, covers =>
    .branch (condition.like_self literals covers.ofLeft.ofLeft)
      (statements_like_self literals yes covers.ofLeft.ofRight)
      (else_like_self literals no covers.ofRight)
  | .loop condition body, covers =>
    .loop (condition.like_self literals covers.ofLeft)
      (statements_like_self literals body covers.ofRight)

theorem else_like_self (literals : ∀ value, like.Literal value value) :
    (no : Option (List Statement)) → like.Covers (mentionsOfElse no) (callSitesOfElse no) →
      ElseLike like no no
  | none, _ => .none
  | some statements, covers => .some (statements_like_self literals statements covers)

theorem statements_like_self (literals : ∀ value, like.Literal value value) :
    (statements : List Statement) →
      like.Covers (mentionsOfStatements statements) (callSitesOfStatements statements) →
      StatementsLike like statements statements
  | [], _ => .nil
  | statement :: rest, covers =>
    .cons (statement.like_self literals covers.ofLeft)
      (statements_like_self literals rest covers.ofRight)

end

end LikeSelf
end RuleScript
