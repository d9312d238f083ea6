import Mathlib
import RuleScript.Proofs.Namespace.Tidy
import RuleScript.Proofs.Nesting

/-!
Frames over a store as a stack of maps. A host can open frames over a store and work on the
innermost one; each level resolves the names that it passes outward, in the spelling that its
parent has for them. Seen from outside there is none of this: every answer is that of a stack of
maps from names, folded where case does not count, to values (`Stack`), and a frame that is closed
leaves no trace.
-/
namespace RuleScript

/-- A step of a host that works on the innermost frame. -/
inductive Action
  | set (name : String) (value : Value)
  | setElement (name : String) (index : Nat) (value : Value)
  | get (name : String)
  | getLocal (name : String)
  | getElement (name : String) (index : Nat)
  | contains (name : String)
  | owns (name : String)
  | push
  | pop

inductive Answer
  | done
  | value (value : Value)
  | truth (truth : Bool)

/-- Takes steps in turn; gives the last state and all answers. -/
def Action.perform {σ : Type} (step : σ → Action → σ × Answer) (state : σ) :
    List Action → σ × List Answer
  | [] => (state, [])
  | action :: rest =>
    let (next, answer) := step state action
    let (last, answers) := perform step next rest
    (last, answer :: answers)

/-- Closes the innermost frame, unless it is the first one over the store. -/
def Namespace.pop : Namespace → Namespace
  | .frame _ (.frame own parent) => .frame own parent
  | names => names

def Namespace.step (caseSensitive : Bool) (names : Namespace) : Action → Namespace × Answer
  | .set name value => (names.set name value, .done)
  | .setElement name index value => (names.setElement name index value, .done)
  | .get name => (names, .value (names.get name))
  | .getLocal name => (names, .value (names.getLocal name))
  | .getElement name index => (names, .value (names.getElement name index))
  | .contains name => (names, .truth (names.contains name))
  | .owns name => (names, .truth (names.owns name))
  | .push => (names.push caseSensitive, .done)
  | .pop => (names.pop, .done)

/-- A copy of a value as an array with one item replaced; nulls fill the gap where it is too
short. -/
def Value.replaced (seen : Value) (index : Nat) (value : Value) : Value :=
  .array ((List.range (max seen.items.length (index + 1))).map fun i =>
    if i = index then value else (seen.items[i]?).getD .null)

theorem Value.withElement_eq_replaced (seen : Value) (index : Nat) (value : Value) :
    seen.withElement index value = seen.replaced index value := by
  rw [withElement, replaced, putItem]
  congr 1
  have length : ((seen.items ++ List.replicate (index + 1 - seen.items.length) null).set index
      value).length = max seen.items.length (index + 1) := by
    rw [List.length_set, List.length_append, List.length_replicate]
    omega
  refine List.ext_getElem (by rw [length, List.length_map, List.length_range]) fun i within _ => ?_
  rw [List.getElem_set, List.getElem_map, List.getElem_range, List.getElem_append]
  by_cases same : index = i
  · rw [if_pos same, if_pos same.symm]
  · rw [if_neg same, if_neg (Ne.symm same)]
    split
    · next there => rw [List.getElem?_eq_getElem there, Option.getD_some]
    · next past =>
      rw [List.getElem?_eq_none (Nat.le_of_not_lt past), Option.getD_none, List.getElem_replicate]

/-- Maps from names as they are looked up to values, the innermost first; the last one is the
store. -/
abbrev Stack := List (String → Option Value)

namespace Stack

/-- What the nearest level that has the name has for it. -/
def visible? (stack : Stack) (key : String) : Option Value :=
  stack.findSome? fun level => level key

theorem visible?_cons (level : String → Option Value) (outer : Stack) (key : String) :
    Stack.visible? (level :: outer) key = (level key).or (outer.visible? key) := by
  rw [visible?, List.findSome?_cons]
  cases level key <;> rfl

/-- What the innermost level has for the name. -/
def own? : Stack → String → Option Value
  | [], _ => none
  | level :: _, key => level key

/-- The stack with a name bound on the innermost level. -/
def bind (key : String) (value : Value) : Stack → Stack
  | [] => []
  | level :: outer => (fun other => if other = key then some value else level other) :: outer

/-- The stack without its innermost level, unless only one is over the store. -/
def close : Stack → Stack
  | _ :: level :: outer :: rest => level :: outer :: rest
  | stack => stack

def step (caseSensitive : Bool) (stack : Stack) : Action → Stack × Answer
  | .set name value => (stack.bind (foldName caseSensitive name) value, .done)
  | .setElement name index value =>
    let seen := (stack.visible? (foldName caseSensitive name)).getD .null
    (stack.bind (foldName caseSensitive name) (seen.replaced index value), .done)
  | .get name => (stack, .value ((stack.visible? (foldName caseSensitive name)).getD .null))
  | .getLocal name => (stack, .value ((stack.own? (foldName caseSensitive name)).getD .null))
  | .getElement name index =>
    (stack, .value (((stack.visible? (foldName caseSensitive name)).getD .null).element index))
  | .contains name => (stack, .truth (stack.visible? (foldName caseSensitive name)).isSome)
  | .owns name => (stack, .truth (stack.own? (foldName caseSensitive name)).isSome)
  | .push => ((fun _ => none) :: stack, .done)
  | .pop => (stack.close, .done)

end Stack

/-- The standard stores over which names are matched in the given way: exactly, on a plain store;
else on a plain store that has no two names of one meaning, or on a folding one. -/
inductive Variables.Suits : Bool → Variables → Prop
  | exact {vars : Variables} (plain : vars.folds = false) : Suits true vars
  | apart {vars : Variables} (plain : vars.folds = false)
      (apart : ∀ name ∈ vars.entries.names, ∀ other ∈ vars.entries.names,
        Text.lower name = Text.lower other → name = other) : Suits false vars
  | folded {vars : Variables} (folds : vars.folds = true) (built : vars.Built) : Suits false vars

namespace Store

/-- The store as a map from names as they are looked up. -/
def bindings (caseSensitive : Bool) (store : Store) (key : String) : Option Value :=
  (store.entries.entries.find? fun entry => foldName caseSensitive entry.1 == key).map Prod.snd

theorem Tidy.slot?_eq_bindings {store : Store} (tidy : store.Tidy) (name : String) :
    store.slot? false name = store.bindings false (foldName false name) := by
  rw [tidy.slot?, Registry.find?_eq]
  rfl

theorem slot?_eq_bindings {caseSensitive : Bool} {vars : Variables}
    (suits : vars.Suits caseSensitive) (name : String) :
    (standard vars).slot? caseSensitive name =
      (standard vars).bindings caseSensitive (foldName caseSensitive name) := by
  cases suits with
  | exact plain =>
    have spelled : (Namespace.root (standard vars)).resolveName true name = name := rfl
    have exact : (standard vars).folds = false := plain
    rw [slot?, spelled, key_of_exact exact, Registry.get?, Registry.lookup_eq_find?]
    rfl
  | apart plain apart =>
    have tidy : (standard vars).Tidy := by
      refine ⟨rfl, apart, fun folds => ?_⟩
      have folding : vars.folds = true := folds
      rw [plain] at folding
      cases folding
    exact tidy.slot?_eq_bindings name
  | folded folds built => exact (built.tidy folds).slot?_eq_bindings name

end Store

namespace Namespace

/-- The frames and the store as a stack of maps. -/
def bindings (caseSensitive : Bool) : Namespace → Stack
  | .root store => [store.bindings caseSensitive]
  | .frame own parent => own.entries.get? :: parent.bindings caseSensitive

/-- A name is there under the spelling that it is resolved to just when the search finds it. -/
theorem contains_resolveName {caseSensitive : Bool} {names : Namespace}
    (regular : names.Regular caseSensitive) (name : String) :
    names.contains (names.resolveName caseSensitive name) =
      (names.search? caseSensitive name).isSome := by
  induction regular with
  | root => exact Store.contains_eq _ _
  | @frame own parent innermost _ outward =>
    have owned : own.owns ((frame own parent).resolveName caseSensitive name) =
        (own.entries.get? (foldName caseSensitive name)).isSome := by
      rw [Frame.owns, innermost.key, foldName_resolveName]
      rfl
    rw [contains, search?, owned, innermost.sensitive]
    cases bound : own.entries.get? (foldName caseSensitive name) with
    | some value => rfl
    | none =>
      rw [Option.none_or, ← outward, ← resolveName_parent innermost parent bound]
      rfl

/-- One or more frames over a store that suits them. -/
inductive Chain (caseSensitive : Bool) : Namespace → Prop
  | first {own : Frame} {vars : Variables} (innermost : own.Regular caseSensitive)
      (suits : vars.Suits caseSensitive) : Chain caseSensitive (.frame own (.root (.standard vars)))
  | further {own : Frame} {parent : Namespace} (innermost : own.Regular caseSensitive)
      (others : Chain caseSensitive parent) : Chain caseSensitive (.frame own parent)

namespace Chain

variable {caseSensitive : Bool}

theorem regular {names : Namespace} (chain : names.Chain caseSensitive) :
    names.Regular caseSensitive := by
  induction chain with
  | first innermost _ => exact .frame innermost .root
  | further innermost _ outward => exact .frame innermost outward

theorem framed {names : Namespace} (chain : names.Chain caseSensitive) :
    ∃ own parent, names = .frame own parent := by
  cases chain with
  | first _ _ => exact ⟨_, _, rfl⟩
  | further _ _ => exact ⟨_, _, rfl⟩

/-- The innermost frame may be replaced. -/
theorem replace {own own' : Frame} {parent : Namespace}
    (chain : (frame own parent).Chain caseSensitive) (regular : own'.Regular caseSensitive) :
    (frame own' parent).Chain caseSensitive := by
  cases chain with
  | first _ suits => exact .first regular suits
  | further _ others => exact .further regular others

theorem search?_eq_visible? {names : Namespace} (chain : names.Chain caseSensitive)
    (name : String) :
    names.search? caseSensitive name =
      (names.bindings caseSensitive).visible? (foldName caseSensitive name) := by
  have outward {own : Frame} {parent : Namespace}
      (others : parent.search? caseSensitive name =
        (parent.bindings caseSensitive).visible? (foldName caseSensitive name)) :
      (frame own parent).search? caseSensitive name =
        ((frame own parent).bindings caseSensitive).visible? (foldName caseSensitive name) := by
    rw [search?, others, bindings, Stack.visible?_cons]
  induction chain with
  | first _ suits =>
    refine outward ?_
    rw [search?, Store.slot?_eq_bindings suits, bindings, Stack.visible?, List.findSome?_singleton]
  | further _ _ others => exact outward others

variable {own : Frame} {parent : Namespace}

theorem innermost (chain : (frame own parent).Chain caseSensitive) : own.Regular caseSensitive := by
  cases chain with
  | first innermost _ => exact innermost
  | further innermost _ => exact innermost

theorem get (chain : (frame own parent).Chain caseSensitive) (name : String) :
    (frame own parent).get name =
      (((frame own parent).bindings caseSensitive).visible? (foldName caseSensitive name)).getD
        .null := by
  have outer : parent.Regular caseSensitive := by
    cases chain.regular with
    | frame _ others => exact others
  rw [← chain.search?_eq_visible?, Namespace.get, search?, chain.innermost.get?,
    chain.innermost.sensitive]
  cases own.entries.get? (foldName caseSensitive name) with
  | some value => rfl
  | none => rw [Option.none_or, get_resolveName outer]

theorem contains (chain : (frame own parent).Chain caseSensitive) (name : String) :
    (frame own parent).contains name =
      (((frame own parent).bindings caseSensitive).visible?
        (foldName caseSensitive name)).isSome := by
  have outer : parent.Regular caseSensitive := by
    cases chain.regular with
    | frame _ others => exact others
  have passed := contains_resolveName outer name
  rw [resolveName] at passed
  rw [← chain.search?_eq_visible?, Namespace.contains, search?, Frame.owns, chain.innermost.key,
    chain.innermost.sensitive, passed, Registry.contains, Option.isSome_or]

theorem bindings_set (chain : (frame own parent).Chain caseSensitive) (name : String)
    (value : Value) :
    ((frame own parent).set name value).bindings caseSensitive =
      ((frame own parent).bindings caseSensitive).bind (foldName caseSensitive name) value := by
  rw [Namespace.set, bindings, bindings, Stack.bind, ← chain.innermost.key]
  congr 1
  funext other
  exact Registry.get?_insert _ _ _ _

end Chain

/-- What one step comes to: the frames stand for the stack that the step leads to there, and the
answers are the same. -/
structure Agrees (caseSensitive : Bool) (after : Namespace × Answer) (expected : Stack × Answer) :
    Prop where
  chain : after.1.Chain caseSensitive
  bindings : after.1.bindings caseSensitive = expected.1
  answer : after.2 = expected.2

theorem Chain.pop {caseSensitive : Bool} {names : Namespace} (chain : names.Chain caseSensitive) :
    names.pop.Chain caseSensitive ∧
      names.pop.bindings caseSensitive = (names.bindings caseSensitive).close := by
  cases chain with
  | first innermost suits => exact ⟨.first innermost suits, rfl⟩
  | further innermost others =>
    cases others with
    | first outer suits => exact ⟨.first outer suits, rfl⟩
    | @further _ parent outer rest =>
      refine ⟨.further outer rest, ?_⟩
      cases rest <;> rfl

/-- Every step on frames is the step on the stack that they stand for. -/
theorem Chain.step {caseSensitive : Bool} {names : Namespace} (chain : names.Chain caseSensitive)
    (action : Action) :
    Agrees caseSensitive (names.step caseSensitive action)
      ((names.bindings caseSensitive).step caseSensitive action) := by
  obtain ⟨own, parent, rfl⟩ := chain.framed
  cases action with
  | set name value =>
    exact ⟨chain.replace (chain.innermost.set name value), chain.bindings_set name value, rfl⟩
  | setElement name index value =>
    refine ⟨chain.replace (chain.innermost.set name _), ?_, rfl⟩
    refine (chain.bindings_set name _).trans ?_
    rw [chain.get, Value.withElement_eq_replaced]
    rfl
  | get name => exact ⟨chain, rfl, congrArg Answer.value (chain.get name)⟩
  | getLocal name =>
    refine ⟨chain, rfl, congrArg Answer.value ?_⟩
    rw [getLocal, chain.innermost.get?]
    rfl
  | getElement name index =>
    refine ⟨chain, rfl, congrArg Answer.value ?_⟩
    rw [getElement, chain.get]
  | contains name => exact ⟨chain, rfl, congrArg Answer.truth (chain.contains name)⟩
  | owns name =>
    refine ⟨chain, rfl, congrArg Answer.truth ?_⟩
    rw [owns, Frame.owns, chain.innermost.key]
    rfl
  | push => exact ⟨.further (Frame.regular_empty caseSensitive) chain, rfl, rfl⟩
  | pop => exact ⟨chain.pop.1, chain.pop.2, rfl⟩

/-- All steps that a host takes on frames are the steps on the stack that they stand for. -/
theorem Chain.perform {caseSensitive : Bool} {names : Namespace}
    (chain : names.Chain caseSensitive) (actions : List Action) :
    let after := Action.perform (Namespace.step caseSensitive) names actions
    let expected :=
      Action.perform (Stack.step caseSensitive) (names.bindings caseSensitive) actions
    after.1.Chain caseSensitive ∧ after.1.bindings caseSensitive = expected.1 ∧
      after.2 = expected.2 := by
  induction actions generalizing names with
  | nil => exact ⟨chain, rfl, rfl⟩
  | cons action rest others =>
    have first := chain.step action
    obtain ⟨last, bindings, answers⟩ := others first.chain
    rw [first.bindings] at bindings answers
    refine ⟨last, bindings, ?_⟩
    dsimp only [Action.perform]
    rw [first.answer, answers]

end Namespace

theorem Action.perform_state {σ : Type} (step : σ → Action → σ × Answer) (state : σ)
    (actions : List Action) :
    (perform step state actions).1 =
      actions.foldl (fun state action => (step state action).1) state := by
  induction actions generalizing state with
  | nil => rfl
  | cons action rest others => exact others _

namespace Namespace

/-- The first namespace has a frame, and the second is one frame over it. -/
def Over (outer names : Namespace) : Prop :=
  (∃ own parent, outer = .frame own parent) ∧ ∃ own, names = .frame own outer

theorem frames_nest (caseSensitive : Bool) :
    Nests (fun names action => (Namespace.step caseSensitive names action).1) .push .pop Over where
  opens := by
    rintro outer _ ⟨_, own, rfl⟩
    exact ⟨⟨own, outer, rfl⟩, _, rfl⟩
  closes := by
    rintro _ _ ⟨⟨own, parent, rfl⟩, _, rfl⟩
    rfl
  keeps := by
    rintro outer _ action opens closes ⟨framed, own, rfl⟩
    refine ⟨framed, ?_⟩
    cases action with
    | push => exact absurd rfl opens
    | pop => exact absurd rfl closes
    | set _ _ | setElement _ _ _ => exact ⟨_, rfl⟩
    | get _ | getLocal _ | getElement _ _ | contains _ | owns _ => exact ⟨own, rfl⟩

/-- A frame that was opened and closed again leaves all others as they were. -/
theorem Chain.perform_restores {caseSensitive : Bool} {names : Namespace}
    (chain : names.Chain caseSensitive) {inner : List Action}
    (balanced : Balanced .push .pop inner) :
    (Action.perform (Namespace.step caseSensitive) names (.push :: (inner ++ [.pop]))).1 =
      names := by
  obtain ⟨own, parent, rfl⟩ := chain.framed
  rw [Action.perform_state]
  exact (frames_nest caseSensitive).foldl_restores balanced ⟨⟨own, parent, rfl⟩, _, rfl⟩

end Namespace

/-- Whatever a host does with frames over a store that suits them, it gets the answers of a stack
of maps, and the frames stand for that stack in the end; and from wherever it got to, opening a
frame, working on it and on frames over it, and closing it again leads back to the very same
frames. -/
theorem frames_refine_stack {caseSensitive : Bool} {vars : Variables}
    (suits : vars.Suits caseSensitive) (actions : List Action) :
    let start := (Namespace.root (.standard vars)).push caseSensitive
    let after := Action.perform (Namespace.step caseSensitive) start actions
    let expected := Action.perform (Stack.step caseSensitive)
      [fun _ => none, (Store.standard vars).bindings caseSensitive] actions
    after.2 = expected.2 ∧ after.1.bindings caseSensitive = expected.1 ∧
      ∀ inner, Balanced .push .pop inner →
        (Action.perform (Namespace.step caseSensitive) after.1 (.push :: (inner ++ [.pop]))).1 =
          after.1 := by
  have start : ((Namespace.root (.standard vars)).push caseSensitive).Chain caseSensitive :=
    .first (Frame.regular_empty caseSensitive) suits
  obtain ⟨chain, bindings, answers⟩ := start.perform actions
  exact ⟨answers, bindings, fun _ balanced => chain.perform_restores balanced⟩

/-- A store that has `Price` is seen under other spellings, a frame has its own copy of what was
written there, and the copy is gone with the frame. -/
theorem frames_refine_stack_price :
    let vars := (Variables.empty false).set "Price" (.text "12")
    let actions : List Action := [.push, .get "PRICE", .owns "price",
      .setElement "price" 1 (.boolean true), .getElement "Price" 0, .owns "PRICE", .pop,
      .getLocal "price", .get "price"]
    vars.Suits false ∧
      (Action.perform (Namespace.step false) ((Namespace.root (.standard vars)).push false)
        actions).2 =
        [.done, .value (.text "12"), .truth false, .done, .value (.text "12"), .truth true, .done,
          .value .null, .value (.text "12")] := by
  intro vars actions
  have suits : vars.Suits false :=
    .apart rfl fun _ among _ member _ =>
      (List.mem_singleton.1 among).trans (List.mem_singleton.1 member).symm
  refine ⟨suits, (frames_refine_stack suits actions).1.trans ?_⟩
  cbv

end RuleScript
