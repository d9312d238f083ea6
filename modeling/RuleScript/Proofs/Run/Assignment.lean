import RuleScript.Proofs.Decimal.Numeral
import RuleScript.Proofs.Namespace.Listing
import RuleScript.Proofs.Run.Safety

/-!
What an assignment does. It evaluates its right side, then the index, and then writes the value into
the innermost level of the names it finds there; its result is what it reads back. The write goes to
a whole variable or to an element of it, which may be seen in an outer level and is then copied. In
all cases the result is the value of the right side, one entry of the innermost level has it, and
nothing else has changed: what the write does to the names is said once (`Namespace.Stores`), and an
assignment that succeeds got as far as the write (`Machine.evalNode_assign_cases`). A read that
follows resolves the name again; it meets the entry that was written, unless the level has the name
in two spellings.
-/
namespace RuleScript

namespace Value

/-- The last value is an array with an item at the index. Its other items are those of the first
value, and nulls fill the gap where that was too short. A value that is no array counts as its only
item, and null as none. -/
def PutAt (old : Value) (index : Nat) (item stored : Value) : Prop :=
  ∃ items, stored = .array items ∧ items.length = max old.items.length (index + 1) ∧
    items[index]? = some item ∧
    (∀ i, i ≠ index → i < old.items.length → items[i]? = old.items[i]?) ∧
    ∀ i, old.items.length ≤ i → i < index → items[i]? = some .null

theorem putAt_withElement (old : Value) (index : Nat) (item : Value) :
    old.PutAt index item (old.withElement index item) := by
  have length : (old.items ++ List.replicate (index + 1 - old.items.length) null).length =
      max old.items.length (index + 1) := by
    rw [List.length_append, List.length_replicate]
    omega
  refine ⟨putItem old.items index item, rfl, ?_, ?_, fun i other inside => ?_,
    fun i outside before => ?_⟩
  · rw [putItem, List.length_set, length]
  · rw [putItem, List.getElem?_set_self]
    omega
  · rw [putItem, List.getElem?_set_ne (Ne.symm other), List.getElem?_append_left inside]
  · rw [putItem, List.getElem?_set_ne (by omega), List.getElem?_append_right outside,
      List.getElem?_replicate, if_pos (by omega)]

theorem PutAt.element {old item stored : Value} {index : Nat}
    (put : old.PutAt index item stored) : stored.element index = item := by
  obtain ⟨items, rfl, -, there, -⟩ := put
  simp [Value.element, there]

/-- An index that has no element: null, or a number that is negative once its fraction is cut
off. -/
def LacksElement (index : Value) : Prop :=
  index = .null ∨ ∃ n, index.number? = some n ∧ n.signed.tdiv (tenPow n.scale) < 0

end Value

/-- An index without an element addresses nothing, or is refused. -/
theorem indexOf_of_lacks {index : Value} (lacks : index.LacksElement) :
    indexOf index = .ok none ∨ ∃ error, indexOf index = .error error := by
  rcases lacks with rfl | ⟨n, number, negative⟩
  · exact .inl rfl
  have addressed : indexOf.addressed index = .ok none ∨
      ∃ error, indexOf.addressed index = .error error := by
    unfold indexOf.addressed
    rw [Value.int64?, number, Option.bind_some, Decimal.toInt64?_eq]
    by_cases fits : fitsInt64 (n.signed.tdiv (tenPow n.scale)) = true
    · left
      simp only [if_pos fits, if_neg (Int.not_le.2 negative)]
    · right
      simp only [if_neg fits]
      exact ⟨_, rfl⟩
  cases index with
  | null => cases number
  | number _ => exact addressed
  | text _ => exact addressed
  | boolean _ => cases number
  | array _ => cases number

theorem indexOf_number {n : Decimal} {i : Nat} (whole : n.toInt64? = some (i : Int)) :
    indexOf (.number n) = .ok (some i) := by
  have found : (Value.number n).int64? = some (i : Int) := whole
  change indexOf.addressed (.number n) = _
  unfold indexOf.addressed
  rw [found]
  simp

/-- A whole number within 64 bits that is not negative addresses its element. -/
theorem indexOf_ofInt {i : Nat} (bounded : i + 1 ≤ twoPow 63) :
    indexOf (.ofInt i) = .ok (some i) := by
  have power : twoPow 63 = 0x8000000000000000 := rfl
  have small : (i : Int).natAbs < Decimal.coefficientBound := by
    unfold Decimal.coefficientBound
    omega
  have fits : fitsInt64 (i : Int) = true := by
    rw [fitsInt64_iff]
    omega
  have scale : (Decimal.ofInt i).scale = 0 := rfl
  apply indexOf_number
  rw [Decimal.toInt64?_eq, Decimal.signed_ofInt small, scale]
  simp [fits]

namespace Namespace

/-- The value of a variable as a whole, as a script reads it. -/
def lookup (caseSensitive : Bool) (names : Namespace) (target : VarRef) : Value :=
  names.read target.isLocal (names.resolveName caseSensitive target.name)

/-- A value was stored in a variable, or in one of its elements: one entry of the innermost level,
which the name can mean, has changed, and nothing else. -/
structure Stores (caseSensitive : Bool) (target : VarRef) (index : Option Nat) (value : Value)
    (entry : String) (before after : Namespace) : Prop where
  meant : before.means caseSensitive target.name entry = true
  whole : index = none → after.innermost.get? entry = some value
  element : ∀ i, index = some i → ∃ stored, after.innermost.get? entry = some stored ∧
    (before.lookup caseSensitive target).PutAt i value stored
  others : ∀ other, other ≠ entry → after.innermost.get? other = before.innermost.get? other
  outer : after.parent? = before.parent?

/-- The names after a value was written to a variable, or to one of its elements. -/
def assigned (caseSensitive : Bool) (names : Namespace) (target : VarRef) (index : Option Nat)
    (value : Value) : Namespace :=
  names.set (names.resolveName caseSensitive target.name)
    (value.written index (some (names.lookup caseSensitive target)))

theorem innermost_assigned (caseSensitive : Bool) (names : Namespace) (target : VarRef)
    (index : Option Nat) (value : Value) :
    (names.assigned caseSensitive target index value).innermost =
      names.innermost.insert (names.key (names.resolveName caseSensitive target.name))
        (value.written index (some (names.lookup caseSensitive target))) :=
  names.innermost_set _ _

theorem stores_assigned (caseSensitive : Bool) (names : Namespace) (target : VarRef)
    (index : Option Nat) (value : Value) :
    Stores caseSensitive target index value
      (names.key (names.resolveName caseSensitive target.name)) names
      (names.assigned caseSensitive target index value) where
  meant := names.means_key_resolveName caseSensitive target.name
  whole := by
    rintro rfl
    rw [innermost_assigned, Registry.get?_insert, if_pos rfl]
    rfl
  element := by
    rintro i rfl
    rw [innermost_assigned, Registry.get?_insert, if_pos rfl]
    exact ⟨_, rfl, Value.putAt_withElement _ i value⟩
  others other different := by
    rw [innermost_assigned, Registry.get?_insert, if_neg different]
  outer := names.parent?_set _ _

/-- What was written is read back under every spelling that finds the level it was written to, in
whatever order the levels are listed then. -/
theorem part_lookup_assigned {caseSensitive : Bool} {names names' : Namespace} {target : VarRef}
    {index : Option Nat} {value : Value}
    (relisted : (names.assigned caseSensitive target index value).Relisted names')
    (folded : (names.assigned caseSensitive target index value).Folded)
    (once : (names.assigned caseSensitive target index value).SpelledOnce caseSensitive target.name)
    {spelling : String}
    (alike : foldName caseSensitive spelling = foldName caseSensitive target.name)
    (known : spelling = target.name ∨
      (names.assigned caseSensitive target index value).KnowsSpellings) (isLocal : Bool) :
    (names'.lookup caseSensitive ⟨spelling, none, isLocal⟩).part (index.map some) = value := by
  have read := relisted.read_set folded once alike known isLocal
  rw [lookup, read]
  cases index with
  | none => rfl
  | some i => exact (Value.putAt_withElement _ i value).element

end Namespace

/-- Writing a variable or an element of it stores the value and gives it back. -/
theorem Run.write_picked (caseSensitive : Bool) (target : VarRef) (picked : Option Nat)
    (value : Value) (machine : Machine) :
    Run.write caseSensitive target (picked.map some) value machine =
      (.ok value,
        { machine with names := machine.names.assigned caseSensitive target picked value }) := by
  unfold Run.write
  dsimp only
  rw [Namespace.writeAt?_eq_set]
  cases picked with
  | none =>
    dsimp only [Option.map]
    rw [Namespace.readAt_eq, Namespace.read_set]
    rfl
  | some i =>
    dsimp only [Option.map]
    rw [Namespace.readAt_eq, Namespace.read_set]
    simp only [Value.part, (Value.putAt_withElement _ i value).element]
    rfl

/-- Writing fails at an index without an element. -/
theorem Run.write_nowhere (caseSensitive : Bool) (target : VarRef) (value : Value)
    (machine : Machine) :
    ∃ error, Run.write caseSensitive target (some none) value machine =
      (.error (.failed error), machine) :=
  ⟨_, rfl⟩

/-- The variable of a reference, or the element of it at an index that is given as a number. -/
def VarRef.pick (target : VarRef) (index : Option Nat) : VarRef :=
  ⟨target.name, index.map fun i => .literal (.ofInt i), target.isLocal⟩

namespace Machine

variable {σ : Type} {context : Context σ}

theorem evalExpr_untraced (untraced : context.traced = false) (fuel : Nat) (place : σ)
    (expr : Expr) (machine : Machine) :
    evalExpr context (fuel + 1) place expr machine = evalNode context fuel place expr machine := by
  unfold evalExpr Run.observe
  rw [untraced]
  rfl

/-- An assignment that succeeds got as far as the write; in between, a traced run keeps the value of
the right side for its report. -/
theorem evalNode_assign_cases {fuel : Nat} {place : σ} {target : VarRef} {expr : Expr}
    {result : Value} {machine after : Machine}
    (ran : evalNode context (fuel + 1) place (.assign target expr) machine = (.ok result, after)) :
    ∃ mid noted index before,
      evalExpr context fuel place expr machine = (.ok result, mid) ∧
      Run.note context.traced result mid = (.ok (), noted) ∧
      evalIndex context fuel place target.index noted = (.ok (Option.map some index), before) ∧
      after = { before with
        names := before.names.assigned context.settings.caseSensitive target index result } := by
  unfold evalNode at ran
  rcases evaluated : evalExpr context fuel place expr machine with ⟨stop | value, mid⟩
  · rw [Run.bind_error evaluated] at ran
    cases ran
  rw [Run.bind_ok evaluated] at ran
  rcases kept : Run.note context.traced value mid with ⟨stop | _, noted⟩
  · rw [Run.bind_error kept] at ran
    cases ran
  rw [Run.bind_ok kept] at ran
  rcases addressed : evalIndex context fuel place target.index noted with ⟨stop | index, before⟩
  · rw [Run.bind_error addressed] at ran
    cases ran
  rw [Run.bind_ok addressed] at ran
  obtain rfl | ⟨picked, rfl⟩ :
      index = some none ∨ ∃ picked : Option Nat, index = picked.map some := by
    rcases index with _ | _ | i
    · exact .inr ⟨none, rfl⟩
    · exact .inl rfl
    · exact .inr ⟨some i, rfl⟩
  · cases ran
  · rw [Run.write_picked] at ran
    cases ran
    exact ⟨mid, noted, picked, before, rfl, kept, addressed, rfl⟩

/-- Without a tracer an assignment is its right side, its index and the write, in turn. -/
theorem evalExpr_assign (untraced : context.traced = false) (fuel : Nat) (place : σ)
    (target : VarRef) (expr : Expr) (machine : Machine) :
    evalExpr context (fuel + 2) place (.assign target expr) machine =
      (do
        let value ← evalExpr context fuel place expr
        let index ← evalIndex context fuel place target.index
        Run.write context.settings.caseSensitive target index value) machine := by
  rw [evalExpr_untraced untraced]
  unfold evalNode
  simp only [untraced]
  rfl

/-- Reading a variable, or an element of it, gives what the names have there and changes nothing. -/
theorem evalExpr_pick (untraced : context.traced = false) (more : Nat) (place : σ)
    (target : VarRef) {index : Option Nat} (bounded : ∀ i, index = some i → i + 1 ≤ twoPow 63)
    (machine : Machine) :
    evalExpr context (more + 5) place (.variable (target.pick index)) machine =
      (.ok ((machine.names.lookup context.settings.caseSensitive target).part (index.map some)),
        machine) := by
  have evaluated : evalIndex context (more + 3) place (target.pick index).index machine =
      (.ok (index.map some), machine) := by
    cases index with
    | none => rfl
    | some i =>
      have literal : evalExpr context (more + 2) place (.literal (.ofInt i)) machine =
          (.ok (.ofInt i), machine) :=
        evalExpr_untraced untraced _ place _ machine
      change (evalExpr context (more + 2) place (.literal (.ofInt i)) >>= _) machine = _
      rw [Run.bind_ok literal, indexOf_ofInt (bounded i rfl)]
      rfl
  rw [evalExpr_untraced untraced]
  unfold evalNode
  rw [Run.bind_ok evaluated, Run.read, Namespace.readAt_eq]
  rfl

/-- Once its right side and its index have values, an assignment is the write. -/
theorem evalExpr_assign_of_ok (untraced : context.traced = false) {fuel : Nat} {place : σ}
    {target : VarRef} {expr : Expr} {value : Value} {index : Option (Option Nat)}
    {machine mid before : Machine}
    (evaluated : evalExpr context fuel place expr machine = (.ok value, mid))
    (addressed : evalIndex context fuel place target.index mid = (.ok index, before)) :
    evalExpr context (fuel + 2) place (.assign target expr) machine =
      Run.write context.settings.caseSensitive target index value before := by
  rw [evalExpr_assign untraced, Run.bind_ok evaluated, Run.bind_ok addressed]

/-- Where its index fails, so does an assignment, and nothing is written. -/
theorem evalExpr_assign_of_error (untraced : context.traced = false) {fuel : Nat} {place : σ}
    {target : VarRef} {expr : Expr} {value : Value} {stop : Stop} {machine mid before : Machine}
    (evaluated : evalExpr context fuel place expr machine = (.ok value, mid))
    (failed : evalIndex context fuel place target.index mid = (.error stop, before)) :
    evalExpr context (fuel + 2) place (.assign target expr) machine = (.error stop, before) := by
  rw [evalExpr_assign untraced, Run.bind_ok evaluated, Run.bind_error failed]

theorem evalIndex_of_lacks {fuel : Nat} {place : σ} {index : Expr} {address : Value}
    {machine after : Machine}
    (evaluated : evalExpr context fuel place index machine = (.ok address, after))
    (lacks : address.LacksElement) :
    evalIndex context (fuel + 1) place (some index) machine = (.ok (some none), after) ∨
      ∃ error, evalIndex context (fuel + 1) place (some index) machine =
        (.error (.failed error), after) := by
  unfold evalIndex
  rw [Run.bind_ok evaluated]
  rcases indexOf_of_lacks lacks with nowhere | ⟨error, refused⟩
  · left
    rw [nowhere]
    rfl
  · right
    rw [refused]
    exact ⟨error, rfl⟩

/-- An assignment that is not traced stores the value of its right side and nothing else. It
succeeds exactly when its right side has a value and its index, where there is one, addresses an
element. The result is then that value. One entry of the level that is written to, which the name
can mean, has it; an element goes into the array that the variable was, grown by nulls where it was
too short; all other entries of the level, and all outer levels, are as they were after the right
side and the index. A read that follows, local or not, gives the value again, in whatever order
entries are listed by then, as long as the level has the name in one spelling; other spellings that
are not told apart are found where the level folds names or is a store that lists them. Where the
right side or the index fails or the index has no element, the assignment fails and leaves the
variables as they were at that point. -/
theorem assignment_exact (context : Context σ) (untraced : context.traced = false) (fuel : Nat)
    (place : σ) (target : VarRef) (expr : Expr) (machine : Machine) :
    let run := evalExpr context (fuel + 3) place (.assign target expr) machine
    let right := evalExpr context (fuel + 1) place expr machine
    let addressing := evalIndex context (fuel + 1) place target.index
    (∀ r after, run = (.ok r, after) → ∃ mid index before entry,
      right = (.ok r, mid) ∧ addressing mid = (.ok (index.map some), before) ∧
      Namespace.Stores context.settings.caseSensitive target index r entry before.names
        after.names ∧
      ∀ names', after.names.Relisted names' → after.names.Folded →
        after.names.SpelledOnce context.settings.caseSensitive target.name →
        ∀ spelling isLocal, foldName context.settings.caseSensitive spelling =
            foldName context.settings.caseSensitive target.name →
          spelling = target.name ∨ after.names.KnowsSpellings →
          ∀ more, evalExpr context (more + 5) place
              (.variable (VarRef.pick ⟨spelling, none, isLocal⟩ index))
              { after with names := names' } = (.ok r, { after with names := names' })) ∧
    (∀ value mid index before, right = (.ok value, mid) →
      addressing mid = (.ok (Option.map some index), before) →
      ∃ after, run = (.ok value, after)) ∧
    (∀ stop mid, right = (.error stop, mid) → run = (.error stop, mid)) ∧
    (∀ value mid stop before, right = (.ok value, mid) → addressing mid = (.error stop, before) →
      run = (.error stop, before)) ∧
    ∀ value mid index address before, right = (.ok value, mid) → target.index = some index →
      evalExpr context fuel place index mid = (.ok address, before) → address.LacksElement →
      ∃ error, run = (.error (.failed error), before) := by
  intro run right addressing
  refine ⟨fun r after ran => ?_, fun value mid index before evaluated addressed => ?_,
    fun stop mid failed => ?_, fun value mid stop before evaluated failed => ?_,
    fun value mid index address before evaluated indexed addressed lacks => ?_⟩
  · have node := (evalExpr_untraced untraced _ place _ machine).symm.trans ran
    obtain ⟨mid, noted, picked, before, evaluated, kept, addressed, rfl⟩ :=
      evalNode_assign_cases node
    rw [untraced] at kept
    cases kept
    have stores := before.names.stores_assigned context.settings.caseSensitive target picked r
    have bounded : ∀ i, picked = some i → i + 1 ≤ twoPow 63 := by
      rintro i rfl
      exact evalIndex_bound (congrArg Prod.fst addressed)
    refine ⟨mid, picked, before, _, evaluated, addressed, stores,
      fun names' relisted folded once spelling isLocal alike known more => ?_⟩
    rw [evalExpr_pick untraced more place _ bounded]
    dsimp only
    rw [Namespace.part_lookup_assigned relisted folded once alike known isLocal]
  · have wrote := evalExpr_assign_of_ok untraced evaluated addressed
    exact ⟨_, wrote.trans (Run.write_picked _ _ index _ _)⟩
  · exact (evalExpr_assign untraced _ place target expr machine).trans (Run.bind_error failed)
  · exact evalExpr_assign_of_error untraced evaluated failed
  · have looked := evalIndex_of_lacks addressed lacks
    rw [← indexed] at looked
    rcases looked with nowhere | ⟨error, refused⟩
    · obtain ⟨error, failed⟩ :=
        Run.write_nowhere context.settings.caseSensitive target value before
      exact ⟨error, (evalExpr_assign_of_ok untraced evaluated nowhere).trans failed⟩
    · exact ⟨error, evalExpr_assign_of_error untraced evaluated refused⟩

/-- A call that has no variable of its own yet, over a store of the host that has one. -/
def sheltered : Machine :=
  ⟨.frame (.empty false) (.root (.host ⟨Registry.empty.insert "Total" (.text "old"), true⟩)),
    [], []⟩

/-- A plain store with two variables, of which the first has the given value. -/
def plain (value : Value) : Namespace :=
  .root (.standard (((Variables.empty false).set "Total" value).set "x" .null))

/-- The same variables in the other order. -/
def plainRelisted (value : Value) : Namespace :=
  .root (.standard (((Variables.empty false).set "x" .null).set "Total" value))

/-- Inside a call, an element of a variable is written to a copy of it, under another spelling: the
text becomes the first item, a null fills the gap, and the store is as before. With a null for the
index the assignment fails and nothing is written. On a plain store, a variable that was written
under another spelling is read back under a third, when the store lists it last. -/
theorem assignment_exact_copy :
    let context : Context Scope :=
      ⟨{ Settings.standard 0 with caseSensitive := false }, false, Scope.lookup⟩
    let element (index : Value) : VarRef := ⟨"TOTAL", some (.literal index), false⟩
    let run (index : Value) :=
      evalExpr context 7 .empty (.assign (element index) (.literal (.boolean true))) sheltered
    let old := sheltered.names.lookup false (element (.ofInt 2))
    old.items.length = 1 ∧
      (∃ after entry stored, run (.ofInt 2) = (.ok (.boolean true), after) ∧
        after.names.innermost.get? entry = some stored ∧ old.PutAt 2 (.boolean true) stored ∧
        after.names.parent? = sheltered.names.parent?) ∧
      (∃ error, run .null = (.error (.failed error), sheltered)) ∧
      (plain (.boolean true)).Relisted (plainRelisted (.boolean true)) ∧
      evalExpr context 7 .empty (.assign ⟨"TOTAL", none, false⟩ (.literal (.boolean true)))
          ⟨plain .null, [], []⟩ = (.ok (.boolean true), ⟨plain (.boolean true), [], []⟩) ∧
      (evalExpr context 5 .empty (.variable ⟨"total", none, false⟩)
        ⟨plainRelisted (.boolean true), [], []⟩).1 = .ok (.boolean true) := by
  intro context element run old
  refine ⟨by decide +kernel, ?_, ?_, ?_⟩
  · obtain ⟨stored, succeeds, -⟩ := assignment_exact context rfl 4 .empty (element (.ofInt 2))
      (.literal (.boolean true)) sheltered
    have known : evalIndex context 5 .empty (some (.literal (.ofInt 2))) sheltered =
        (.ok (some (some 2)), sheltered) := rfl
    obtain ⟨after, ran⟩ := succeeds (.boolean true) sheltered (some 2) sheltered rfl known
    obtain ⟨mid, index, before, entry, evaluated, addressed, stores, -⟩ := stored _ _ ran
    cases evaluated
    cases index with
    | none => cases known.symm.trans addressed
    | some i =>
      cases known.symm.trans addressed
      obtain ⟨array, bound, put⟩ := stores.element 2 rfl
      exact ⟨after, entry, array, ran, bound, put, stores.outer⟩
  · obtain ⟨-, -, -, -, lacking⟩ := assignment_exact context rfl 4 .empty (element .null)
      (.literal (.boolean true)) sheltered
    exact lacking (.boolean true) sheltered (.literal .null) .null sheltered rfl rfl rfl (.inl rfl)
  · have relisted : (plain (.boolean true)).Relisted (plainRelisted (.boolean true)) :=
      .root ⟨rfl, List.Perm.swap _ _ _⟩
    have ran : evalExpr context 7 .empty
        (.assign ⟨"TOTAL", none, false⟩ (.literal (.boolean true))) ⟨plain .null, [], []⟩ =
          (.ok (.boolean true), ⟨plain (.boolean true), [], []⟩) := rfl
    have once : (plain (.boolean true)).SpelledOnce false "TOTAL" := by
      have apart : ∀ entry ∈ ["Total", "x"], Text.lower entry = Text.lower "TOTAL" →
          entry = "Total" := by
        decide +kernel
      intro _ _ entry among other member first second
      rw [apart entry among first, apart other member second]
    obtain ⟨stored, -⟩ := assignment_exact context rfl 4 .empty ⟨"TOTAL", none, false⟩
      (.literal (.boolean true)) ⟨plain .null, [], []⟩
    obtain ⟨mid, index, before, entry, evaluated, addressed, -, reads⟩ := stored _ _ ran
    cases index with
    | some i => cases addressed
    | none =>
      have read := reads _ relisted (fun folds => by cases folds) once "total" false
        (by decide +kernel) (.inr (.inl rfl)) 0
      exact ⟨relisted, ran, congrArg Prod.fst read⟩

/-- A store of the host with two spellings of one name. -/
def twofold (first second : Value) : Namespace :=
  .root (.host ⟨(Registry.empty.insert "AB" first).insert "Ab" second, true⟩)

/-- The same entries in the other order. -/
def twofoldRelisted (first second : Value) : Namespace :=
  .root (.host ⟨(Registry.empty.insert "Ab" second).insert "AB" first, true⟩)

/-- Where a store has two spellings of a name, what was assigned need not be read back. Under a
third spelling the one that comes first is read. Under that spelling itself the first one is
written, and the other one is read when the store lists it first by then. -/
theorem twofold_not_read_back :
    let context : Context Scope :=
      ⟨{ Settings.standard 0 with caseSensitive := false }, false, Scope.lookup⟩
    let write (name : String) := evalExpr context 7 .empty
      (.assign ⟨name, none, false⟩ (.literal (.ofInt 7))) ⟨twofold (.ofInt 1) (.ofInt 2), [], []⟩
    let read (names : Namespace) :=
      (evalExpr context 7 .empty (.variable ⟨"ab", none, false⟩) ⟨names, [], []⟩).1
    (write "Ab" = (.ok (.ofInt 7), ⟨twofold (.ofInt 1) (.ofInt 7), [], []⟩) ∧
      read (twofold (.ofInt 1) (.ofInt 7)) = .ok (.ofInt 1)) ∧
    write "ab" = (.ok (.ofInt 7), ⟨twofold (.ofInt 7) (.ofInt 2), [], []⟩) ∧
      (twofold (.ofInt 7) (.ofInt 2)).Relisted (twofoldRelisted (.ofInt 7) (.ofInt 2)) ∧
      read (twofoldRelisted (.ofInt 7) (.ofInt 2)) = .ok (.ofInt 2) :=
  ⟨⟨rfl, rfl⟩, rfl, .root ⟨rfl, List.Perm.swap _ _ _⟩, rfl⟩

end Machine
end RuleScript
