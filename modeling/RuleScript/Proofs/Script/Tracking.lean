import Mathlib
import RuleScript.Proofs.Script.Reader

/-!
The parser that asks for tokens reads what the parser on the stream reads. The functions call each
other with one step less, so this is proved for all of them at once, by induction on the steps.
-/
namespace RuleScript.Parser

/-- The two parsers agree wherever the function may be entered, and afterwards functions up to the
given rank may have been entered at the token that comes next. -/
def Follows {α : Type} (length : Nat) (routine : Routine) (after : Nat) (pull : Pull α)
    (read : TokenStream → Except Halt (α × TokenStream)) : Prop :=
  ∀ (reader : Reader) (stream : TokenStream), reader.At length routine.rank stream →
    Tracks length after (read stream) (pull reader)

/-- A token is taken and a phrase is read behind it. -/
theorem Follows.behind {α β : Type} {length middle bound after : Nat} {routine : Routine}
    {reader : Reader} {spanned : Spanned} {rest : TokenStream} {pull : Pull α}
    {read : TokenStream → Except Halt (α × TokenStream)}
    {k : α × TokenStream → Except Halt (β × TokenStream)} {f : α → Pull β}
    (follows : Follows length routine middle pull read)
    (stands : reader.At length bound (.next spanned rest))
    (breaks : ∀ error, Breaks error (read (.broken error)))
    (continued : ∀ value (last : Reader) (left : TokenStream), last.At length middle left →
      Tracks length after (k (value, left)) (f value last))
    (passes : ∀ value error, Breaks error (k (value, .broken error))) :
    Tracks length after (read rest >>= k)
      ((Pull.advance >>= fun _ => pull >>= f) reader) := by
  refine tracks_advance (k := fun rest => read rest >>= k) stands ?_ fun error => ?_
  · intro next rest stood
    exact (follows next rest (stood.weaken (Nat.zero_le _))).bind continued passes
  · exact (breaks error).bind fun value => passes value error

/-- Functions that read expressions agree with the given steps. -/
structure ExpressionsTrack (length : Nat) (caseSensitive : Bool) (steps : Nat) : Prop where
  expression : Follows length .expression 7 (Pull.expression caseSensitive steps)
    (expression caseSensitive steps)
  tier : ∀ level, Follows length (.tier level) (level.height + 1)
    (Pull.tier caseSensitive steps level) (tier caseSensitive steps level)
  operand : ∀ level, Follows length (.operand level) level.height
    (Pull.operand caseSensitive steps level) (operand caseSensitive steps level)
  chain : ∀ level left, Follows length (.chain level) (level.height + 1)
    (Pull.chain caseSensitive steps level left) (chain caseSensitive steps level left)
  unary : Follows length .unary 1 (Pull.unary caseSensitive steps) (unary caseSensitive steps)
  substitution : Follows length .substitution 1 (Pull.substitution caseSensitive steps)
    (substitution caseSensitive steps)
  primary : Follows length .primary 1 (Pull.primary caseSensitive steps)
    (primary caseSensitive steps)
  index : Follows length .index 1 (Pull.index caseSensitive steps) (index caseSensitive steps)
  arguments : Follows length .arguments 0 (Pull.arguments caseSensitive steps)
    (arguments caseSensitive steps)
  argumentsFrom : Follows length .argumentsFrom 0 (Pull.argumentsFrom caseSensitive steps)
    (argumentsFrom caseSensitive steps)

section Expressions

variable {length : Nat} {caseSensitive : Bool} {steps : Nat}

theorem expressionsTrack_zero : ExpressionsTrack length caseSensitive 0 := by
  constructor <;> intros <;> intro reader stream stands <;>
    exact .exhausted .exhausted stands.steady.closed

theorem breaks_expression (error : ScanError) :
    Breaks error (expression caseSensitive steps (.broken error)) :=
  .of_reads ((expressionsBlame caseSensitive steps).expression _)
    (expressionsSound caseSensitive steps).expression

theorem breaks_operand (level : Tier) (error : ScanError) :
    Breaks error (operand caseSensitive steps level (.broken error)) :=
  .of_reads ((expressionsBlame caseSensitive steps).operand level _)
    ((expressionsSound caseSensitive steps).operand level)

theorem breaks_unary (error : ScanError) :
    Breaks error (unary caseSensitive steps (.broken error)) :=
  .of_reads ((expressionsBlame caseSensitive steps).unary _)
    (expressionsSound caseSensitive steps).unary

theorem breaks_substitution (error : ScanError) :
    Breaks error (substitution caseSensitive steps (.broken error)) :=
  .of_reads ((expressionsBlame caseSensitive steps).substitution _)
    (expressionsSound caseSensitive steps).substitution

theorem breaks_index (error : ScanError) :
    Breaks error (index caseSensitive steps (.broken error)) :=
  .of_reads ((expressionsBlame caseSensitive steps).index _)
    (expressionsSound caseSensitive steps).index

theorem breaks_arguments (error : ScanError) :
    Breaks error (arguments caseSensitive steps (.broken error)) :=
  .of_reads ((expressionsBlame caseSensitive steps).arguments _)
    (expressionsSound caseSensitive steps).arguments

theorem breaks_argumentsFrom (error : ScanError) :
    Breaks error (argumentsFrom caseSensitive steps (.broken error)) :=
  .of_reads ((expressionsBlame caseSensitive steps).argumentsFrom _)
    (expressionsSound caseSensitive steps).argumentsFrom

theorem breaks_chain (level : Tier) (left : Expr) (error : ScanError) :
    Breaks error (chain caseSensitive steps level left (.broken error)) := by
  cases steps with
  | zero => exact .exhausted
  | succ steps => exact .passed left

theorem expression_tracks (ih : ExpressionsTrack length caseSensitive steps) :
    Follows length .expression 7 (Pull.expression caseSensitive (steps + 1))
      (expression caseSensitive (steps + 1)) := by
  intro reader stream stands
  unfold expression Pull.expression
  have placed : reader.current.alone.place = stream.place := by
    rw [← stands.stands, Reader.stream]
    cases reader.current <;> rfl
  refine (ih.tier .logical _ stream (stands.enter.weaken (by decide))).bind ?_ fun _ _ => .passed _
  intro left after rest next
  rcases next.held with ⟨place, rfl, held⟩ | ⟨token, start, stop, behind, rfl, held⟩
  · rw [Pull.look_bind, held]
    exact tracks_pure left next
  · rw [Pull.look_bind, held]
    cases token with
    | symbol symbol =>
      cases symbol with
      | assign =>
        cases left with
        | «variable» target =>
          exact ih.expression.behind next breaks_expression
            (fun _ _ _ read => tracks_pure _ read) fun _ _ => .passed _
        | _ =>
          dsimp only
          rw [placed]
          exact tracks_failed _ next.steady
      | _ => exact tracks_pure left next
    | _ => exact tracks_pure left next

theorem tier_tracks (ih : ExpressionsTrack length caseSensitive steps) (level : Tier) :
    Follows length (.tier level) (level.height + 1) (Pull.tier caseSensitive (steps + 1) level)
      (tier caseSensitive (steps + 1) level) := by
  intro reader stream stands
  unfold tier Pull.tier
  have heights := level.height_le
  refine (ih.operand level _ stream (stands.enter.weaken ?_)).bind ?_ ?_
  · simp only [Routine.rank]
    omega
  · -- behind an operand no chain of this tier was entered yet, only those of tighter ones
    intro left after rest next
    exact ih.chain level left after rest next
  · intro left error
    exact breaks_chain level left error

theorem operand_tracks (ih : ExpressionsTrack length caseSensitive steps) (level : Tier) :
    Follows length (.operand level) level.height (Pull.operand caseSensitive (steps + 1) level)
      (operand caseSensitive (steps + 1) level) := by
  intro reader stream stands
  unfold operand Pull.operand
  refine tracks_enter stands fun inside next => ?_
  have heights := level.height_le
  cases below : level.tighter? with
  | some inner =>
    have lower := Tier.height_tighter below
    rw [lower]
    refine ih.tier inner inside stream (next.weaken ?_)
    simp only [Routine.rank]
    omega
  | none =>
    have tightest : level = .bitwise := by cases level <;> first | rfl | cases below
    subst tightest
    exact ih.unary inside stream next

theorem chain_tracks (ih : ExpressionsTrack length caseSensitive steps) (level : Tier)
    (left : Expr) :
    Follows length (.chain level) (level.height + 1)
      (Pull.chain caseSensitive (steps + 1) level left)
      (chain caseSensitive (steps + 1) level left) := by
  intro reader stream stands
  unfold chain Pull.chain
  refine tracks_enter stands fun inside next => ?_
  rcases next.held with ⟨place, rfl, held⟩ | ⟨token, start, stop, behind, rfl, held⟩
  · rw [Pull.look_bind, held]
    exact tracks_pure left next
  · rw [Pull.look_bind, held]
    cases token with
    | symbol symbol =>
      dsimp only
      cases level.operator? symbol with
      | none => exact tracks_pure left next
      | some op =>
        exact (ih.operand level).behind next (breaks_operand level)
          (fun right last after read => ih.chain level (.binary op left right) last after read)
          fun right error => breaks_chain level (.binary op left right) error
    | _ => exact tracks_pure left next

theorem unary_tracks (ih : ExpressionsTrack length caseSensitive steps) :
    Follows length .unary 1 (Pull.unary caseSensitive (steps + 1))
      (unary caseSensitive (steps + 1)) := by
  intro reader stream stands
  unfold unary Pull.unary
  refine tracks_enter stands fun inside next => ?_
  rcases next.held with ⟨place, rfl, held⟩ | ⟨token, start, stop, behind, rfl, held⟩
  · rw [Pull.look_bind, held]
    exact ih.substitution _ _ next
  · rw [Pull.look_bind, held]
    cases token with
    | symbol symbol =>
      cases symbol with
      | bang =>
        exact ih.unary.behind next breaks_unary
          (fun _ _ _ read => tracks_pure _ read) fun _ _ => .passed _
      | _ => exact ih.substitution _ _ next
    | _ => exact ih.substitution _ _ next

theorem substitution_tracks (ih : ExpressionsTrack length caseSensitive steps) :
    Follows length .substitution 1 (Pull.substitution caseSensitive (steps + 1))
      (substitution caseSensitive (steps + 1)) := by
  intro reader stream stands
  unfold substitution Pull.substitution
  refine (ih.primary _ stream stands.enter).bind ?_ fun _ _ => .passed _
  intro first after rest next
  rcases next.held with ⟨place, rfl, held⟩ | ⟨token, start, stop, behind, rfl, held⟩
  · rw [Pull.look_bind, held]
    exact tracks_pure first next
  · rw [Pull.look_bind, held]
    cases token with
    | symbol symbol =>
      cases symbol with
      | question =>
        exact ih.substitution.behind next breaks_substitution
          (fun _ _ _ read => tracks_pure _ read)
          fun _ _ => .passed _
      | _ => exact tracks_pure first next
    | _ => exact tracks_pure first next

theorem index_tracks (ih : ExpressionsTrack length caseSensitive steps) :
    Follows length .index 1 (Pull.index caseSensitive (steps + 1))
      (index caseSensitive (steps + 1)) := by
  intro reader stream stands
  unfold index Pull.index
  refine tracks_enter stands fun inside next => ?_
  rcases next.held with ⟨place, rfl, held⟩ | ⟨token, start, stop, behind, rfl, held⟩
  · rw [Pull.look_bind, held]
    exact tracks_pure none next
  · rw [Pull.look_bind, held]
    cases token with
    | symbol symbol =>
      cases symbol with
      | openBracket =>
        refine ih.expression.behind next breaks_expression ?_ fun _ _ => breaks_expect
        intro inner after rest read
        exact tracks_expect read (fun _ _ closed => tracks_pure _ (closed.weaken (by decide)))
          fun _ => .passed _
      | _ => exact tracks_pure none next
    | _ => exact tracks_pure none next

theorem arguments_tracks (ih : ExpressionsTrack length caseSensitive steps) :
    Follows length .arguments 0 (Pull.arguments caseSensitive (steps + 1))
      (arguments caseSensitive (steps + 1)) := by
  intro reader stream stands
  unfold arguments Pull.arguments
  refine tracks_enter stands fun inside next => ?_
  rcases next.held with ⟨place, rfl, held⟩ | ⟨token, start, stop, behind, rfl, held⟩
  · rw [Pull.look_bind, held]
    exact ih.argumentsFrom _ _ next
  · rw [Pull.look_bind, held]
    cases token with
    | symbol symbol =>
      cases symbol with
      | closeParen =>
        exact tracks_token [] next
      | _ => exact ih.argumentsFrom _ _ next
    | _ => exact ih.argumentsFrom _ _ next

theorem argumentsFrom_tracks (ih : ExpressionsTrack length caseSensitive steps) :
    Follows length .argumentsFrom 0 (Pull.argumentsFrom caseSensitive (steps + 1))
      (argumentsFrom caseSensitive (steps + 1)) := by
  intro reader stream stands
  unfold argumentsFrom Pull.argumentsFrom
  refine (ih.expression _ stream stands.enter).bind ?_ fun _ _ => .failed
  intro arg after rest next
  rcases next.held with ⟨place, rfl, held⟩ | ⟨token, start, stop, behind, rfl, held⟩
  · rw [Pull.look_bind, held]
    exact tracks_unexpected .missingParenthesis next
  · rw [Pull.look_bind, held]
    cases token with
    | symbol symbol =>
      cases symbol with
      | comma =>
        exact ih.argumentsFrom.behind next breaks_argumentsFrom
          (fun _ _ _ read => tracks_pure _ read) fun _ _ => .passed _
      | closeParen =>
        exact tracks_token [arg] next
      | _ => exact tracks_unexpected _ next
    | _ => exact tracks_unexpected .missingComma next

/-- A name that opens a primary phrase, and what follows it. -/
theorem named_tracks (ih : ExpressionsTrack length caseSensitive steps) {name : String}
    {start : Position} {stop : Nat} {reader : Reader} {rest : TokenStream}
    (stands : reader.At length Routine.primary.rank (.next ⟨.name name, start, stop⟩ rest)) :
    Tracks length 1 (primary caseSensitive (steps + 1) (.next ⟨.name name, start, stop⟩ rest))
      (Pull.primary caseSensitive (steps + 1) reader) := by
  unfold primary Pull.primary
  refine tracks_enter stands fun inside next => ?_
  rw [Pull.look_bind, next.token.1]
  dsimp only
  cases constant? name with
  | some n => exact tracks_token _ next
  | none =>
    dsimp only
    rw [Pull.advance_bind]
    rcases advance_cases next with ⟨after, advanced, stood⟩ | ⟨error, after, advanced, rfl, closed⟩
    · rw [advanced, Pull.andThen]
      have indexed : Tracks length 1
          (index caseSensitive steps rest >>= fun read =>
            .ok (Expr.variable ⟨name, read.1, false⟩, read.2))
          ((Pull.index caseSensitive steps >>= fun index =>
            pure (.variable ⟨name, index, false⟩)) after) :=
        (ih.index after rest stood).bind (fun _ _ _ read => tracks_pure _ read) fun _ _ => .passed _
      rcases stood.held with ⟨place, rfl, held⟩ | ⟨token, start, stop, behind, rfl, held⟩
      · rw [Pull.look_bind, held]
        exact indexed
      · rw [Pull.look_bind, held]
        cases token with
        | symbol symbol =>
          cases symbol with
          | openParen =>
            exact ih.arguments.behind stood breaks_arguments
              (fun _ _ _ read => tracks_pure _ (read.weaken (Nat.zero_le _))) fun _ _ => .passed _
          | _ => exact indexed
        | _ => exact indexed
    · rw [advanced]
      refine Breaks.tracks ?_ closed
      exact (breaks_index error).bind fun _ => .passed _

/-- A variable behind the keyword that makes it local. -/
theorem localVariable_tracks (ih : ExpressionsTrack length caseSensitive steps)
    {start : Position} {stop : Nat} {reader : Reader} {rest : TokenStream}
    (stands : reader.At length Routine.primary.rank (.next ⟨.keyword .varWord, start, stop⟩ rest)) :
    Tracks length 1
      (primary caseSensitive (steps + 1) (.next ⟨.keyword .varWord, start, stop⟩ rest))
      (Pull.primary caseSensitive (steps + 1) reader) := by
  unfold primary Pull.primary
  refine tracks_enter stands fun inside next => ?_
  rw [Pull.look_bind, next.token.1]
  dsimp only
  rw [Pull.advance_bind]
  rcases advance_cases next with ⟨after, advanced, stood⟩ | ⟨error, after, advanced, rfl, closed⟩
  · rw [advanced, Pull.andThen]
    rcases stood.held with ⟨place, rfl, held⟩ | ⟨token, start, stop, behind, rfl, held⟩
    · rw [Pull.look_bind, held]
      exact tracks_unexpected _ stood
    · rw [Pull.look_bind, held]
      cases token with
      | name name =>
        exact ih.index.behind stood breaks_index (fun _ _ _ read => tracks_pure _ read)
          fun _ _ => .passed _
      | _ => exact tracks_unexpected _ stood
  · rw [advanced]
    exact Breaks.failed.tracks closed

theorem primary_tracks (ih : ExpressionsTrack length caseSensitive steps) :
    Follows length .primary 1 (Pull.primary caseSensitive (steps + 1))
      (primary caseSensitive (steps + 1)) := by
  intro reader stream stands
  rcases stands.held with ⟨place, rfl, held⟩ | ⟨token, start, stop, behind, rfl, held⟩
  · unfold primary Pull.primary
    refine tracks_enter stands fun inside next => ?_
    rw [Pull.look_bind, next.finish]
    exact tracks_failed _ next.steady
  · cases token with
    | name name => exact named_tracks ih stands
    | keyword word =>
      cases word with
      | varWord => exact localVariable_tracks ih stands
      | _ =>
        unfold primary Pull.primary
        refine tracks_enter stands fun inside next => ?_
        rw [Pull.look_bind, next.token.1]
        exact tracks_unexpected _ next
    | symbol symbol =>
      unfold primary Pull.primary
      refine tracks_enter stands fun inside next => ?_
      rw [Pull.look_bind, next.token.1]
      cases symbol with
      | minus => exact tracks_negativeNumber next
      | openParen =>
        refine ih.expression.behind next breaks_expression ?_ fun _ _ => breaks_expect
        intro inner after rest read
        exact tracks_expect read (fun _ _ closed => tracks_pure _ (closed.weaken (by decide)))
          fun _ => .passed _
      | _ => exact tracks_unexpected _ next
    | _ =>
      unfold primary Pull.primary
      refine tracks_enter stands fun inside next => ?_
      rw [Pull.look_bind, next.token.1]
      exact tracks_token _ next

theorem expressionsTrack (length : Nat) (caseSensitive : Bool) (steps : Nat) :
    ExpressionsTrack length caseSensitive steps := by
  induction steps with
  | zero => exact expressionsTrack_zero
  | succ steps ih =>
    exact ⟨expression_tracks ih, tier_tracks ih, operand_tracks ih, chain_tracks ih,
      unary_tracks ih, substitution_tracks ih, primary_tracks ih, index_tracks ih,
      arguments_tracks ih, argumentsFrom_tracks ih⟩

end Expressions

theorem condition_tracks (length : Nat) (caseSensitive : Bool) (steps : Nat) :
    Follows length .condition 0 (Pull.condition caseSensitive steps)
      (condition caseSensitive steps) := by
  intro reader stream stands
  unfold condition Pull.condition
  refine tracks_enter stands fun inside next => ?_
  refine tracks_expect next ?_ fun error => ?_
  · intro after rest opened
    refine ((expressionsTrack length caseSensitive steps).expression after rest
      (opened.weaken (Nat.zero_le _))).bind ?_ fun _ _ => breaks_expect
    intro inner last left read
    exact tracks_expect read (fun _ _ closed => tracks_pure _ closed) fun _ => .passed _
  · exact (breaks_expression error).bind fun _ => breaks_expect

/-- Each round of the loop takes two tokens of those that are left, so there are rounds enough. -/
theorem parameters_tracks {length rounds : Nat} {reader : Reader} {stream : TokenStream}
    (stands : reader.At length Routine.parameters.rank stream) (enough : stream.length < rounds) :
    Tracks length 0 (parameters stream) (Pull.parameters rounds reader) := by
  induction rounds generalizing reader stream with
  | zero => omega
  | succ rounds ih =>
    unfold Pull.parameters
    refine tracks_enter stands fun inside next => ?_
    rcases next.held with ⟨place, rfl, held⟩ | ⟨token, start, stop, behind, rfl, held⟩
    · rw [Pull.look_bind, held]
      exact tracks_unexpected .functionDeclaration next
    · rw [Pull.look_bind, held]
      cases token with
      | name param =>
        dsimp only
        rw [Pull.advance_bind]
        rcases advance_cases next with
          ⟨after, advanced, stood⟩ | ⟨error, after, advanced, rfl, closed⟩
        · rw [advanced, Pull.andThen, Pull.look_bind]
          rcases stood.held with ⟨place, rfl, held⟩ | ⟨token, start, stop, further, rfl, held⟩
          · rw [held]
            exact tracks_pure [param] stood
          · rw [held]
            cases token with
            | symbol symbol =>
              cases symbol with
              | comma =>
                dsimp only
                rw [Pull.advance_bind]
                rcases advance_cases stood with
                  ⟨last, advanced, reached⟩ | ⟨error, last, advanced, rfl, closed⟩
                · rw [advanced, Pull.andThen]
                  simp only [TokenStream.length] at enough
                  exact (ih (reached.weaken (Nat.zero_le _)) (by omega)).bind
                    (fun _ _ _ read => tracks_pure _ read) fun _ _ => .passed _
                · rw [advanced]
                  exact Breaks.failed.tracks closed
              | _ => exact tracks_pure [param] stood
            | _ => exact tracks_pure [param] stood
        · rw [advanced]
          exact (Breaks.passed [param]).tracks closed
      | _ => exact tracks_unexpected .functionDeclaration next

theorem parametersOrNone_tracks {length : Nat} {reader : Reader} {stream : TokenStream}
    (stands : reader.At length 0 stream) :
    Tracks length 0 (parametersOrNone stream) (Pull.parametersOrNone reader) := by
  have listed : Tracks length 0 (parameters stream)
      (Pull.parameters (reader.cursor.text.length + 2) reader) := by
    refine parameters_tracks (stands.weaken (Nat.zero_le _)) ?_
    rw [← stands.stands, Reader.stream]
    have short := TokenStream.length_scan_le reader.cursor
    split <;> simp only [TokenStream.length] <;> omega
  unfold parametersOrNone Pull.parametersOrNone
  rcases stands.held with ⟨place, rfl, held⟩ | ⟨token, start, stop, behind, rfl, held⟩
  · rw [Pull.look_bind, held]
    exact listed
  · rw [Pull.look_bind, held]
    cases token with
    | symbol symbol =>
      cases symbol with
      | closeParen => exact tracks_pure [] stands
      | _ => exact listed
    | _ => exact listed

theorem functionHead_tracks {length bound : Nat} {reader : Reader} {stream : TokenStream}
    (stands : reader.At length bound stream) :
    Tracks length 0 (functionHead stream) (Pull.functionHead reader) := by
  unfold functionHead Pull.functionHead
  rcases stands.held with ⟨place, rfl, held⟩ | ⟨token, start, stop, behind, rfl, held⟩
  · rw [Pull.look_bind, held]
    exact tracks_unexpected .functionDeclaration stands
  · rw [Pull.look_bind, held]
    cases token with
    | name name =>
      refine tracks_advance (k := fun rest => expect .openParen .functionDeclaration rest >>= _)
        stands ?_ fun _ => breaks_expect
      intro after rest next
      refine tracks_expect next ?_ fun _ => .failed
      intro after rest opened
      refine (parametersOrNone_tracks opened).bind ?_ fun _ _ => breaks_expect
      intro params after rest listed
      refine tracks_expect listed ?_ fun _ => breaks_expect
      intro after rest closed
      exact tracks_expect closed (fun _ _ braced => tracks_pure _ braced) fun _ => .passed _
    | _ => exact tracks_unexpected .functionDeclaration stands

/-- Functions that read statements agree with the given steps. -/
structure StatementsTrack (length : Nat) (caseSensitive : Bool) (steps : Nat) : Prop where
  block : ∀ allowed inBraces, Follows length .block 8
    (Pull.block caseSensitive allowed inBraces steps) (block caseSensitive allowed inBraces steps)
  statement : Follows length .statement 7 (Pull.statement caseSensitive steps)
    (statement caseSensitive steps)
  branch : Follows length .branch 7 (Pull.branch caseSensitive steps) (branch caseSensitive steps)
  braced : Follows length .braced 0 (Pull.braced caseSensitive steps) (braced caseSensitive steps)
  function : Follows length .function 0 (Pull.function caseSensitive steps)
    (function caseSensitive steps)

section Statements

variable {length : Nat} {caseSensitive : Bool} {steps : Nat}

theorem statementsTrack_zero : StatementsTrack length caseSensitive 0 := by
  constructor <;> intros <;> intro reader stream stands <;>
    exact .exhausted .exhausted stands.steady.closed

theorem breaks_block (allowed inBraces : Bool) (error : ScanError) :
    Breaks error (block caseSensitive allowed inBraces steps (.broken error)) :=
  .of_reads ((statementsBlame caseSensitive steps).block allowed inBraces _)
    ((statementsSound caseSensitive steps).block allowed inBraces)

theorem breaks_branch (error : ScanError) :
    Breaks error (branch caseSensitive steps (.broken error)) :=
  .of_reads ((statementsBlame caseSensitive steps).branch _)
    (statementsSound caseSensitive steps).branch

theorem breaks_braced (error : ScanError) :
    Breaks error (braced caseSensitive steps (.broken error)) :=
  .of_reads ((statementsBlame caseSensitive steps).braced _)
    (statementsSound caseSensitive steps).braced

theorem breaks_function (error : ScanError) :
    Breaks error (function caseSensitive steps (.broken error)) :=
  .of_reads ((statementsBlame caseSensitive steps).function _)
    (statementsSound caseSensitive steps).function

theorem endsStatement_held {reader : Reader} {stream : TokenStream} {bound : Nat}
    (stands : reader.At length bound stream) (inBraces : Bool) :
    Pull.endsStatement inBraces reader.current = endsStatement inBraces stream := by
  rcases stands.held with ⟨place, rfl, held⟩ | ⟨token, start, stop, behind, rfl, held⟩
  · rw [held]
    rfl
  · rw [held]
    cases token with
    | symbol symbol => cases symbol <;> rfl
    | _ => rfl

/-- A statement and the block that goes on behind it. -/
theorem following_tracks (ih : StatementsTrack length caseSensitive steps)
    (allowed inBraces : Bool) {reader : Reader} {stream : TokenStream}
    (stands : reader.At length Routine.statement.rank stream) :
    Tracks length 8
      (statement caseSensitive steps stream >>= fun read =>
        if read.1.isBraced || endsStatement inBraces read.2 then
          block caseSensitive allowed inBraces steps read.2 >>= fun others =>
            .ok (others.1.addStatement read.1, others.2)
        else unexpected .unexpected read.2)
      ((Pull.statement caseSensitive steps >>= fun first =>
        Pull.look >>= fun held =>
          if first.isBraced || Pull.endsStatement inBraces held then
            Pull.block caseSensitive allowed inBraces steps >>= fun others =>
              pure (others.addStatement first)
          else Pull.unexpected .unexpected) reader) := by
  refine (ih.statement reader stream stands).bind ?_ ?_
  · intro first after rest next
    rw [Pull.look_bind, endsStatement_held next]
    dsimp only
    split
    · exact (ih.block allowed inBraces after rest next).bind
        (fun _ _ _ read => tracks_pure _ read) fun _ _ => .passed _
    · exact tracks_unexpected _ next
  · intro first error
    dsimp only
    split
    · exact (breaks_block allowed inBraces error).bind fun _ => .passed _
    · exact .failed

theorem block_tracks (ih : StatementsTrack length caseSensitive steps) (allowed inBraces : Bool) :
    Follows length .block 8 (Pull.block caseSensitive allowed inBraces (steps + 1))
      (block caseSensitive allowed inBraces (steps + 1)) := by
  intro reader stream stands
  unfold block Pull.block
  refine tracks_enter stands fun inside next => ?_
  rcases next.held with ⟨place, rfl, held⟩ | ⟨token, start, stop, behind, rfl, held⟩
  · rw [Pull.look_bind, held]
    exact tracks_pure Block.empty next
  · rw [Pull.look_bind, held]
    cases token with
    | symbol symbol =>
      cases symbol with
      | semicolon =>
        exact tracks_advance next
          (fun after rest taken => ih.block allowed inBraces after rest
            (taken.weaken (Nat.zero_le _))) (breaks_block allowed inBraces)
      | closeBrace =>
        cases inBraces with
        | true => exact tracks_pure Block.empty next
        | false => exact following_tracks ih allowed false next
      | _ => cases inBraces <;> exact following_tracks ih allowed _ next
    | keyword word =>
      cases word with
      | functionWord =>
        cases allowed with
        | true =>
          refine ih.function.behind next breaks_function ?_
            fun _ error => (breaks_block true inBraces error).bind fun _ => .passed _
          intro declared after rest read
          exact (ih.block true inBraces after rest (read.weaken (Nat.zero_le _))).bind
            (fun _ _ _ others => tracks_pure _ others) fun _ _ => .passed _
        | false => exact tracks_unexpected .functionDeclaration next
      | _ => cases inBraces <;> exact following_tracks ih allowed _ next
    | _ => cases inBraces <;> exact following_tracks ih allowed _ next

theorem statement_tracks (ih : StatementsTrack length caseSensitive steps) :
    Follows length .statement 7 (Pull.statement caseSensitive (steps + 1))
      (statement caseSensitive (steps + 1)) := by
  intro reader stream stands
  unfold statement Pull.statement
  refine tracks_enter stands fun inside next => ?_
  have valued : Tracks length 7
      (expression caseSensitive steps stream >>= fun read => .ok (.expression read.1, read.2))
      ((Pull.expression caseSensitive steps >>= fun value =>
        pure (Statement.expression value)) inside) :=
    ((expressionsTrack length caseSensitive steps).expression inside stream
      (next.weaken (by decide))).bind (fun _ _ _ read => tracks_pure _ read) fun _ _ => .passed _
  rcases next.held with ⟨place, rfl, held⟩ | ⟨token, start, stop, behind, rfl, held⟩
  · rw [Pull.look_bind, held]
    exact valued
  · rw [Pull.look_bind, held]
    cases token with
    | keyword word =>
      cases word with
      | ifWord =>
        exact tracks_advance next
          (fun after rest taken => ih.branch after rest (taken.weaken (Nat.zero_le _)))
          breaks_branch
      | whileWord =>
        refine (condition_tracks length caseSensitive steps).behind next (fun _ => .failed) ?_
          fun _ error => (breaks_braced error).bind fun _ => .passed _
        intro test after rest tested
        exact (ih.braced after rest (tested.weaken (Nat.zero_le _))).bind
          (fun _ _ _ read => tracks_pure _ (read.weaken (Nat.zero_le _))) fun _ _ => .passed _
      | _ => exact valued
    | _ => exact valued

theorem branch_tracks (ih : StatementsTrack length caseSensitive steps) :
    Follows length .branch 7 (Pull.branch caseSensitive (steps + 1))
      (branch caseSensitive (steps + 1)) := by
  intro reader stream stands
  unfold branch Pull.branch
  refine tracks_enter stands fun inside next => ?_
  refine (condition_tracks length caseSensitive steps inside stream next).bind ?_
    fun _ error => (breaks_braced error).bind fun _ => .passed _
  intro test after rest tested
  refine (ih.braced after rest (tested.weaken (Nat.zero_le _))).bind ?_ fun _ _ => .passed _
  intro yes after rest read
  have done := read.weaken (Nat.zero_le 7)
  rcases read.held with ⟨place, rfl, held⟩ | ⟨token, start, stop, behind, rfl, held⟩
  · rw [Pull.look_bind, held]
    exact tracks_pure _ done
  · rw [Pull.look_bind, held]
    cases token with
    | keyword word =>
      cases word with
      | elseWord =>
        dsimp only
        rw [Pull.advance_bind]
        rcases advance_cases read with
          ⟨last, advanced, taken⟩ | ⟨error, last, advanced, rfl, closed⟩
        · have otherwise : Tracks length 7
              (braced caseSensitive steps behind >>= fun read =>
                .ok (Statement.branch test yes (some read.1), read.2))
              ((Pull.braced caseSensitive steps >>= fun no =>
                pure (.branch test yes (some no))) last) :=
            (ih.braced last behind (taken.weaken (Nat.zero_le _))).bind
              (fun _ _ _ read => tracks_pure _ (read.weaken (Nat.zero_le _))) fun _ _ => .passed _
          rw [advanced, Pull.andThen, Pull.look_bind]
          rcases taken.held with ⟨place, rfl, held⟩ | ⟨token, start, stop, further, rfl, held⟩
          · rw [held]
            exact otherwise
          · rw [held]
            cases token with
            | keyword word =>
              cases word with
              | ifWord =>
                exact ih.branch.behind taken breaks_branch (fun _ _ _ read => tracks_pure _ read)
                  fun _ _ => .passed _
              | _ => exact otherwise
            | _ => exact otherwise
        · rw [advanced]
          refine Breaks.tracks ?_ closed
          exact (breaks_braced error).bind fun _ => .passed _
      | _ => exact tracks_pure _ done
    | _ => exact tracks_pure _ done

theorem braced_tracks (ih : StatementsTrack length caseSensitive steps) :
    Follows length .braced 0 (Pull.braced caseSensitive (steps + 1))
      (braced caseSensitive (steps + 1)) := by
  intro reader stream stands
  unfold braced Pull.braced
  refine tracks_enter stands fun inside next => ?_
  refine tracks_expect next ?_
    fun error => (breaks_block false true error).bind fun _ => breaks_expect
  intro after rest opened
  refine (ih.block false true after rest (opened.weaken (Nat.zero_le _))).bind ?_
    fun _ _ => breaks_expect
  intro inner last left read
  exact tracks_expect read (fun _ _ closed => tracks_pure _ closed) fun _ => .passed _

theorem function_tracks (ih : StatementsTrack length caseSensitive steps) :
    Follows length .function 0 (Pull.function caseSensitive (steps + 1))
      (function caseSensitive (steps + 1)) := by
  intro reader stream stands
  unfold function Pull.function
  refine tracks_enter stands fun inside next => ?_
  refine (functionHead_tracks next).bind ?_
    fun _ error => (breaks_block true true error).bind fun _ => breaks_expect
  intro head after rest headed
  refine (ih.block true true after rest (headed.weaken (Nat.zero_le _))).bind ?_
    fun _ _ => breaks_expect
  intro body last left read
  exact tracks_expect read (fun _ _ closed => tracks_pure _ closed) fun _ => .passed _

theorem statementsTrack (length : Nat) (caseSensitive : Bool) (steps : Nat) :
    StatementsTrack length caseSensitive steps := by
  induction steps with
  | zero => exact statementsTrack_zero
  | succ steps ih =>
    exact ⟨block_tracks ih, statement_tracks ih, branch_tracks ih, braced_tracks ih,
      function_tracks ih⟩

end Statements

end RuleScript.Parser
