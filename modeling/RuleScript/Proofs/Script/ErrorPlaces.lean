import Mathlib
import RuleScript.Proofs.Script.Readable
import RuleScript.Proofs.Token.Segmentation

/-!
Where an error of a script is placed. The parser takes the place of an error from its stream: from a
token, from the end, or from the fault that the stream breaks off at. So every error arises from
the stream (`ParseError.Arises`), whatever function of the parser found it, and its line and column
are those of an offset in the source.
-/
namespace RuleScript

/-- The errors that a stream gives rise to: the fault that it breaks off at, and errors at one of its
tokens or at its end. -/
inductive ParseError.Arises : TokenStream → ParseError → Prop
  | broken (error : ScanError) : Arises (.broken error) (.ofScan error)
  | finish (place : Position) (kind : ParseErrorKind) (detail : Option String) :
      Arises (.finish place) (.ofKind kind place detail)
  | token (spanned : Spanned) (rest : TokenStream) (kind : ParseErrorKind)
      (detail : Option String) : Arises (.next spanned rest) (.ofKind kind spanned.start detail)
  | later {rest : TokenStream} {error : ParseError} (spanned : Spanned)
      (arises : Arises rest error) : Arises (.next spanned rest) error

namespace ParseError

theorem arises_found (kind : ParseErrorKind) (stream : TokenStream) :
    Arises stream (found kind stream) := by
  cases stream with
  | finish place => exact .finish place _ _
  | broken error => exact .broken error
  | next spanned rest => exact .token spanned rest _ _

theorem Arises.prepend {rest : TokenStream} {error : ParseError} (arises : Arises rest error)
    (tokens : List Spanned) : Arises (rest.prepend tokens) error := by
  induction tokens with
  | nil => exact arises
  | cons first others further => exact .later first further

end ParseError

namespace Parser

/-- When the outcome is a failure, it arises from the stream. -/
def Blames {α : Type} (stream : TokenStream) (outcome : Except Halt α) : Prop :=
  ∀ error, outcome = .error (.failed error) → ParseError.Arises stream error

section Blames

variable {α β : Type} {stream rest : TokenStream}

theorem blames_ok (value : α) : Blames stream (.ok value) := nofun

theorem blames_unexpected (kind : ParseErrorKind) (stream : TokenStream) :
    Blames stream (unexpected kind stream : Except Halt α) := by
  intro error failed
  cases failed
  exact ParseError.arises_found kind stream

theorem blames_failed {error : ParseError} (arises : ParseError.Arises stream error) :
    Blames stream (.error (.failed error) : Except Halt α) := by
  intro other failed
  cases failed
  exact arises

theorem Blames.next {outcome : Except Halt α} (blames : Blames rest outcome) (spanned : Spanned) :
    Blames (.next spanned rest) outcome :=
  fun error failed => .later spanned (blames error failed)

theorem Blames.bind {first : Except Halt α} {next : α → Except Halt β}
    (blames : Blames stream first)
    (continued : ∀ value, first = .ok value → Blames stream (next value)) :
    Blames stream (first >>= next) := by
  cases first with
  | ok value => exact continued value rfl
  | error halt =>
    intro error failed
    cases failed
    exact blames error rfl

/-- What reads on behind a phrase blames a part of the stream. -/
theorem Blames.andThen {read : TokenStream → Except Halt (α × TokenStream)}
    {stands : α → List Spanned → Prop} {next : α × TokenStream → Except Halt β}
    (blames : Blames stream (read stream)) (reads : Reads read stands)
    (continued : ∀ tree rest, Blames rest (next (tree, rest))) :
    Blames stream (read stream >>= next) := by
  refine blames.bind ?_
  rintro ⟨tree, rest⟩ success
  obtain ⟨tokens, rfl, -⟩ := reads success
  exact fun error failed => (continued tree rest error failed).prepend tokens

theorem blames_expect (symbol : Symbol) (kind : ParseErrorKind) (stream : TokenStream)
    {next : TokenStream → Except Halt β} (continued : ∀ rest, Blames rest (next rest)) :
    Blames stream (expect symbol kind stream >>= next) := by
  have first : Blames stream (expect symbol kind stream) := by
    unfold expect
    split
    · split
      · exact blames_ok _
      · exact blames_unexpected kind _
    · exact blames_unexpected kind _
  refine first.bind fun rest success => ?_
  obtain ⟨start, stop, rfl⟩ := expect_ok success
  exact (continued rest).next _

end Blames

theorem blames_negativeNumber (minus : Spanned) (rest : TokenStream) :
    Blames (.next minus rest) (negativeNumber minus rest) := by
  unfold negativeNumber
  dsimp only
  split
  · exact blames_failed (.later minus (.broken _))
  · exact blames_failed (.token minus _ _ _)
  · split
    · split
      · exact blames_ok _
      · exact blames_failed (.token minus _ _ _)
    · exact blames_failed (.token minus _ _ _)

theorem blames_parameters (stream : TokenStream) : Blames stream (parameters stream) := by
  fun_induction parameters stream with
  | case1 param start stop comma commaStop rest further =>
    exact ((further.bind fun _ _ => blames_ok _).next _).next _
  | case2 => exact blames_ok _
  | case3 => exact blames_unexpected _ _

theorem blames_functionHead (stream : TokenStream) : Blames stream (functionHead stream) := by
  unfold functionHead
  split
  · refine (blames_expect _ _ _ fun afterOpening => ?_).next _
    have listed : Blames afterOpening (parametersOrNone afterOpening) := by
      unfold parametersOrNone
      split
      · exact blames_ok _
      · exact blames_parameters _
    exact listed.andThen parametersOrNone_sound fun params rest =>
      blames_expect _ _ _ fun _ => blames_expect _ _ _ fun _ => blames_ok _
  · exact blames_unexpected _ _

/-- The functions that read expressions blame their streams, with the given steps. -/
structure ExpressionsBlame (caseSensitive : Bool) (steps : Nat) : Prop where
  expression : ∀ stream, Blames stream (expression caseSensitive steps stream)
  tier : ∀ level stream, Blames stream (tier caseSensitive steps level stream)
  operand : ∀ level stream, Blames stream (operand caseSensitive steps level stream)
  chain : ∀ level left stream, Blames stream (chain caseSensitive steps level left stream)
  unary : ∀ stream, Blames stream (unary caseSensitive steps stream)
  substitution : ∀ stream, Blames stream (substitution caseSensitive steps stream)
  primary : ∀ stream, Blames stream (primary caseSensitive steps stream)
  index : ∀ stream, Blames stream (index caseSensitive steps stream)
  arguments : ∀ stream, Blames stream (arguments caseSensitive steps stream)
  argumentsFrom : ∀ stream, Blames stream (argumentsFrom caseSensitive steps stream)

section Expressions

variable {caseSensitive : Bool} {steps : Nat}

theorem expressionsBlame_zero : ExpressionsBlame caseSensitive 0 := by
  constructor <;> intros <;> intro error failed <;> cases failed

/-- Behind a tier there is its first token, where an assignment is refused. -/
theorem arises_at_tier {level : Tier} {stream rest : TokenStream} {left : Expr}
    (read : tier caseSensitive steps level stream = .ok (left, rest)) (kind : ParseErrorKind)
    (detail : Option String) : ParseError.Arises stream (.ofKind kind stream.place detail) := by
  have shorter := ((expressionsSound caseSensitive steps).tier level).shortens
    (fun derived => derived.length_pos rfl) read
  cases stream with
  | next spanned others => exact .token spanned others kind detail
  | finish place => exact absurd shorter (Nat.not_lt_zero _)
  | broken error => exact absurd shorter (Nat.not_lt_zero _)

theorem expression_blames (ih : ExpressionsBlame caseSensitive steps) (stream : TokenStream) :
    Blames stream (expression caseSensitive (steps + 1) stream) := by
  unfold expression
  refine (ih.tier .logical stream).bind ?_
  rintro ⟨left, rest⟩ read
  obtain ⟨tokens, whole, -⟩ := (expressionsSound caseSensitive steps).tier .logical read
  dsimp only
  split
  · next start stop afterSign =>
    split
    · intro error failed
      have assigned : Blames afterSign (expression caseSensitive steps afterSign) := ih.expression _
      have arises := (assigned.bind fun _ _ => blames_ok _) error failed
      rw [whole]
      exact (ParseError.Arises.later _ arises).prepend tokens
    · exact blames_failed (arises_at_tier read _ _)
    · exact blames_failed (arises_at_tier read _ _)
  · exact blames_ok _

theorem tier_blames (ih : ExpressionsBlame caseSensitive steps) (level : Tier)
    (stream : TokenStream) : Blames stream (tier caseSensitive (steps + 1) level stream) := by
  unfold tier
  exact (ih.operand level stream).andThen ((expressionsSound caseSensitive steps).operand level)
    fun left rest => ih.chain level left rest

theorem operand_blames (ih : ExpressionsBlame caseSensitive steps) (level : Tier)
    (stream : TokenStream) : Blames stream (operand caseSensitive (steps + 1) level stream) := by
  unfold operand
  split
  · exact ih.tier _ stream
  · exact ih.unary stream

theorem chain_blames (ih : ExpressionsBlame caseSensitive steps) (level : Tier) (left : Expr)
    (stream : TokenStream) :
    Blames stream (chain caseSensitive (steps + 1) level left stream) := by
  unfold chain
  split
  · split
    · refine Blames.next ?_ _
      exact (ih.operand level _).andThen ((expressionsSound caseSensitive steps).operand level)
        fun right rest => ih.chain level _ rest
    · exact blames_ok _
  · exact blames_ok _

theorem unary_blames (ih : ExpressionsBlame caseSensitive steps) (stream : TokenStream) :
    Blames stream (unary caseSensitive (steps + 1) stream) := by
  unfold unary
  split
  · exact ((ih.unary _).bind fun _ _ => blames_ok _).next _
  · exact ih.substitution stream

theorem substitution_blames (ih : ExpressionsBlame caseSensitive steps) (stream : TokenStream) :
    Blames stream (substitution caseSensitive (steps + 1) stream) := by
  unfold substitution
  refine (ih.primary stream).andThen (expressionsSound caseSensitive steps).primary
    fun primary rest => ?_
  dsimp only
  split
  · exact ((ih.substitution _).bind fun _ _ => blames_ok _).next _
  · exact blames_ok _

theorem index_blames (ih : ExpressionsBlame caseSensitive steps) (stream : TokenStream) :
    Blames stream (index caseSensitive (steps + 1) stream) := by
  unfold index
  split
  · refine Blames.next ?_ _
    exact (ih.expression _).andThen (expressionsSound caseSensitive steps).expression
      fun inner rest => blames_expect _ _ _ fun _ => blames_ok _
  · exact blames_ok _

theorem arguments_blames (ih : ExpressionsBlame caseSensitive steps) (stream : TokenStream) :
    Blames stream (arguments caseSensitive (steps + 1) stream) := by
  unfold arguments
  split
  · exact blames_ok _
  · exact ih.argumentsFrom stream

theorem argumentsFrom_blames (ih : ExpressionsBlame caseSensitive steps) (stream : TokenStream) :
    Blames stream (argumentsFrom caseSensitive (steps + 1) stream) := by
  unfold argumentsFrom
  refine (ih.expression stream).andThen (expressionsSound caseSensitive steps).expression
    fun arg rest => ?_
  dsimp only
  split
  · exact ((ih.argumentsFrom _).bind fun _ _ => blames_ok _).next _
  · exact blames_ok _
  all_goals exact blames_unexpected _ _

theorem primary_blames (ih : ExpressionsBlame caseSensitive steps) (stream : TokenStream) :
    Blames stream (primary caseSensitive (steps + 1) stream) := by
  unfold primary
  split
  · exact blames_failed (.broken _)
  · exact blames_failed (.finish _ _ _)
  · next spanned rest =>
    split
    · exact blames_ok _
    · exact blames_ok _
    · exact blames_ok _
    · exact blames_ok _
    · exact blames_negativeNumber spanned rest
    · refine Blames.next ?_ _
      exact (ih.expression rest).andThen (expressionsSound caseSensitive steps).expression
        fun inner rest => blames_expect _ _ _ fun _ => blames_ok _
    · refine Blames.next ?_ _
      split
      · exact ((ih.index _).bind fun _ _ => blames_ok _).next _
      · exact blames_unexpected _ _
    · split
      · exact blames_ok _
      · refine Blames.next ?_ _
        split
        · exact ((ih.arguments _).bind fun _ _ => blames_ok _).next _
        · exact (ih.index _).bind fun _ _ => blames_ok _
    · exact blames_unexpected _ _

theorem expressionsBlame (caseSensitive : Bool) (steps : Nat) :
    ExpressionsBlame caseSensitive steps := by
  induction steps with
  | zero => exact expressionsBlame_zero
  | succ steps ih =>
    exact ⟨expression_blames ih, tier_blames ih, operand_blames ih, chain_blames ih,
      unary_blames ih, substitution_blames ih, primary_blames ih, index_blames ih,
      arguments_blames ih, argumentsFrom_blames ih⟩

end Expressions

theorem condition_blames (caseSensitive : Bool) (steps : Nat) (stream : TokenStream) :
    Blames stream (condition caseSensitive steps stream) := by
  unfold condition
  refine blames_expect _ _ _ fun rest => ?_
  exact ((expressionsBlame caseSensitive steps).expression rest).andThen
    (expressionsSound caseSensitive steps).expression
    fun inner rest => blames_expect _ _ _ fun _ => blames_ok _

/-- The functions that read statements blame their streams, with the given steps. -/
structure StatementsBlame (caseSensitive : Bool) (steps : Nat) : Prop where
  block : ∀ allowed inBraces stream,
    Blames stream (block caseSensitive allowed inBraces steps stream)
  statement : ∀ stream, Blames stream (statement caseSensitive steps stream)
  branch : ∀ stream, Blames stream (branch caseSensitive steps stream)
  braced : ∀ stream, Blames stream (braced caseSensitive steps stream)
  function : ∀ stream, Blames stream (function caseSensitive steps stream)

section Statements

variable {caseSensitive : Bool} {steps : Nat}

theorem statementsBlame_zero : StatementsBlame caseSensitive 0 := by
  constructor <;> intros <;> intro error failed <;> cases failed

theorem block_blames (ih : StatementsBlame caseSensitive steps) (allowed inBraces : Bool)
    (stream : TokenStream) :
    Blames stream (block caseSensitive allowed inBraces (steps + 1) stream) := by
  unfold block
  split
  · exact blames_ok _
  · exact (ih.block allowed inBraces _).next _
  · split
    · refine Blames.next ?_ _
      exact (ih.function _).andThen (statementsSound caseSensitive steps).function
        fun declared rest => (ih.block allowed inBraces rest).bind fun _ _ => blames_ok _
    · exact blames_unexpected _ _
  · split
    · exact blames_ok _
    · refine (ih.statement stream).andThen (statementsSound caseSensitive steps).statement
        fun first rest => ?_
      dsimp only
      split
      · exact (ih.block allowed inBraces rest).bind fun _ _ => blames_ok _
      · exact blames_unexpected _ _

theorem statement_blames (ih : StatementsBlame caseSensitive steps) (stream : TokenStream) :
    Blames stream (statement caseSensitive (steps + 1) stream) := by
  unfold statement
  split
  · exact (ih.branch _).next _
  · refine Blames.next ?_ _
    exact (condition_blames caseSensitive steps _).andThen (condition_sound caseSensitive steps)
      fun test rest => (ih.braced rest).bind fun _ _ => blames_ok _
  · exact ((expressionsBlame caseSensitive steps).expression stream).bind fun _ _ => blames_ok _

theorem branch_blames (ih : StatementsBlame caseSensitive steps) (stream : TokenStream) :
    Blames stream (branch caseSensitive (steps + 1) stream) := by
  unfold branch
  refine (condition_blames caseSensitive steps stream).andThen (condition_sound caseSensitive steps)
    fun test afterTest => ?_
  refine (ih.braced afterTest).andThen (statementsSound caseSensitive steps).braced
    fun yes afterYes => ?_
  dsimp only
  split
  · exact (((ih.branch _).bind fun _ _ => blames_ok _).next _).next _
  · exact ((ih.braced _).bind fun _ _ => blames_ok _).next _
  · exact blames_ok _

theorem braced_blames (ih : StatementsBlame caseSensitive steps) (stream : TokenStream) :
    Blames stream (braced caseSensitive (steps + 1) stream) := by
  unfold braced
  refine blames_expect _ _ _ fun rest => ?_
  exact (ih.block false true rest).andThen ((statementsSound caseSensitive steps).block false true)
    fun inner rest => blames_expect _ _ _ fun _ => blames_ok _

theorem function_blames (ih : StatementsBlame caseSensitive steps) (stream : TokenStream) :
    Blames stream (function caseSensitive (steps + 1) stream) := by
  unfold function
  refine (blames_functionHead stream).andThen functionHead_sound fun head rest => ?_
  exact (ih.block true true rest).andThen ((statementsSound caseSensitive steps).block true true)
    fun body rest => blames_expect _ _ _ fun _ => blames_ok _

theorem statementsBlame (caseSensitive : Bool) (steps : Nat) :
    StatementsBlame caseSensitive steps := by
  induction steps with
  | zero => exact statementsBlame_zero
  | succ steps ih =>
    exact ⟨block_blames ih, statement_blames ih, branch_blames ih, braced_blames ih,
      function_blames ih⟩

end Statements

theorem whole_blames {α : Type} {phrase : Nat → TokenStream → Except Halt (α × TokenStream)}
    {stands : α → List Spanned → Prop} {stream : TokenStream}
    (blames : Blames stream (phrase (steps stream) stream))
    (reads : Reads (phrase (steps stream)) stands) : Blames stream (whole phrase stream) := by
  unfold whole
  refine blames.andThen reads fun tree rest => ?_
  dsimp only
  split
  · exact blames_ok _
  · exact blames_unexpected _ _

theorem whole_finishes {α : Type} {phrase : Nat → TokenStream → Except Halt (α × TokenStream)}
    {stream : TokenStream} (finished : Finishes (phrase (steps stream) stream)) :
    Finishes (whole phrase stream) := by
  unfold whole
  refine finished.bind fun read _ => ?_
  dsimp only
  split
  · exact finishes_ok _
  · exact finishes_unexpected _ _

theorem outcome_arises {α : Type} {stream : TokenStream} {result : Except Halt α}
    (blames : Blames stream result) (finished : Finishes result) {error : ParseError}
    (failed : outcome stream result = .error error) : ParseError.Arises stream error := by
  cases result with
  | ok tree => cases failed
  | error halt =>
    cases halt with
    | exhausted => exact absurd rfl finished
    | failed _ =>
      cases failed
      exact blames error rfl

end Parser

theorem Expr.arises_of_parse {caseSensitive : Bool} {source : String} {error : ParseError}
    (failed : Expr.parse caseSensitive source = .error error) :
    ParseError.Arises (TokenStream.ofSource source) error :=
  Parser.outcome_arises
    (Parser.whole_blames ((Parser.expressionsBlame caseSensitive _).expression _)
      (Parser.expressionsSound caseSensitive _).expression)
    (Parser.whole_finishes (Parser.expression_finishes_whole caseSensitive _)) failed

theorem Block.arises_of_parse {caseSensitive : Bool} {source : String} {error : ParseError}
    (failed : Block.parse caseSensitive source = .error error) :
    ParseError.Arises (TokenStream.ofSource source) error :=
  Parser.outcome_arises
    (Parser.whole_blames ((Parser.statementsBlame caseSensitive _).block true false _)
      ((Parser.statementsSound caseSensitive _).block true false))
    (Parser.whole_finishes (Parser.block_finishes_whole caseSensitive true false _)) failed

theorem Program.arises_of_parse {settings : Settings} {source : String} {error : ParseError}
    (failed : Program.parse settings source = .error error) :
    ParseError.Arises (TokenStream.ofSource (effectiveSource settings source)) error := by
  unfold Program.parse at failed
  cases parsed : Block.parse settings.caseSensitive (effectiveSource settings source) with
  | ok body =>
    simp only [parsed] at failed
    cases failed
  | error found =>
    simp only [parsed] at failed
    cases failed
    exact Block.arises_of_parse parsed

namespace ParseError

/-- An error has the line and column of a place that its stream tells of. -/
theorem Arises.place {stream : TokenStream} {error : ParseError} (arises : Arises stream error) :
    ∃ place ∈ stream.places, error.line = place.line ∧ error.column = place.column := by
  induction arises with
  | broken error =>
    refine ⟨error.place, List.mem_cons_self, ?_⟩
    unfold ofScan
    split <;> exact ⟨rfl, rfl⟩
  | finish place kind detail => exact ⟨place, List.mem_cons_self, rfl, rfl⟩
  | token spanned rest kind detail => exact ⟨spanned.start, List.mem_cons_self, rfl, rfl⟩
  | later spanned _ further =>
    obtain ⟨place, among, same⟩ := further
    exact ⟨place, List.mem_cons_of_mem _ among, same⟩

/-- The line and column of the error are those of some offset in the source or of its end. -/
def IsPlacedIn (error : ParseError) (source : String) : Prop :=
  ∃ offset ≤ source.length,
    error.line = (Position.ofOffset source.toList offset).line ∧
      error.column = (Position.ofOffset source.toList offset).column

theorem Arises.isPlacedIn {source : String} {error : ParseError}
    (arises : Arises (TokenStream.ofSource source) error) : error.IsPlacedIn source := by
  obtain ⟨place, among, line, column⟩ := arises.place
  obtain ⟨inside, same⟩ := TokenStream.places_of_source among
  rw [same] at line column
  exact ⟨place.offset, inside, line, column⟩

end ParseError

/-- Scanning is a faithful segmentation with correct positions. -/
theorem scanning_faithful (settings : Settings) (source : String) :
    (∀ tokens finish, (TokenStream.ofSource source).tokens = .ok (tokens, finish) →
      Segments source.toList tokens finish) ∧
    (∀ place ∈ (TokenStream.ofSource source).places,
      place.offset ≤ source.length ∧ place = .ofOffset source.toList place.offset) ∧
    (∀ error, Expr.parse settings.caseSensitive source = .error error →
      error.IsPlacedIn source) ∧
    (∀ error, Program.parse settings source = .error error →
      error.IsPlacedIn (effectiveSource settings source)) :=
  ⟨fun _ _ cut => TokenStream.segments_of_tokens cut,
    fun _ among => TokenStream.places_of_source among,
    fun _ failed => (Expr.arises_of_parse failed).isPlacedIn,
    fun _ failed => (Program.arises_of_parse failed).isPlacedIn⟩

/-- A source of three lines, the last break inside a literal, and an error on the second line of a
source that breaks off. -/
theorem scanning_faithful_three_lines :
    (∃ tokens finish, (TokenStream.ofSource "a<=\n \"\\n\n\";").tokens = .ok (tokens, finish) ∧
      tokens.map Spanned.stop = [1, 3, 10, 11] ∧ finish = ⟨3, 3, 11⟩ ∧
      Segments "a<=\n \"\\n\n\";".toList tokens finish) ∧
    ∃ error, Program.parse (.standard 0) "f(1\n;" = .error error ∧
      error.line = 2 ∧ error.column = 1 ∧ error.IsPlacedIn "f(1\n;" := by
  have cut : (TokenStream.ofSource "a<=\n \"\\n\n\";").tokens =
      .ok ([⟨.name "a", ⟨1, 1, 0⟩, 1⟩, ⟨.symbol .lessEqual, ⟨1, 2, 1⟩, 3⟩,
        ⟨.text "\n\n", ⟨2, 2, 5⟩, 10⟩, ⟨.symbol .semicolon, ⟨3, 2, 10⟩, 11⟩], ⟨3, 3, 11⟩) := by
    cbv
  have shown : effectiveSource (.standard 0) "f(1\n;" = "f(1\n;" := by decide +kernel
  have unread : Block.parse true "f(1\n;" =
      .error ⟨.missingParenthesis, 2, 1, some "found ';'"⟩ := by
    cbv
  have failed : Program.parse (.standard 0) "f(1\n;" =
      .error ⟨.missingParenthesis, 2, 1, some "found ';'"⟩ := by
    unfold Program.parse
    simp only [shown]
    rw [show (Settings.standard 0).caseSensitive = true from rfl, unread]
    rfl
  have placed := (scanning_faithful (.standard 0) "f(1\n;").2.2.2 _ failed
  rw [shown] at placed
  exact ⟨⟨_, _, cut, rfl, rfl, (scanning_faithful (.standard 0) _).1 _ _ cut⟩,
    _, failed, rfl, rfl, placed⟩

end RuleScript
