import Mathlib
import RuleScript.Proofs.Script.Stability
import RuleScript.Proofs.Script.Tracking

/-!
Scanning and reading come to an end on every source, well formed or not. The scanner takes a
character with each token, so the parser asks for at most two tokens more than there are characters:
for the end of the source, and once more when the end is taken. Between two visits to the same
function the parser takes a token, and steps linear in the number of tokens are enough for it.
-/
namespace RuleScript

namespace Cursor

/-- A source is scanned to its end or to the first fault: how often a token is asked for, and what
comes of it. -/
inductive Scanned : Cursor → Nat → Except ScanError (List Spanned × Position) → Prop
  | finish {cursor : Cursor} {place : Position} (read : cursor.next = .finish place) :
      Scanned cursor 1 (.ok ([], place))
  | broken {cursor : Cursor} {error : ScanError} (read : cursor.next = .broken error) :
      Scanned cursor 1 (.error error)
  | token {cursor rest : Cursor} {spanned : Spanned} {requests : Nat}
      {outcome : Except ScanError (List Spanned × Position)}
      (read : cursor.next = .token spanned rest) (further : Scanned rest requests outcome) :
      Scanned cursor (requests + 1) (outcome.map fun others => (spanned :: others.1, others.2))

theorem scanned (cursor : Cursor) :
    cursor.Scanned ((TokenStream.scan cursor).length + 1) (TokenStream.scan cursor).tokens := by
  fun_induction TokenStream.scan cursor with
  | case1 cursor place read => exact .finish read
  | case2 cursor error read => exact .broken read
  | case3 cursor spanned rest read further => exact .token read further

theorem next_consumes {cursor rest : Cursor} {spanned : Spanned}
    (read : cursor.next = .token spanned rest) :
    ∃ taken, taken ≠ [] ∧ cursor.text = taken ++ rest.text := by
  obtain ⟨gap, chars, takes⟩ := next_token read
  refine ⟨gap ++ chars, ?_, by rw [List.append_assoc, takes.text]⟩
  exact List.append_ne_nil_of_right_ne_nil _ (List.length_pos_iff.1 takes.length_pos)

end Cursor

namespace Parser

theorem Visit.After.taken_lt {later earlier : Visit} (after : later.After earlier)
    (same : later.routine = earlier.routine) : earlier.taken < later.taken := by
  unfold Visit.After at after
  rw [same] at after
  omega

/-- The books at the end of a run, and its outcome unless the steps ran out. -/
structure Settles {α : Type} (length : Nat) (outcome : Except Halt α)
    (run : Except Halt α × Reader) : Prop where
  frugal : run.2.requests ≤ length + 2
  ordered : run.2.visits.Pairwise Visit.After
  agrees : Finishes outcome → run.1 = outcome

section Source

variable {length bound : Nat} {reader : Reader}

theorem Reader.Closed.settles {α : Type} {outcome result : Except Halt α}
    (closed : reader.Closed length) (agrees : Finishes outcome → result = outcome) :
    Settles length outcome (result, reader) :=
  ⟨Nat.le_succ_of_le closed.frugal, closed.ordered, agrees⟩

/-- Behind the end of a source there is the end again. -/
theorem advance_finish {place : Position} (stands : reader.At length bound (.finish place)) :
    ∃ after, Pull.advance reader = (.ok (), after) ∧ after.requests ≤ length + 2 ∧
      after.visits = reader.visits := by
  have frugal := stands.steady.frugal
  rw [stands.finish, Held.ends] at frugal
  unfold Pull.advance
  rw [stands.steady.unpeeked, Pull.load_eq, Pull.request, stands.steady.ended place stands.finish]
  refine ⟨_, rfl, ?_, rfl⟩
  dsimp only [Pull.andThen]
  omega

theorem source_settles (caseSensitive : Bool) (steps : Nat) (source : String) :
    Settles source.length (whole (fun _ => block caseSensitive true false steps) (.ofSource source))
      (Pull.source caseSensitive steps (.ofSource source)) := by
  change Settles source.length (block caseSensitive true false steps (.ofSource source) >>= _)
    (Pull.andThen _ (Pull.load (.ofSource source)))
  have whole : (Reader.ofSource source).requests + (Reader.ofSource source).cursor.text.length ≤
      source.length := by
    rw [← String.length_toList]
    exact Nat.le_of_eq (Nat.zero_add _)
  rcases load_cases rfl whole List.Pairwise.nil with
    ⟨after, loaded, steady, stood, unvisited⟩ | ⟨error, after, loaded, broken, closed⟩
  · have stands : after.At source.length Routine.block.rank (.ofSource source) := by
      refine ⟨steady, fun visit among => ?_, stood⟩
      rw [unvisited] at among
      cases among
    have tracks := (statementsTrack source.length caseSensitive steps).block true false _ _ stands
    rw [loaded]
    change Settles source.length _
      (Pull.andThen _ (Pull.block caseSensitive true false steps after))
    -- what the two parsers did with the block is all that matters from here on
    generalize Pull.block caseSensitive true false steps after = pulled at tracks ⊢
    generalize block caseSensitive true false steps (.ofSource source) = first at tracks ⊢
    cases tracks with
    | @read last rest body stands =>
      rw [Pull.andThen, Pull.look_bind]
      rcases stands.held with ⟨place, rfl, held⟩ | ⟨token, start, stop, behind, rfl, held⟩
      · obtain ⟨final, advanced, frugal, visits⟩ := advance_finish stands
        rw [held]
        dsimp only
        rw [Pull.advance_bind, advanced]
        refine ⟨frugal, ?_, fun _ => rfl⟩
        change final.visits.Pairwise _
        rw [visits]
        exact stands.steady.ordered
      · rw [held]
        change Settles source.length _
          (.error (.failed (.found .unexpected last.current.alone)), last)
        rw [held]
        exact stands.steady.closed.settles fun _ => rfl
    | broken body error closed => exact closed.settles fun _ => rfl
    | failed error closed => exact closed.settles fun _ => rfl
    | exhausted halt closed => exact closed.settles fun finishes => absurd rfl finishes
  · have breaks : Breaks error (block caseSensitive true false steps (.ofSource source)) := by
      rw [TokenStream.ofSource, show TokenStream.scan (.ofSource source) = _ from broken]
      exact breaks_block true false error
    rw [loaded]
    generalize block caseSensitive true false steps (.ofSource source) = first at breaks ⊢
    cases breaks with
    | failed => exact closed.settles fun _ => rfl
    | exhausted => exact closed.settles fun finishes => absurd rfl finishes
    | passed body => exact closed.settles fun _ => rfl

end Source

theorem program_settles (settings : Settings) (source : String) (steps : Nat) :
    Settles (effectiveSource settings source).length
      (whole (fun _ => block settings.caseSensitive true false steps)
        (.ofSource (effectiveSource settings source)))
      (Pull.program settings source steps) :=
  source_settles settings.caseSensitive steps (effectiveSource settings source)

/-- A script is read alike with all counts of steps from 32 for each token and 32 more on. -/
theorem program_parses (settings : Settings) (source : String) {steps : Nat}
    (enough : 32 * ((TokenStream.ofSource (effectiveSource settings source)).length + 1) ≤ steps) :
    (Pull.program settings source steps).1 =
      ((Program.parse settings source).map Program.body).mapError .failed := by
  have same : whole (fun _ => block settings.caseSensitive true false steps)
      (.ofSource (effectiveSource settings source)) =
      whole (block settings.caseSensitive true false)
        (.ofSource (effectiveSource settings source)) := by
    unfold whole
    beta_reduce
    rw [block_steps settings.caseSensitive true false _ enough]
  have finishes := whole_finishes (block_finishes_whole settings.caseSensitive true false
    (.ofSource (effectiveSource settings source)))
  have settles := program_settles settings source steps
  rw [same] at settles
  refine (settles.agrees finishes).trans ?_
  unfold Program.parse Block.parse
  dsimp only
  generalize whole (block settings.caseSensitive true false) _ = result at finishes ⊢
  cases result with
  | ok body => rfl
  | error halt =>
    cases halt with
    | failed error => rfl
    | exhausted => exact absurd rfl finishes

end Parser

/-- Scanning and reading terminate. Each token takes characters off the source; scanning asks for no
more than one token beyond the characters, and reading for no more than two; between two visits to
one function a token is taken; and steps linear in the tokens that are left are enough for every
function, so that with them the script is read as `Program.parse` reads it. -/
theorem Program.reading_terminates (settings : Settings) (source : String) :
    (∀ (cursor rest : Cursor) (spanned : Spanned), cursor.next = .token spanned rest →
      ∃ taken, taken ≠ [] ∧ cursor.text = taken ++ rest.text) ∧
    (∃ requests, requests ≤ source.length + 1 ∧
      (Cursor.ofSource source).Scanned requests (TokenStream.ofSource source).tokens) ∧
    (∀ steps, (Parser.Pull.program settings source steps).2.requests ≤
      (effectiveSource settings source).length + 2) ∧
    (∀ steps, (Parser.Pull.program settings source steps).2.visits.Pairwise
      fun later earlier => later.routine = earlier.routine → earlier.taken < later.taken) ∧
    (∀ steps, Parser.ExpressionsFinish settings.caseSensitive steps ∧
      Parser.StatementsFinish settings.caseSensitive steps) ∧
    ∀ steps, 32 * ((TokenStream.ofSource (effectiveSource settings source)).length + 1) ≤ steps →
      (Parser.Pull.program settings source steps).1 =
        ((Program.parse settings source).map Program.body).mapError .failed := by
  refine ⟨fun _ _ _ read => Cursor.next_consumes read, ?_, fun steps => ?_, fun steps => ?_,
    fun steps => ⟨Parser.expressionsFinish _ steps, Parser.statementsFinish _ steps⟩,
    fun steps enough => Parser.program_parses settings source enough⟩
  · refine ⟨_, ?_, Cursor.scanned _⟩
    have whole : (Cursor.ofSource source).text.length = source.length := String.length_toList
    have short := TokenStream.length_scan_le (.ofSource source)
    rw [whole] at short
    exact Nat.succ_le_succ short
  · exact (Parser.program_settles settings source steps).frugal
  · exact (Parser.program_settles settings source steps).ordered.imp
      fun after same => after.taken_lt same

/-- A source that breaks off inside two parentheses: a primary phrase is looked for before each of
its tokens but the second, and at its end. -/
theorem Program.reading_terminates_unclosed :
    (∃ spanned rest, (Cursor.ofSource "f((").next = .token spanned rest ∧
      ∃ taken, taken ≠ [] ∧ "f((".toList = taken ++ rest.text) ∧
    (Parser.Pull.program (.standard 0) "f((" 128).2.requests = 4 ∧
    ((Parser.Pull.program (.standard 0) "f((" 128).2.visits.filter
      fun visit => visit.routine = .primary).map Parser.Visit.taken = [3, 2, 0] ∧
    (Parser.Pull.program (.standard 0) "f((" 128).1 =
      .error (.failed ⟨.incomplete, 1, 4, none⟩) := by
  have read : (Cursor.ofSource "f((").next =
      .token ⟨.name "f", ⟨1, 1, 0⟩, 1⟩ ⟨['(', '('], ⟨1, 2, 1⟩⟩ := by
    cbv
  have enough : 32 * ((TokenStream.ofSource (effectiveSource (.standard 0) "f((")).length + 1) ≤
      128 := by
    decide +kernel
  have shown : effectiveSource (.standard 0) "f((" = "f((" := by decide +kernel
  have unread : Block.parse true "f((" = .error ⟨.incomplete, 1, 4, none⟩ := by
    cbv
  have failed : Program.parse (.standard 0) "f((" = .error ⟨.incomplete, 1, 4, none⟩ := by
    unfold Program.parse
    simp only [shown]
    rw [show (Settings.standard 0).caseSensitive = true from rfl, unread]
    rfl
  obtain ⟨consumes, -, -, -, -, parses⟩ := Program.reading_terminates (.standard 0) "f(("
  refine ⟨⟨_, _, read, consumes _ _ _ read⟩, by decide +kernel, by decide +kernel, ?_⟩
  rw [parses 128 enough, failed]
  rfl

/-- The bound is reached: the end is asked for twice. -/
example : (Parser.Pull.program (.standard 0) "x" 64).2.requests = "x".length + 2 := by
  decide +kernel

end RuleScript
