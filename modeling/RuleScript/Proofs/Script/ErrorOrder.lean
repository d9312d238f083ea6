import RuleScript.Proofs.Script.ErrorPlaces

/-!
The first error wins. A source can be wrong twice: it can hold characters that are no token, and its
tokens can be no script. The parser takes tokens one at a time, so it reports the fault of the
source only if it got there; an error of the script that it reports instead stands at a token, and
every token starts before the fault. A source without a fault gives the parser nothing but tokens
and the end, however often it asks.
-/
namespace RuleScript

namespace Position

/-- The first place is on an earlier line, or further to the left on the same one. -/
def Before (first second : Position) : Prop :=
  first.line < second.line ∨ first.line = second.line ∧ first.column < second.column

theorem Before.trans {first second third : Position} (earlier : first.Before second)
    (later : second.Before third) : first.Before third := by
  unfold Before at earlier later ⊢
  omega

theorem before_step (place : Position) (c : Char) : place.Before (place.step c) := by
  unfold step Before
  split <;> simp

/-- Reading on leads to a later place, unless nothing is read. -/
theorem past_cases (place : Position) (text : List Char) :
    text = [] ∨ place.Before (place.past text) := by
  induction text generalizing place with
  | nil => exact .inl rfl
  | cons c rest further =>
    refine .inr ?_
    have stepped := place.before_step c
    rcases further (place.step c) with rfl | later
    · exact stepped
    · exact stepped.trans later

end Position

namespace TokenStream

/-- The tokens of a stream, also of one that breaks off behind them. -/
def delivered : TokenStream → List Spanned
  | .finish _ => []
  | .broken _ => []
  | .next spanned rest => spanned :: rest.delivered

theorem tokens_next_error {spanned : Spanned} {rest : TokenStream} {fault : ScanError}
    (broken : (next spanned rest).tokens = .error fault) : rest.tokens = .error fault := by
  unfold tokens at broken
  cases read : rest.tokens with
  | ok found =>
    rw [read] at broken
    cases broken
  | error other =>
    rw [read] at broken
    exact broken

theorem tokens_next_ok {spanned : Spanned} {rest : TokenStream} {tokens : List Spanned}
    {finish : Position} (cut : (next spanned rest).tokens = .ok (tokens, finish)) :
    ∃ others, tokens = spanned :: others ∧ rest.tokens = .ok (others, finish) := by
  obtain ⟨⟨others, last⟩, read, continued⟩ := Parser.bind_ok cut
  cases continued
  exact ⟨others, rfl, read⟩

/-- The scanner breaks off no earlier than where it stands, and behind the start of every token that
it read on the way. -/
theorem before_fault {cursor : Cursor} {fault : ScanError}
    (broken : (scan cursor).tokens = .error fault) :
    (cursor.place = fault.place ∨ cursor.place.Before fault.place) ∧
      ∀ spanned ∈ (scan cursor).delivered, spanned.start.Before fault.place := by
  fun_induction scan cursor with
  | case1 cursor place read => cases broken
  | case2 cursor error read =>
    cases broken
    obtain ⟨front, -, placed⟩ := Cursor.next_broken read
    constructor
    · rcases cursor.place.past_cases front with rfl | later
      · exact .inl placed.symm
      · exact .inr (placed ▸ later)
    · simp [delivered]
  | case3 cursor spanned rest read further =>
    obtain ⟨ahead, others⟩ := further (tokens_next_error broken)
    obtain ⟨gap, chars, takes⟩ := Cursor.next_token read
    -- the token takes at least one character, so its start is strictly before what follows
    have inside : spanned.start.Before rest.place := by
      rw [takes.place]
      refine (spanned.start.past_cases chars).resolve_left fun none => ?_
      have length := takes.length_pos
      simp [none] at length
    have start : spanned.start.Before fault.place := by
      rcases ahead with same | later
      · exact same ▸ inside
      · exact inside.trans later
    constructor
    · rcases cursor.place.past_cases gap with rfl | later
      · have here : spanned.start = cursor.place := takes.start
        exact .inr (here ▸ start)
      · rw [← takes.start] at later
        exact .inr (later.trans start)
    · intro other among
      rcases List.mem_cons.1 among with rfl | behind
      · exact start
      · exact others other behind

end TokenStream

namespace Cursor

/-- The cursors from which tokens are asked for when a source is read from its start, one token
after another. At the end one may ask again, from behind the last blanks. -/
inductive Reached (source : String) : Cursor → Prop
  | start : Reached source (ofSource source)
  | token {cursor rest : Cursor} {spanned : Spanned} (before : Reached source cursor)
      (read : cursor.next = .token spanned rest) : Reached source rest
  | finish {cursor : Cursor} {place : Position} (before : Reached source cursor)
      (read : cursor.next = .finish place) : Reached source cursor.skip

/-- Asking again at the end gives the end. -/
theorem next_skip_of_finish {cursor : Cursor} {place : Position}
    (read : cursor.next = .finish place) : ∃ again, cursor.skip.next = .finish again := by
  have nothing : cursor.skip.text = [] := by
    unfold next at read
    dsimp only at read
    split at read
    · next none => exact none
    · split at read <;> cases read
  have still : cursor.skip.skip.text = [] := by
    rw [skip, nothing]
    rfl
  refine ⟨cursor.skip.skip.place, ?_⟩
  unfold next
  dsimp only
  rw [still]

/-- Where the whole source can be cut into tokens, so can the rest of it from every cursor on. -/
theorem Reached.tokens {source : String} {cursor : Cursor} (reached : cursor.Reached source)
    (whole : ∃ cut, (TokenStream.ofSource source).tokens = .ok cut) :
    ∃ cut, (TokenStream.scan cursor).tokens = .ok cut := by
  induction reached with
  | start => exact whole
  | token _ read before =>
    obtain ⟨⟨tokens, finish⟩, cut⟩ := before
    rw [TokenStream.scan_token read] at cut
    obtain ⟨others, -, rest⟩ := TokenStream.tokens_next_ok cut
    exact ⟨_, rest⟩
  | finish _ read _ =>
    obtain ⟨again, ended⟩ := next_skip_of_finish read
    rw [TokenStream.scan_finish ended]
    exact ⟨_, rfl⟩

theorem Reached.next_ne_broken {source : String} {cursor : Cursor}
    (reached : cursor.Reached source)
    (whole : ∃ cut, (TokenStream.ofSource source).tokens = .ok cut) (fault : ScanError) :
    cursor.next ≠ .broken fault := by
  intro broken
  obtain ⟨cut, found⟩ := reached.tokens whole
  rw [TokenStream.scan_broken broken] at found
  cases found

end Cursor

namespace ParseError

/-- The parser itself refuses what it finds at a place. -/
def IsAt (error : ParseError) (place : Position) : Prop :=
  ∃ kind detail, error = .ofKind kind place detail

/-- The line and column of an error come before a place. -/
def Precedes (error : ParseError) (place : Position) : Prop :=
  error.line < place.line ∨ error.line = place.line ∧ error.column < place.column

theorem IsAt.precedes {error : ParseError} {place later : Position} (placed : error.IsAt place)
    (before : place.Before later) : error.Precedes later := by
  obtain ⟨kind, detail, rfl⟩ := placed
  exact before

/-- On a stream that breaks off, an error is that fault or stands at a token in front of it. -/
theorem Arises.of_broken {stream : TokenStream} {error : ParseError} {fault : ScanError}
    (arises : Arises stream error) (broken : stream.tokens = .error fault) :
    error = .ofScan fault ∨ ∃ spanned ∈ stream.delivered, error.IsAt spanned.start := by
  induction arises with
  | broken found =>
    cases broken
    exact .inl rfl
  | finish place kind detail => cases broken
  | token spanned rest kind detail =>
    exact .inr ⟨spanned, List.mem_cons_self, kind, detail, rfl⟩
  | later spanned _ further =>
    rcases further (TokenStream.tokens_next_error broken) with same | ⟨other, among, placed⟩
    · exact .inl same
    · exact .inr ⟨other, List.mem_cons_of_mem _ among, placed⟩

/-- On a stream that goes to the end, an error stands at a token or at the end. -/
theorem Arises.of_unbroken {stream : TokenStream} {error : ParseError} {tokens : List Spanned}
    {finish : Position} (arises : Arises stream error)
    (cut : stream.tokens = .ok (tokens, finish)) :
    ∃ place ∈ tokens.map Spanned.start ++ [finish], error.IsAt place := by
  induction arises generalizing tokens with
  | broken found => cases cut
  | finish last kind detail =>
    cases cut
    exact ⟨finish, by simp, kind, detail, rfl⟩
  | token spanned rest kind detail =>
    obtain ⟨others, rfl, -⟩ := TokenStream.tokens_next_ok cut
    exact ⟨spanned.start, by simp, kind, detail, rfl⟩
  | later spanned _ further =>
    obtain ⟨others, rfl, rest⟩ := TokenStream.tokens_next_ok cut
    obtain ⟨place, among, placed⟩ := further rest
    exact ⟨place, List.mem_cons_of_mem _ among, placed⟩

end ParseError

/-- A script is only accepted when its source can be cut into tokens up to its end. -/
theorem Program.tokens_of_parse {settings : Settings} {source : String} {program : Program}
    (accepted : Program.parse settings source = .ok program) :
    ∃ tokens finish,
      (TokenStream.ofSource (effectiveSource settings source)).tokens = .ok (tokens, finish) := by
  unfold Program.parse at accepted
  obtain ⟨body, read, -⟩ := Parser.bind_ok accepted
  unfold Block.parse at read
  rw [Parser.outcome_eq_ok_iff, Parser.whole_block_eq_ok_iff] at read
  obtain ⟨tokens, finish, whole, -⟩ := read
  exact ⟨tokens, finish, (TokenStream.tokens_eq_ok_iff _ _ _).2 whole⟩

/-- Faults of a source and errors of its script come in the order of their places. A source with a
fault is no script: its error is that fault, or one that the parser found at a token before it. In a
source without a fault the scanner always answers with a token or the end, and the error, if there
is one, is the parser's own. -/
theorem Program.errors_in_order (settings : Settings) (source : String) :
    let text := effectiveSource settings source
    let stream := TokenStream.ofSource text
    (∀ fault, stream.tokens = .error fault →
      ∃ error, Program.parse settings source = .error error ∧
        (error = .ofScan fault ∨
          (∃ spanned ∈ stream.delivered, error.IsAt spanned.start) ∧
            error.Precedes fault.place)) ∧
    (∀ tokens finish, stream.tokens = .ok (tokens, finish) →
      (∀ cursor : Cursor, cursor.Reached text → ∀ fault, cursor.next ≠ .broken fault) ∧
        ∀ error, Program.parse settings source = .error error →
          ∃ place ∈ tokens.map Spanned.start ++ [finish], error.IsAt place) ∧
    (∀ program, Program.parse settings source = .ok program →
      ∃ tokens finish, stream.tokens = .ok (tokens, finish)) := by
  intro text stream
  refine ⟨fun fault broken => ?_, fun tokens finish cut => ?_, fun program accepted => ?_⟩
  · cases parsed : Program.parse settings source with
    | ok program =>
      obtain ⟨tokens, finish, cut⟩ := Program.tokens_of_parse parsed
      have both := broken.symm.trans cut
      cases both
    | error error =>
      refine ⟨error, rfl, ?_⟩
      have arises := Program.arises_of_parse parsed
      rcases arises.of_broken broken with same | ⟨spanned, among, placed⟩
      · exact .inl same
      · have before := (TokenStream.before_fault broken).2 spanned among
        exact .inr ⟨⟨spanned, among, placed⟩, placed.precedes before⟩
  · constructor
    · intro cursor reached
      exact reached.next_ne_broken ⟨_, cut⟩
    · intro error failed
      exact (Program.arises_of_parse failed).of_unbroken cut
  · exact Program.tokens_of_parse accepted

theorem Program.parse_eq_error {settings : Settings} {source : String} {error : ParseError}
    (failed : Block.parse settings.caseSensitive (effectiveSource settings source) = .error error) :
    Program.parse settings source = .error error := by
  unfold Program.parse
  simp only [failed]
  rfl

/-- A constant is assigned to on the line before the fault, and the fault is not reported; where the
fault takes the place of the digits that a sign must touch, it is. -/
theorem Program.errors_in_order_two_faults :
    (∃ fault error, (TokenStream.ofSource "5 =\n@").tokens = .error fault ∧
      Program.parse (.standard 0) "5 =\n@" = .error error ∧ error.kind = .constantAssignment ∧
      error.Precedes fault.place) ∧
    ∃ fault, (TokenStream.ofSource "-\n@").tokens = .error fault ∧
      Program.parse (.standard 0) "-\n@" = .error (.ofScan fault) := by
  have assigned : effectiveSource (.standard 0) "5 =\n@" = "5 =\n@" := by decide +kernel
  have signed : effectiveSource (.standard 0) "-\n@" = "-\n@" := by decide +kernel
  constructor
  · have broken : (TokenStream.ofSource (effectiveSource (.standard 0) "5 =\n@")).tokens =
        .error ⟨.illegalSymbol '@', ⟨2, 1, 4⟩⟩ := by
      rw [assigned]
      cbv
    have refused : Program.parse (.standard 0) "5 =\n@" =
        .error ⟨.constantAssignment, 1, 1, none⟩ := by
      apply Program.parse_eq_error
      rw [assigned]
      cbv
    obtain ⟨error, failed, order⟩ := (errors_in_order (.standard 0) "5 =\n@").1 _ broken
    have found : ⟨.constantAssignment, 1, 1, none⟩ = error :=
      Except.error.inj (refused.symm.trans failed)
    subst found
    rw [assigned] at broken
    refine ⟨_, _, broken, refused, rfl, ?_⟩
    rcases order with fault | ⟨-, before⟩
    · cases fault
    · exact before
  · have broken : (TokenStream.ofSource (effectiveSource (.standard 0) "-\n@")).tokens =
        .error ⟨.illegalSymbol '@', ⟨2, 1, 2⟩⟩ := by
      rw [signed]
      cbv
    have refused : Program.parse (.standard 0) "-\n@" =
        .error ⟨.illegalSymbol, 2, 1, some "'@'"⟩ := by
      apply Program.parse_eq_error
      rw [signed]
      cbv
    obtain ⟨error, failed, order⟩ := (errors_in_order (.standard 0) "-\n@").1 _ broken
    have found : ⟨.illegalSymbol, 2, 1, some "'@'"⟩ = error :=
      Except.error.inj (refused.symm.trans failed)
    rw [signed] at broken
    refine ⟨_, broken, ?_⟩
    rcases order with fault | ⟨-, before⟩
    · rw [failed, fault]
    · subst found
      simp [ParseError.Precedes] at before

end RuleScript
