import Mathlib
import RuleScript.Proofs.Script.ErrorPlaces
import RuleScript.Proofs.Script.Pull

/-!
A reader on its way through a source. While it runs, the token that it holds and the rest of the
source are the stream that is left (`Reader.At`), no token is asked for after the end, and functions
are entered in an order in which none comes twice before the next token is taken (`Reader.Steady`).
`Tracks` says that a computation of the reader keeps all this and does what the parser does on the
stream; the rules below show it for the steps that the functions of the parser are made of.
-/
namespace RuleScript

/-- There are no more tokens than characters. -/
theorem TokenStream.length_scan_le (cursor : Cursor) :
    (TokenStream.scan cursor).length ≤ cursor.text.length := by
  fun_induction TokenStream.scan cursor with
  | case1 cursor place read => exact Nat.zero_le _
  | case2 cursor error read => exact Nat.zero_le _
  | case3 cursor spanned rest read shorter =>
    have consumed := Cursor.next_shortens read
    rw [TokenStream.length]
    omega

namespace Parser

/-- At one token functions are entered in this order: first those that go on what was read before,
from the tightest phrase outward, then those that start a phrase, from the widest inward. -/
def Routine.rank : Routine → Nat
  | .index => 0
  | .chain level => level.height
  | .block => 7
  | .statement => 8
  | .branch => 8
  | .condition => 9
  | .braced => 9
  | .function => 9
  | .parameters => 9
  | .arguments => 9
  | .argumentsFrom => 10
  | .expression => 11
  | .tier level => 24 - 2 * level.height
  | .operand level => 25 - 2 * level.height
  | .unary => 24
  | .substitution => 25
  | .primary => 26

/-- The visit comes later: after more tokens, or at the same one and further on in its order. -/
def Visit.After (later earlier : Visit) : Prop :=
  earlier.taken < later.taken ∨
    earlier.taken = later.taken ∧ earlier.routine.rank < later.routine.rank

/-- One for the end of the source. -/
def Held.ends : Held → Nat
  | .token _ => 0
  | .finish _ => 1

namespace Reader

/-- What the reader holds, and what it would get if it went on asking. -/
def stream (reader : Reader) : TokenStream :=
  match reader.current with
  | .token spanned => .next spanned (.scan reader.cursor)
  | .finish place => .finish place

/-- Every visit was at an earlier token, or is before the given rank in the order at this one. -/
def Passed (bound : Nat) (reader : Reader) : Prop :=
  ∀ visit ∈ reader.visits, visit.taken < reader.taken ∨
    visit.taken = reader.taken ∧ visit.routine.rank < bound

/-- What holds between the steps of a run on a source of the given length. Each token that was asked
for took a character, and only the end did not. -/
structure Steady (length : Nat) (reader : Reader) : Prop where
  unpeeked : reader.peeked = none
  ended : ∀ place, reader.current = .finish place → reader.cursor.next = .finish place
  frugal : reader.requests + reader.cursor.text.length ≤ length + reader.current.ends
  ordered : reader.visits.Pairwise Visit.After

/-- What holds when a run has failed. -/
structure Closed (length : Nat) (reader : Reader) : Prop where
  frugal : reader.requests ≤ length + 1
  ordered : reader.visits.Pairwise Visit.After

/-- The reader stands where the stream goes on. -/
structure At (reader : Reader) (length bound : Nat) (stream : TokenStream) : Prop where
  steady : reader.Steady length
  passed : reader.Passed bound
  stands : reader.stream = stream

theorem Steady.closed {reader : Reader} {length : Nat} (steady : reader.Steady length) :
    reader.Closed length := by
  refine ⟨?_, steady.ordered⟩
  have frugal := steady.frugal
  have ends : reader.current.ends ≤ 1 := by cases reader.current <;> simp [Held.ends]
  omega

namespace At

variable {reader : Reader} {length bound : Nat} {stream rest : TokenStream} {spanned : Spanned}

theorem weaken (stands : reader.At length bound stream) {wider : Nat} (within : bound ≤ wider) :
    reader.At length wider stream := by
  refine ⟨stands.steady, fun visit among => ?_, stands.stands⟩
  have passed := stands.passed visit among
  omega

/-- A function may be entered when only earlier ones of the order were entered at this token. -/
theorem enter {routine : Routine} (stands : reader.At length routine.rank stream) :
    At { reader with visits := ⟨routine, reader.taken⟩ :: reader.visits } length
      (routine.rank + 1) stream := by
  refine ⟨⟨stands.steady.unpeeked, stands.steady.ended, stands.steady.frugal, ?_⟩, ?_,
    stands.stands⟩
  · exact List.pairwise_cons.2 ⟨stands.passed, stands.steady.ordered⟩
  · intro visit among
    rcases List.mem_cons.1 among with rfl | earlier
    · exact .inr ⟨rfl, Nat.lt_succ_self _⟩
    · have passed := stands.passed visit earlier
      dsimp only
      omega

theorem not_broken {error : ScanError} (stands : reader.At length bound (.broken error)) :
    False := by
  have stood := stands.stands
  unfold Reader.stream at stood
  split at stood <;> cases stood

theorem token (stands : reader.At length bound (.next spanned rest)) :
    reader.current = .token spanned ∧ TokenStream.scan reader.cursor = rest := by
  have stood := stands.stands
  unfold Reader.stream at stood
  split at stood
  · next held =>
    cases stood
    exact ⟨held, rfl⟩
  · cases stood

theorem finish {place : Position} (stands : reader.At length bound (.finish place)) :
    reader.current = .finish place := by
  have stood := stands.stands
  unfold Reader.stream at stood
  split at stood
  · cases stood
  · next held =>
    cases stood
    exact held

/-- The stream goes on with what the reader holds. -/
theorem held (stands : reader.At length bound stream) :
    (∃ place, stream = .finish place ∧ reader.current = .finish place) ∨
      ∃ token start stop rest, stream = .next ⟨token, start, stop⟩ rest ∧
        reader.current = .token ⟨token, start, stop⟩ := by
  cases stream with
  | broken error => exact stands.not_broken.elim
  | finish place => exact .inl ⟨place, rfl, stands.finish⟩
  | next spanned rest => exact .inr ⟨_, _, _, rest, rfl, stands.token.1⟩

end At
end Reader

/-- A broken stream lets nobody read on: what is read there fails with the fault, or takes nothing
and leaves the stream to whoever comes next. -/
inductive Breaks {α : Type} (error : ScanError) : Except Halt (α × TokenStream) → Prop
  | failed : Breaks error (.error (.failed (.ofScan error)))
  | exhausted : Breaks error (.error .exhausted)
  | passed (value : α) : Breaks error (.ok (value, .broken error))

/-- The two parsers agree: both fail alike, or both read the same and the reader stands where the
stream goes on. Only where the stream breaks off the reader fails at once, and the stream later. -/
inductive Tracks {α : Type} (length bound : Nat) :
    Except Halt (α × TokenStream) → Except Halt α × Reader → Prop
  | read {reader : Reader} {stream : TokenStream} (value : α)
      (stands : reader.At length bound stream) :
      Tracks length bound (.ok (value, stream)) (.ok value, reader)
  | broken {reader : Reader} (value : α) (error : ScanError) (closed : reader.Closed length) :
      Tracks length bound (.ok (value, .broken error)) (.error (.failed (.ofScan error)), reader)
  | failed {reader : Reader} (error : ParseError) (closed : reader.Closed length) :
      Tracks length bound (.error (.failed error)) (.error (.failed error), reader)
  | exhausted {reader : Reader} (halt : Halt) (closed : reader.Closed length) :
      Tracks length bound (.error .exhausted) (.error halt, reader)

namespace Pull

variable {α : Type}

theorem look_bind (f : Held → Pull α) (reader : Reader) :
    (look >>= f) reader = f reader.current reader := rfl

theorem load_eq (reader : Reader) :
    load reader =
      andThen (fun held asked => (.ok (), { asked with current := held })) (request reader) := rfl

theorem advance_bind (f : Unit → Pull α) (reader : Reader) :
    (advance >>= f) reader = andThen f (advance reader) := rfl

end Pull

section Rules

variable {α β : Type} {length bound middle : Nat} {reader : Reader} {stream : TokenStream}

theorem Breaks.bind {error : ScanError} {first : Except Halt (α × TokenStream)}
    {k : α × TokenStream → Except Halt (β × TokenStream)} (breaks : Breaks error first)
    (continued : ∀ value, Breaks error (k (value, .broken error))) :
    Breaks error (first >>= k) := by
  cases breaks with
  | failed => exact .failed
  | exhausted => exact .exhausted
  | passed value => exact continued value

/-- What the parser does on a broken stream follows from where its errors come from and from what it
takes off a stream. -/
theorem Breaks.of_reads {error : ScanError} {read : TokenStream → Except Halt (α × TokenStream)}
    {stands : α → List Spanned → Prop} (blames : Blames (.broken error) (read (.broken error)))
    (reads : Reads read stands) : Breaks error (read (.broken error)) := by
  cases outcome : read (.broken error) with
  | ok result =>
    obtain ⟨value, rest⟩ := result
    obtain ⟨tokens, split, -⟩ := reads outcome
    cases tokens with
    | nil =>
      rw [← split.trans (TokenStream.prepend_nil rest)]
      exact .passed value
    | cons first others => cases split
  | error halt =>
    cases halt with
    | exhausted => exact .exhausted
    | failed found =>
      cases blames found outcome
      exact .failed

theorem Breaks.tracks {error : ScanError} {outcome : Except Halt (α × TokenStream)}
    (breaks : Breaks error outcome) (closed : reader.Closed length) :
    Tracks length bound outcome (.error (.failed (.ofScan error)), reader) := by
  cases breaks with
  | failed => exact .failed _ closed
  | exhausted => exact .exhausted _ closed
  | passed value => exact .broken value error closed

theorem Tracks.bind {first : Except Halt (α × TokenStream)} {pull : Pull α}
    {k : α × TokenStream → Except Halt (β × TokenStream)} {f : α → Pull β}
    (tracks : Tracks length middle first (pull reader))
    (continued : ∀ value (after : Reader) (rest : TokenStream), after.At length middle rest →
      Tracks length bound (k (value, rest)) (f value after))
    (breaks : ∀ value error, Breaks error (k (value, .broken error))) :
    Tracks length bound (first >>= k) ((pull >>= f) reader) := by
  change Tracks length bound (first >>= k) (Pull.andThen f (pull reader))
  generalize pull reader = outcome at tracks ⊢
  cases tracks with
  | read value stands => exact continued value _ _ stands
  | broken value error closed => exact (breaks value error).tracks closed
  | failed error closed => exact .failed error closed
  | exhausted halt closed => exact .exhausted halt closed

theorem tracks_enter {routine : Routine} {outcome : Except Halt (α × TokenStream)}
    {f : Unit → Pull α} (stands : reader.At length routine.rank stream)
    (entered : ∀ inside : Reader, inside.At length (routine.rank + 1) stream →
      Tracks length bound outcome (f () inside)) :
    Tracks length bound outcome ((Pull.enter routine >>= f) reader) :=
  entered _ stands.enter

theorem tracks_pure (value : α) (stands : reader.At length bound stream) :
    Tracks length bound (.ok (value, stream)) ((pure value : Pull α) reader) :=
  .read value stands

theorem tracks_failed (error : ParseError) (steady : reader.Steady length) :
    Tracks length bound (.error (.failed error) : Except Halt (α × TokenStream))
      (Pull.halt (.failed error) reader) :=
  .failed error steady.closed

theorem tracks_unexpected (kind : ParseErrorKind) (stands : reader.At length middle stream) :
    Tracks length bound (unexpected kind stream : Except Halt (α × TokenStream))
      (Pull.unexpected kind reader) := by
  have same : ParseError.found kind reader.current.alone = ParseError.found kind stream := by
    rw [← stands.stands, Reader.stream]
    cases reader.current <;> rfl
  change Tracks length bound (unexpected kind stream)
    (.error (.failed (.found kind reader.current.alone)), reader)
  rw [same]
  exact .failed _ stands.steady.closed

/-- Asking for the next token costs a character of the source, unless the source ends or breaks off
there. -/
theorem load_cases (unpeeked : reader.peeked = none)
    (frugal : reader.requests + reader.cursor.text.length ≤ length)
    (ordered : reader.visits.Pairwise Visit.After) :
    (∃ after, Pull.load reader = (.ok (), after) ∧ after.Steady length ∧
        after.stream = .scan reader.cursor ∧ after.visits = reader.visits) ∨
      ∃ error after, Pull.load reader = (.error (.failed (.ofScan error)), after) ∧
        TokenStream.scan reader.cursor = .broken error ∧ after.Closed length := by
  rw [Pull.load_eq, Pull.request]
  cases read : reader.cursor.next with
  | finish place =>
    refine .inl ⟨_, rfl, ⟨unpeeked, ?_, ?_, ordered⟩, (TokenStream.scan_finish read).symm, rfl⟩
    · rintro _ ⟨⟩
      exact read
    · simp only [Held.ends]
      omega
  | broken error =>
    refine .inr ⟨error, _, rfl, TokenStream.scan_broken read, ?_, ordered⟩
    dsimp only
    omega
  | token spanned rest =>
    have shorter := Cursor.next_shortens read
    refine .inl ⟨_, rfl, ⟨unpeeked, ?_, ?_, ordered⟩, (TokenStream.scan_token read).symm, rfl⟩
    · rintro _ ⟨⟩
    · simp only [Held.ends]
      omega

/-- Taking a token brings the reader to the next one, where no function was entered yet; a fault of
the source shows at once. -/
theorem advance_cases {spanned : Spanned} {rest : TokenStream}
    (stands : reader.At length middle (.next spanned rest)) :
    (∃ after, Pull.advance reader = (.ok (), after) ∧ after.At length 0 rest) ∨
      ∃ error after, Pull.advance reader = (.error (.failed (.ofScan error)), after) ∧
        rest = .broken error ∧ after.Closed length := by
  obtain ⟨held, left⟩ := stands.token
  have frugal := stands.steady.frugal
  rw [held, Held.ends, Nat.add_zero] at frugal
  unfold Pull.advance
  rw [stands.steady.unpeeked]
  rcases load_cases stands.steady.unpeeked frugal stands.steady.ordered with
    ⟨after, loaded, steady, stream, visits⟩ | ⟨error, after, loaded, broken, closed⟩
  · rw [loaded]
    refine .inl ⟨_, rfl, ⟨steady.unpeeked, steady.ended, steady.frugal, steady.ordered⟩, ?_,
      stream.trans left⟩
    intro visit among
    rw [visits] at among
    have before := stands.passed visit among
    exact .inl (by dsimp only; omega)
  · rw [loaded]
    exact .inr ⟨error, after, rfl, left.symm.trans broken, closed⟩

theorem tracks_advance {spanned : Spanned} {rest : TokenStream}
    {k : TokenStream → Except Halt (β × TokenStream)} {f : Unit → Pull β}
    (stands : reader.At length middle (.next spanned rest))
    (continued : ∀ (after : Reader) (stream : TokenStream), after.At length 0 stream →
      Tracks length bound (k stream) (f () after))
    (breaks : ∀ error, Breaks error (k (.broken error))) :
    Tracks length bound (k rest) ((Pull.advance >>= f) reader) := by
  change Tracks length bound (k rest) (Pull.andThen f (Pull.advance reader))
  rcases advance_cases stands with ⟨after, advanced, next⟩ | ⟨error, after, advanced, rfl, closed⟩
  · rw [advanced]
    exact continued after rest next
  · rw [advanced]
    exact (breaks error).tracks closed

/-- A token that is a phrase by itself. -/
theorem tracks_token {spanned : Spanned} {rest : TokenStream} (value : α)
    (stands : reader.At length middle (.next spanned rest)) :
    Tracks length bound (.ok (value, rest)) ((Pull.advance >>= fun _ => pure value) reader) :=
  tracks_advance (k := fun rest => .ok (value, rest)) stands
    (fun _ _ next => tracks_pure value (next.weaken (Nat.zero_le _))) fun _ => .passed value

theorem breaks_expect {symbol : Symbol} {kind : ParseErrorKind} {error : ScanError}
    {k : TokenStream → Except Halt (β × TokenStream)} :
    Breaks error (expect symbol kind (.broken error) >>= k) :=
  .failed

theorem tracks_expect {symbol : Symbol} {kind : ParseErrorKind}
    {k : TokenStream → Except Halt (β × TokenStream)} {f : Unit → Pull β}
    (stands : reader.At length middle stream)
    (continued : ∀ (after : Reader) (rest : TokenStream), after.At length 0 rest →
      Tracks length bound (k rest) (f () after))
    (breaks : ∀ error, Breaks error (k (.broken error))) :
    Tracks length bound (expect symbol kind stream >>= k)
      ((Pull.expect symbol kind >>= f) reader) := by
  change Tracks length bound _ (Pull.andThen f (Pull.expect symbol kind reader))
  cases stream with
  | broken error => exact stands.not_broken.elim
  | finish place =>
    rw [Pull.expect, Pull.look_bind, stands.finish]
    exact tracks_unexpected kind stands
  | next spanned rest =>
    rw [Pull.expect, Pull.look_bind, stands.token.1, expect]
    dsimp only
    by_cases found : spanned.token = .symbol symbol
    · rw [if_pos found, if_pos found]
      exact tracks_advance stands continued breaks
    · rw [if_neg found, if_neg found]
      exact tracks_unexpected kind stands

/-- A token that was looked at in advance is held when the one before it is taken. -/
theorem Reader.At.peeked {first second : Spanned} {rest : TokenStream} {after : Cursor}
    (stands : reader.At length middle (.next first rest))
    (read : reader.cursor.next = .token second after) :
    Reader.At { reader with
      current := .token second, peeked := none, cursor := after,
      requests := reader.requests + 1, taken := reader.taken + 1 } length 0
      (.next second (.scan after)) := by
  have frugal := stands.steady.frugal
  have shorter := Cursor.next_shortens read
  rw [stands.token.1, Held.ends, Nat.add_zero] at frugal
  refine ⟨⟨rfl, ?_, ?_, stands.steady.ordered⟩, ?_, rfl⟩
  · rintro _ ⟨⟩
  · simp only [Held.ends]
    omega
  · intro visit among
    have before := stands.passed visit among
    exact .inl (by dsimp only; omega)

/-- The token behind a minus sign is looked at before the sign is taken. -/
theorem tracks_negativeNumber {minus : Spanned} {rest : TokenStream}
    (stands : reader.At length middle (.next minus rest)) :
    Tracks length bound (negativeNumber minus rest) (Pull.negativeNumber minus reader) := by
  obtain ⟨held, left⟩ := stands.token
  have frugal := stands.steady.frugal
  rw [held, Held.ends, Nat.add_zero] at frugal
  have peeks : Pull.peek reader = Pull.andThen
      (fun held asked => (.ok held, { asked with peeked := some held })) (Pull.request reader) := by
    rw [Pull.peek, stands.steady.unpeeked]
  unfold Pull.negativeNumber negativeNumber
  change Tracks length bound _ (Pull.andThen _ (Pull.peek reader))
  rw [peeks, Pull.request, ← left]
  have closed : ∀ after : Reader, after.requests = reader.requests + 1 →
      after.visits = reader.visits → after.Closed length := by
    intro after asked same
    refine ⟨by omega, ?_⟩
    rw [same]
    exact stands.steady.ordered
  cases read : reader.cursor.next with
  | finish place =>
    rw [TokenStream.scan_finish read]
    exact .failed _ (closed _ rfl rfl)
  | broken error =>
    rw [TokenStream.scan_broken read]
    exact .failed _ (closed _ rfl rfl)
  | token spanned after =>
    rw [TokenStream.scan_token read]
    obtain ⟨token, start, stop⟩ := spanned
    cases token with
    | number n =>
      dsimp only [Pull.andThen]
      by_cases touching : start.offset = minus.stop
      · rw [if_pos touching, if_pos touching]
        -- the sign is taken without asking, and what is left is to take the number
        have tracked : Tracks length bound (.ok (Expr.literal (.number n.neg), .scan after))
            ((Pull.advance >>= fun _ => pure (.literal (.number n.neg))) _) :=
          tracks_token _ (stands.peeked read)
        exact tracked
      · rw [if_neg touching, if_neg touching]
        exact .failed _ (closed _ rfl rfl)
    | _ => exact .failed _ (closed _ rfl rfl)

end Rules

end Parser
end RuleScript
