import RuleScript.Text.Blank
import RuleScript.Token.Lexeme

/-!
A source as a stream of tokens. The stream ends either at the end of the source or at the first
place where no token can be read, so that whoever reads the stream meets the fault exactly when it
gets there.
-/
namespace RuleScript

/-- The rest of a source and the place where it starts. -/
structure Cursor where
  text : List Char
  place : Position

namespace Cursor

/-- The whole of a source. -/
def ofSource (source : String) : Cursor :=
  ⟨source.toList, Position.start⟩

/-- The cursor some characters further on. -/
def drop (cursor : Cursor) (length : Nat) : Cursor :=
  ⟨cursor.text.drop length, cursor.place.past (cursor.text.take length)⟩

/-- Blanks and control characters between tokens have no meaning. -/
def isSkipped (c : Char) : Bool :=
  Text.isBlank c || Text.isControl c

/-- The cursor at the next character that counts. -/
def skip (cursor : Cursor) : Cursor :=
  ⟨cursor.text.dropWhile isSkipped, cursor.place.past (cursor.text.takeWhile isSkipped)⟩

/-- What comes next in a source. -/
inductive Step
  | finish (place : Position)
  | broken (error : ScanError)
  | token (spanned : Spanned) (rest : Cursor)

/-- Reads one token. -/
def next (cursor : Cursor) : Step :=
  let here := cursor.skip
  match here.text with
  | [] => .finish here.place
  | c :: rest =>
    match Lexeme.read c rest with
    | .ok (token, length) =>
      let after := here.drop length
      .token ⟨token, here.place, after.place.offset⟩ after
    | .error (fault, length) => .broken ⟨fault, (here.drop length).place⟩

theorem skip_length_le (cursor : Cursor) : cursor.skip.text.length ≤ cursor.text.length :=
  (List.dropWhile_sublist _).length_le

/-- Each token brings the end of the source nearer. -/
theorem next_shortens {cursor rest : Cursor} {spanned : Spanned}
    (read : cursor.next = .token spanned rest) : rest.text.length < cursor.text.length := by
  have skipped := skip_length_le cursor
  unfold next at read
  dsimp only at read
  split at read
  · cases read
  · next c tail found =>
    split at read
    · next token length success =>
      cases read
      have positive := Lexeme.read_length_pos success
      rw [found, List.length_cons] at skipped
      simp only [drop, List.length_drop, found, List.length_cons]
      omega
    · cases read

end Cursor

/-- A source cut into tokens. -/
inductive TokenStream
  /-- The end of the source. -/
  | finish (place : Position)
  /-- No token can be read here. -/
  | broken (error : ScanError)
  | next (spanned : Spanned) (rest : TokenStream)
  deriving DecidableEq, Repr

namespace TokenStream

/-- The tokens from a cursor on. -/
def scan (cursor : Cursor) : TokenStream :=
  match _read : cursor.next with
  | .finish place => .finish place
  | .broken error => .broken error
  | .token spanned rest => .next spanned (scan rest)
  termination_by cursor.text.length
  decreasing_by exact Cursor.next_shortens _read

theorem scan_finish {cursor : Cursor} {place : Position} (read : cursor.next = .finish place) :
    scan cursor = .finish place := by
  rw [scan]
  split <;> simp_all

theorem scan_broken {cursor : Cursor} {error : ScanError} (read : cursor.next = .broken error) :
    scan cursor = .broken error := by
  rw [scan]
  split <;> simp_all

theorem scan_token {cursor rest : Cursor} {spanned : Spanned}
    (read : cursor.next = .token spanned rest) : scan cursor = .next spanned (scan rest) := by
  rw [scan]
  split <;> simp_all

/-- The tokens of a source. -/
def ofSource (source : String) : TokenStream :=
  scan (Cursor.ofSource source)

/-- The number of tokens. -/
def length : TokenStream → Nat
  | .finish _ => 0
  | .broken _ => 0
  | .next _ rest => rest.length + 1

/-- The place where the stream goes on. -/
def place : TokenStream → Position
  | .finish place => place
  | .broken error => error.place
  | .next spanned _ => spanned.start

/-- All tokens and the place where the source ends, unless the stream breaks off. -/
def tokens : TokenStream → Except ScanError (List Spanned × Position)
  | .finish place => .ok ([], place)
  | .broken error => .error error
  | .next spanned rest => do
    let (others, place) ← rest.tokens
    pure (spanned :: others, place)

end TokenStream
end RuleScript
