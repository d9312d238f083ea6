import Mathlib.Data.List.Induction
import RuleScript.Proofs.Token.Scanning

/-!
Cutting a source into tokens loses nothing and places everything. The tokens are ranges of the
source in order (`Cursor.Segmented`), with only blanks and control characters between them, and the
characters of a range are that token also when they stand alone. Every place that is told, of a
token, of the end or of a fault, is the one that its offset has in the source
(`Position.ofOffset`).
-/
namespace RuleScript

namespace Position

/-- The place of an offset in a source. The line breaks in front of it make the line, and the
characters behind the last of these make the column. -/
def ofOffset (source : List Char) (offset : Nat) : Position :=
  let before := source.take offset
  ⟨1 + before.count '\n', 1 + (before.reverse.takeWhile (· != '\n')).length, offset⟩

/-- Counting character by character comes to counting line breaks. -/
theorem start_past (text : List Char) :
    start.past text =
      ⟨1 + text.count '\n', 1 + (text.reverse.takeWhile (· != '\n')).length, text.length⟩ := by
  induction text using List.reverseRecOn with
  | nil => rfl
  | append_singleton text c before =>
    rw [past_append, before, past_cons, past_nil]
    by_cases newline : c = '\n'
    · subst newline
      simp [step]
      omega
    · simp [step, newline]
      omega

theorem start_past_take {source : List Char} {offset : Nat} (inside : offset ≤ source.length) :
    start.past (source.take offset) = ofOffset source offset := by
  simp [start_past, ofOffset, inside]

theorem offset_past (place : Position) (text : List Char) :
    (place.past text).offset = place.offset + text.length := by
  induction text generalizing place with
  | nil => rfl
  | cons c others further =>
    have stepped : (place.step c).offset = place.offset + 1 := by
      unfold step
      split <;> rfl
    rw [past_cons, further, stepped, List.length_cons]
    omega

end Position

namespace Lexeme

theorem Quotation.after_closed {value front : List Char} {length frontLength : Nat}
    {rest : Quotation} (closed : rest.after front frontLength = .closed value length) :
    ∃ inner innerLength, rest = .closed inner innerLength ∧ value = front ++ inner ∧
      length = frontLength + innerLength := by
  cases rest with
  | closed inner innerLength =>
    cases closed
    exact ⟨inner, innerLength, rfl, rfl, rfl⟩
  | unclosed => cases closed
  | barred c innerLength => cases closed

/-- A literal ends within the text, at a closing quote. -/
theorem quotation_bounds {text value : List Char} {length : Nat}
    (closed : quotation text = .closed value length) : 0 < length ∧ length ≤ text.length := by
  fun_induction quotation text generalizing value length with
  | case1 => cases closed
  | case2 rest =>
    cases closed
    simp
  | case3 => cases closed
  | case4 c rest inside =>
    obtain ⟨inner, innerLength, found, -, rfl⟩ := Quotation.after_closed closed
    have bounds := inside found
    simp only [List.length_cons]
    omega
  | case5 c rest _ _ _ barred => cases closed
  | case6 c rest _ _ _ plain inside =>
    obtain ⟨inner, innerLength, found, -, rfl⟩ := Quotation.after_closed closed
    have bounds := inside found
    simp only [List.length_cons]
    omega

theorem unescaped_of_unpaired {c : Char} {others : List Char}
    (single : c = '\\' → others = [] → False)
    (pair : ∀ next rest, c = '\\' → others = next :: rest → False) : c ≠ '\\' := by
  intro escape
  cases others with
  | nil => exact single escape rfl
  | cons next rest => exact pair next rest escape rfl

/-- A literal is read up to its closing quote only. -/
theorem quotation_alone {text rest value : List Char}
    (closed : quotation (text ++ rest) = .closed value text.length) :
    quotation text = .closed value text.length := by
  fun_induction quotation text generalizing value with
  | case1 =>
    have bounds := quotation_bounds closed
    exact absurd bounds.1 (Nat.lt_irrefl 0)
  | case2 others => exact closed
  | case3 =>
    cases rest with
    | nil => exact closed
    | cons c others =>
      obtain ⟨inner, innerLength, -, -, longer⟩ := Quotation.after_closed closed
      simp at longer
      omega
  | case4 c others inside =>
    obtain ⟨inner, innerLength, found, rfl, same⟩ := Quotation.after_closed closed
    have whole : innerLength = others.length := by
      simp only [List.length_cons] at same
      omega
    subst whole
    rw [inside found, Quotation.after, same]
  | case5 c others unquoted single pair barred =>
    have unescaped := unescaped_of_unpaired single pair
    rw [List.cons_append, quotation_plain unquoted unescaped, if_pos barred] at closed
    cases closed
  | case6 c others unquoted single pair plain inside =>
    have unescaped := unescaped_of_unpaired single pair
    rw [List.cons_append, quotation_plain unquoted unescaped, if_neg plain] at closed
    obtain ⟨inner, innerLength, found, rfl, same⟩ := Quotation.after_closed closed
    have whole : innerLength = others.length := by
      simp only [List.length_cons] at same
      omega
    subst whole
    rw [inside found, Quotation.after, same]

theorem readText_alone {text rest : List Char} {token : Token}
    (success : readText (text ++ rest) = .ok (token, text.length + 1)) :
    readText text = .ok (token, text.length + 1) := by
  unfold readText at success ⊢
  split at success
  · next value length closed =>
    cases success
    rw [quotation_alone closed]
  · cases success
  · cases success

/-- What is taken from the head of a text is all of a part only if that part passes the test. -/
theorem takeWhile_alone {test : Char → Bool} {text rest : List Char}
    (whole : ((text ++ rest).takeWhile test).length = text.length) :
    (text ++ rest).takeWhile test = text ∧ text.takeWhile test = text := by
  have front : (text ++ rest).takeWhile test <+: text ++ rest := List.takeWhile_prefix test
  have taken : (text ++ rest).takeWhile test = text :=
    (List.prefix_of_prefix_length_le front (List.prefix_append text rest)
      (Nat.le_of_eq whole)).eq_of_length whole
  refine ⟨taken, ?_⟩
  have passes : ∀ c ∈ text, test c = true := by
    rw [← taken]
    exact List.all_eq_true.1 List.all_takeWhile
  have alone := (@takeWhile_append_stopped test text [] passes nofun).1
  rwa [List.append_nil] at alone

theorem readWord_alone {text rest : List Char} {token : Token}
    (success : readWord (text ++ rest) = .ok (token, text.length)) :
    readWord text = .ok (token, text.length) := by
  unfold readWord at success ⊢
  dsimp only at success ⊢
  rw [Except.ok.injEq, Prod.mk.injEq] at success
  obtain ⟨taken, alone⟩ := takeWhile_alone success.2
  rw [alone, ← success.1, taken]

theorem readNumber_alone {text rest : List Char} {token : Token}
    (success : readNumber (text ++ rest) = .ok (token, text.length)) :
    readNumber text = .ok (token, text.length) := by
  obtain ⟨taken, alone⟩ := takeWhile_alone (readNumber_length success).symm
  have left : text.dropWhile isNumberChar = [] := by
    have parts := List.takeWhile_append_dropWhile (p := isNumberChar) (l := text)
    rw [alone] at parts
    exact List.self_eq_append_right.1 parts.symm
  unfold readNumber at success ⊢
  simp only [taken] at success
  simp only [alone, left, List.head?_nil, Option.any_none, Bool.false_eq_true, if_false]
  split at success
  · cases success
  · exact success

/-- A symbol that was found stands there as it is spelled. -/
theorem symbol?_spelling {text : List Char} {symbol : Symbol} {length : Nat}
    (found : symbol? text = some (symbol, length)) :
    length = symbol.spelling.toList.length ∧ symbol.spelling.toList <+: text := by
  unfold symbol? at found
  split at found <;> cases found <;> exact ⟨rfl, _, rfl⟩

theorem symbol?_alone {text rest : List Char} {symbol : Symbol}
    (found : symbol? (text ++ rest) = some (symbol, text.length)) :
    symbol? text = some (symbol, text.length) := by
  obtain ⟨same, spelled⟩ := symbol?_spelling found
  have whole : symbol.spelling.toList = text :=
    (List.prefix_of_prefix_length_le spelled (List.prefix_append text rest)
      (Nat.le_of_eq same.symm)).eq_of_length same.symm
  rw [← whole]
  cases symbol <;> rfl

/-- A token does not need what follows it. -/
theorem IsToken.alone {token : Token} {chars rest : List Char}
    (whole : IsToken token chars rest) : IsToken token chars [] := by
  obtain ⟨c, others, rfl, counts, success⟩ := whole
  refine ⟨c, others, rfl, counts, ?_⟩
  rw [List.append_nil]
  unfold read at success ⊢
  split
  · next quote =>
    rw [if_pos quote] at success
    exact readText_alone success
  next unquoted =>
  rw [if_neg unquoted] at success
  split
  · next digit =>
    rw [if_pos digit] at success
    exact readNumber_alone success
  next nonDigit =>
  rw [if_neg nonDigit] at success
  split
  · next starts =>
    rw [if_pos starts] at success
    exact readWord_alone success
  next nameless =>
  rw [if_neg nameless] at success
  split at success
  · next symbol length found =>
    cases success
    rw [symbol?_alone found]
  · cases success

/-- A token takes no more than there is. -/
theorem read_length_le {c : Char} {rest : List Char} {token : Token} {length : Nat}
    (success : read c rest = .ok (token, length)) : length ≤ (c :: rest).length := by
  unfold read at success
  split at success
  · unfold readText at success
    split at success
    · next value inner closed =>
      cases success
      exact Nat.succ_le_succ (quotation_bounds closed).2
    · cases success
    · cases success
  split at success
  · rw [readNumber_length success]
    exact (List.takeWhile_sublist _).length_le
  split at success
  · cases success
    exact (List.takeWhile_sublist _).length_le
  · split at success
    · next symbol size found =>
      cases success
      obtain ⟨same, spelled⟩ := symbol?_spelling found
      rw [same]
      exact spelled.length_le
    · cases success

end Lexeme

namespace Cursor

/-- A token was read behind a gap, and the rest starts behind the token. -/
structure Takes (cursor : Cursor) (spanned : Spanned) (rest : Cursor) (gap chars : List Char) :
    Prop where
  text : cursor.text = gap ++ (chars ++ rest.text)
  skipped : ∀ c ∈ gap, isSkipped c = true
  token : Lexeme.IsToken spanned.token chars rest.text
  start : spanned.start = cursor.place.past gap
  place : rest.place = spanned.start.past chars
  stop : spanned.stop = rest.place.offset

theorem skip_text (cursor : Cursor) :
    cursor.text.takeWhile isSkipped ++ cursor.skip.text = cursor.text :=
  List.takeWhile_append_dropWhile

theorem next_finish {cursor : Cursor} {place : Position} (read : cursor.next = .finish place) :
    (∀ c ∈ cursor.text, isSkipped c = true) ∧ place = cursor.place.past cursor.text := by
  unfold next at read
  dsimp only at read
  split at read
  · next nothing =>
    have all := cursor.skip_text
    rw [nothing, List.append_nil] at all
    cases read
    have passes : ∀ c ∈ cursor.text.takeWhile isSkipped, isSkipped c = true :=
      List.all_eq_true.1 List.all_takeWhile
    rw [all] at passes
    exact ⟨passes, by rw [skip, all]⟩
  · split at read <;> cases read

theorem next_broken {cursor : Cursor} {error : ScanError} (read : cursor.next = .broken error) :
    ∃ before, before <+: cursor.text ∧ error.place = cursor.place.past before := by
  unfold next at read
  dsimp only at read
  split at read
  · cases read
  · next c others here =>
    split at read
    · cases read
    · next fault length failure =>
      cases read
      refine ⟨cursor.text.takeWhile isSkipped ++ cursor.skip.text.take length, ?_, ?_⟩
      · conv => rhs; rw [← cursor.skip_text]
        exact (List.prefix_append_right_inj _).2 (List.take_prefix _ _)
      · rw [Position.past_append]
        rfl

/-- All that reading a token does. -/
theorem next_token {cursor rest : Cursor} {spanned : Spanned}
    (read : cursor.next = .token spanned rest) :
    ∃ gap chars, cursor.Takes spanned rest gap chars := by
  unfold next at read
  dsimp only at read
  split at read
  · cases read
  · next c others here =>
    have counts := counts_of_skip here
    split at read
    · next token length success =>
      cases read
      have bound := Lexeme.read_length_le success
      have positive := Lexeme.read_length_pos success
      refine ⟨cursor.text.takeWhile isSkipped, cursor.skip.text.take length, ?_, ?_, ?_, rfl, rfl,
        rfl⟩
      · rw [drop, List.take_append_drop, skip_text]
      · exact List.all_eq_true.1 List.all_takeWhile
      · obtain ⟨size, rfl⟩ := Nat.exists_eq_succ_of_ne_zero (Nat.ne_of_gt positive)
        refine ⟨c, others.take size, by rw [here]; rfl, counts, ?_⟩
        rw [drop, here]
        simp only [Nat.succ_eq_add_one, List.drop_succ_cons, List.take_append_drop, success]
        simp at bound
        simp [bound]
    · cases read

/-- The text of a cursor is a row of tokens with nothing but skipped characters around them. -/
inductive Segmented : Cursor → List Spanned → Position → Prop
  | finish {cursor : Cursor} (skipped : ∀ c ∈ cursor.text, isSkipped c = true) :
      Segmented cursor [] (cursor.place.past cursor.text)
  | token {cursor rest : Cursor} {spanned : Spanned} {gap chars : List Char}
      {others : List Spanned} {finish : Position} (takes : cursor.Takes spanned rest gap chars)
      (further : Segmented rest others finish) : Segmented cursor (spanned :: others) finish

namespace Takes

variable {cursor rest : Cursor} {spanned : Spanned} {gap chars : List Char}

theorem start_offset (takes : cursor.Takes spanned rest gap chars) :
    spanned.start.offset = cursor.place.offset + gap.length := by
  rw [takes.start, Position.offset_past]

theorem rest_offset (takes : cursor.Takes spanned rest gap chars) :
    rest.place.offset = spanned.start.offset + chars.length := by
  rw [takes.place, Position.offset_past]

theorem length_pos (takes : cursor.Takes spanned rest gap chars) : 0 < chars.length := by
  obtain ⟨c, others, rfl, -⟩ := takes.token
  simp

end Takes

namespace Segmented

variable {cursor : Cursor} {tokens : List Spanned} {finish : Position}

theorem finish_offset (segmented : cursor.Segmented tokens finish) :
    finish.offset = cursor.place.offset + cursor.text.length := by
  induction segmented with
  | finish _ => exact Position.offset_past _ _
  | token takes _ further =>
    have start := takes.start_offset
    have behind := takes.rest_offset
    rw [further, takes.text, List.length_append, List.length_append]
    omega

theorem bounds (segmented : cursor.Segmented tokens finish) :
    ∀ spanned ∈ tokens, cursor.place.offset ≤ spanned.start.offset ∧
      spanned.start.offset < spanned.stop ∧ spanned.stop ≤ finish.offset := by
  induction segmented with
  | finish _ => nofun
  | token takes inner further =>
    have start := takes.start_offset
    have behind := takes.rest_offset
    have positive := takes.length_pos
    have stop := takes.stop
    have last := inner.finish_offset
    intro spanned among
    rcases List.mem_cons.1 among with rfl | later
    · omega
    · have bound := further spanned later
      omega

theorem ordered (segmented : cursor.Segmented tokens finish) :
    tokens.Pairwise fun first second => first.stop ≤ second.start.offset := by
  induction segmented with
  | finish _ => exact .nil
  | token takes inner further =>
    refine .cons (fun later among => ?_) further
    rw [takes.stop]
    exact (inner.bounds later among).1

/-- What no token covers is skipped. -/
theorem outside (segmented : cursor.Segmented tokens finish) {i : Nat} {c : Char}
    (there : cursor.text[i]? = some c)
    (between : ∀ spanned ∈ tokens,
      ¬ (spanned.start.offset ≤ cursor.place.offset + i ∧ cursor.place.offset + i < spanned.stop)) :
    isSkipped c = true := by
  induction segmented generalizing i with
  | finish skipped => exact skipped c (List.mem_of_getElem? there)
  | @token cursor rest spanned gap chars others finish takes _ further =>
    have start := takes.start_offset
    have behind := takes.rest_offset
    have stop := takes.stop
    rw [takes.text] at there
    by_cases inGap : i < gap.length
    · rw [List.getElem?_append_left inGap] at there
      exact takes.skipped c (List.mem_of_getElem? there)
    · rw [List.getElem?_append_right (Nat.le_of_not_lt inGap)] at there
      have clear := between spanned List.mem_cons_self
      have past : chars.length ≤ i - gap.length := by omega
      rw [List.getElem?_append_right past] at there
      refine further there fun later among inside => between later (List.mem_cons_of_mem _ among) ?_
      omega

/-- The characters of a token stand at its range, and are the token with what follows them. -/
theorem slice (segmented : cursor.Segmented tokens finish) :
    ∀ spanned ∈ tokens, ∃ chars rest,
      cursor.text.drop (spanned.start.offset - cursor.place.offset) = chars ++ rest ∧
      chars.length = spanned.stop - spanned.start.offset ∧
      Lexeme.IsToken spanned.token chars rest := by
  induction segmented with
  | finish _ => nofun
  | @token cursor rest first gap chars others finish takes inner further =>
    have start := takes.start_offset
    have behind := takes.rest_offset
    have stop := takes.stop
    intro spanned among
    rcases List.mem_cons.1 among with rfl | later
    · refine ⟨chars, rest.text, ?_, by omega, takes.token⟩
      rw [takes.text, List.drop_left' (by omega)]
    · obtain ⟨slice, after, cut, size, token⟩ := further spanned later
      have bound := inner.bounds spanned later
      refine ⟨slice, after, ?_, size, token⟩
      have passed : (gap ++ chars).drop (spanned.start.offset - cursor.place.offset) = [] := by
        apply List.drop_eq_nil_of_le
        rw [List.length_append]
        omega
      rw [← cut, takes.text, ← List.append_assoc, List.drop_append, passed, List.nil_append,
        List.length_append]
      congr 1
      omega

end Segmented

end Cursor

namespace TokenStream

/-- All places that a stream tells of: where its tokens start, and where it ends or breaks off. -/
def places : TokenStream → List Position
  | .finish place => [place]
  | .broken error => [error.place]
  | .next spanned rest => spanned.start :: rest.places

/-- Each step takes one token off the text, so the whole text is segmented. -/
theorem segmented_of_scan {cursor : Cursor} {tokens : List Spanned} {finish : Position}
    (cut : (scan cursor).tokens = .ok (tokens, finish)) : cursor.Segmented tokens finish := by
  fun_induction scan cursor generalizing tokens with
  | case1 cursor place read =>
    obtain ⟨skipped, rfl⟩ := Cursor.next_finish read
    cases cut
    exact .finish skipped
  | case2 cursor error read => cases cut
  | case3 cursor spanned rest read further =>
    obtain ⟨⟨others, last⟩, found, continued⟩ := Parser.bind_ok cut
    cases continued
    obtain ⟨gap, chars, takes⟩ := Cursor.next_token read
    exact .token takes (further found)

/-- Every place that the scanner tells of is the place behind some part of the text. -/
theorem places_of_scan {cursor : Cursor} {place : Position} (among : place ∈ (scan cursor).places) :
    ∃ before, before <+: cursor.text ∧ place = cursor.place.past before := by
  fun_induction scan cursor with
  | case1 cursor finish read =>
    obtain ⟨-, rfl⟩ := Cursor.next_finish read
    exact ⟨cursor.text, List.prefix_rfl, List.mem_singleton.1 among⟩
  | case2 cursor error read =>
    obtain ⟨before, front, placed⟩ := Cursor.next_broken read
    exact ⟨before, front, (List.mem_singleton.1 among).trans placed⟩
  | case3 cursor spanned rest read further =>
    obtain ⟨gap, chars, takes⟩ := Cursor.next_token read
    rw [takes.text]
    rcases List.mem_cons.1 among with rfl | later
    · exact ⟨gap, List.prefix_append _ _, takes.start⟩
    · obtain ⟨before, front, placed⟩ := further later
      refine ⟨gap ++ (chars ++ before), ?_, ?_⟩
      · exact (List.prefix_append_right_inj _).2 ((List.prefix_append_right_inj _).2 front)
      · rw [placed, takes.place, takes.start, Position.past_append, Position.past_append]

/-- The places of a source are told by their offsets. -/
theorem places_of_source {source : String} {place : Position}
    (among : place ∈ (ofSource source).places) :
    place.offset ≤ source.length ∧ place = .ofOffset source.toList place.offset := by
  obtain ⟨before, front, placed⟩ := places_of_scan among
  have atStart : place = Position.start.past before := placed
  subst atStart
  have whole : before = source.toList.take before.length := List.prefix_iff_eq_take.1 front
  have bound : before.length ≤ source.toList.length := front.length_le
  have offset : (Position.start.past before).offset = before.length := by
    rw [Position.offset_past, Position.start, Nat.zero_add]
  rw [offset, ← String.length_toList]
  refine ⟨bound, ?_⟩
  rw [← Position.start_past_take bound, ← whole]

end TokenStream

/-- The characters of a source that a token was read from. -/
def Spanned.slice (spanned : Spanned) (source : List Char) : List Char :=
  (source.drop spanned.start.offset).take (spanned.stop - spanned.start.offset)

/-- The tokens are ranges of the characters of a source, in order, apart and none of them empty, and
the end is behind the last character. What is outside the ranges has no meaning, and each range is
its token also when it is the whole source. -/
structure Segments (source : List Char) (tokens : List Spanned) (finish : Position) : Prop where
  finish : finish.offset = source.length
  nonempty : ∀ spanned ∈ tokens,
    spanned.start.offset < spanned.stop ∧ spanned.stop ≤ source.length
  ordered : tokens.Pairwise fun first second => first.stop ≤ second.start.offset
  outside : ∀ i c, source[i]? = some c →
    (∀ spanned ∈ tokens, ¬ (spanned.start.offset ≤ i ∧ i < spanned.stop)) →
    Text.isBlank c = true ∨ Text.isControl c = true
  alone : ∀ spanned ∈ tokens,
    (TokenStream.ofSource (String.ofList (spanned.slice source))).tokens =
      .ok ([⟨spanned.token, .start, spanned.stop - spanned.start.offset⟩],
        .ofOffset (spanned.slice source) (spanned.stop - spanned.start.offset))

namespace TokenStream

/-- A source that is one token. -/
theorem tokens_alone {token : Token} {chars : List Char} (whole : Lexeme.IsToken token chars []) :
    (ofSource (String.ofList chars)).tokens =
      .ok ([⟨token, .start, chars.length⟩], .ofOffset chars chars.length) := by
  have cut : Cuts .start (String.ofList chars).toList []
      [⟨token, .start, (Position.start.past chars).offset⟩] := by
    rw [String.toList_ofList]
    exact .token whole
  have offset : (Position.start.past chars).offset = chars.length := by
    rw [Position.offset_past, Position.start, Nat.zero_add]
  rw [cut.ofSource, String.toList_ofList, offset, ← Position.start_past_take (Nat.le_refl _),
    List.take_length]
  rfl

/-- The characters at the range of a token are that token. -/
theorem isToken_slice {source : String} {tokens : List Spanned} {finish : Position}
    (cut : (ofSource source).tokens = .ok (tokens, finish)) :
    ∀ spanned ∈ tokens, ∃ rest,
      (spanned.slice source.toList).length = spanned.stop - spanned.start.offset ∧
      Lexeme.IsToken spanned.token (spanned.slice source.toList) rest := by
  intro spanned among
  obtain ⟨chars, rest, there, size, token⟩ := (segmented_of_scan cut).slice spanned among
  have same : spanned.slice source.toList = chars := by
    rw [Spanned.slice, ← size]
    exact (congrArg (List.take _) there).trans (List.take_left' rfl)
  exact ⟨rest, by rw [same, size], same ▸ token⟩

/-- The tokens that a source is cut into are its segments. -/
theorem segments_of_tokens {source : String} {tokens : List Spanned}
    {finish : Position} (cut : (ofSource source).tokens = .ok (tokens, finish)) :
    Segments source.toList tokens finish := by
  have segmented := segmented_of_scan cut
  have last : finish.offset = source.toList.length := by
    rw [segmented.finish_offset]
    exact Nat.zero_add _
  refine ⟨last, fun spanned among => ?_, segmented.ordered, fun i c there between => ?_,
    fun spanned among => ?_⟩
  · rw [← last]
    exact (segmented.bounds spanned among).2
  · have clear : ∀ spanned ∈ tokens, ¬ (spanned.start.offset ≤ Position.start.offset + i ∧
        Position.start.offset + i < spanned.stop) := by
      simpa [Position.start] using between
    have skipped := segmented.outside there clear
    simpa [Cursor.isSkipped] using skipped
  · obtain ⟨rest, size, token⟩ := isToken_slice cut spanned among
    rw [← size]
    exact tokens_alone token.alone

end TokenStream
end RuleScript
