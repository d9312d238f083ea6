import RuleScript.Proofs.Decimal.Numeral
import RuleScript.Proofs.Script.Soundness

/-!
What text is cut into which tokens. A stretch of text is one token where what follows cannot go on
it (`Lexeme.IsToken`), and texts are cut piece by piece (`TokenStream.Cuts`). Conversely a name that
a source was cut into is a word that is no keyword (`Lexeme.IsName`).
-/
namespace RuleScript

@[simp] theorem Position.past_nil (place : Position) : place.past [] = place := rfl

@[simp] theorem Position.past_cons (place : Position) (c : Char) (text : List Char) :
    place.past (c :: text) = (place.step c).past text := rfl

@[simp] theorem Position.past_append (place : Position) (text more : List Char) :
    place.past (text ++ more) = (place.past text).past more :=
  List.foldl_append

/-- What passes a test up to where the test first fails. -/
theorem takeWhile_append_stopped {test : Char → Bool} {text rest : List Char}
    (passes : ∀ c ∈ text, test c = true) (stopped : ∀ c ∈ rest.head?, test c = false) :
    (text ++ rest).takeWhile test = text ∧ (text ++ rest).dropWhile test = rest := by
  rw [List.takeWhile_append_of_pos passes, List.dropWhile_append_of_pos passes]
  cases rest with
  | nil => simp
  | cons c others =>
    have fails := stopped c rfl
    simp [fails]

namespace Lexeme

/-- The characters are a token where the rest follows. -/
def IsToken (token : Token) (chars rest : List Char) : Prop :=
  ∃ c others, chars = c :: others ∧ Cursor.isSkipped c = false ∧
    read c (others ++ rest) = .ok (token, chars.length)

/-- The characters are those of a name or of a keyword. -/
def isWord : List Char → Bool
  | [] => false
  | c :: others =>
    !Cursor.isSkipped c && c != '"' && !c.isDigit && startsName c && others.all continuesName

/-- The text is a word that is no keyword. -/
def IsName (name : String) : Prop :=
  isWord name.toList = true ∧ ofWord name = .name name

/-- A word ends where a character follows that cannot go on it. -/
theorem isToken_word {text rest : List Char} (word : isWord text = true)
    (ends : ∀ c ∈ rest.head?, continuesName c = false) :
    IsToken (ofWord (String.ofList text)) text rest := by
  cases text with
  | nil => cases word
  | cons c others =>
    simp only [isWord, Bool.and_eq_true, Bool.not_eq_true', bne_iff_ne, ne_eq,
      List.all_eq_true] at word
    obtain ⟨⟨⟨⟨counts, unquoted⟩, nonDigit⟩, starts⟩, continues⟩ := word
    refine ⟨c, others, rfl, counts, ?_⟩
    have all : ∀ x ∈ c :: others, continuesName x = true := by
      intro x among
      rcases List.mem_cons.1 among with rfl | later
      · exact continuesName_of_startsName starts
      · exact continues x later
    have taken := (takeWhile_append_stopped all ends).1
    rw [List.cons_append] at taken
    unfold read
    rw [if_neg unquoted, nonDigit, if_neg Bool.false_ne_true, if_pos starts, readWord, taken]

theorem isToken_name {name : String} (named : IsName name) {rest : List Char}
    (ends : ∀ c ∈ rest.head?, continuesName c = false) :
    IsToken (.name name) name.toList rest := by
  have token := isToken_word named.1 ends
  rwa [String.ofList_toList, named.2] at token

/-- A numeral ends where neither a digit, a point nor a name follows. -/
theorem isToken_number {text rest : List Char} {n : Decimal} (numeral : Decimal.IsNumeral text n)
    (ends : ∀ c ∈ rest.head?, isNumberChar c = false)
    (apart : ∀ c ∈ rest.head?, startsName c = false) : IsToken (.number n) text rest := by
  obtain ⟨c, others, rfl, digit⟩ := numeral.opens
  have chars : ∀ x ∈ c :: others, isNumberChar x = true := fun x among => by
    simpa [isNumberChar] using numeral.chars x among
  obtain ⟨taken, left⟩ := takeWhile_append_stopped chars ends
  have unnamed : rest.head?.any startsName = false := by
    cases rest with
    | nil => rfl
    | cons first _ => exact apart first rfl
  have range : 48 ≤ c.toNat ∧ c.toNat ≤ 57 := by
    simp only [Char.isDigit, Bool.and_eq_true, decide_eq_true_eq, ge_iff_le,
      UInt32.le_iff_toNat_le] at digit
    exact digit
  have counts : Cursor.isSkipped c = false := by
    rw [Bool.eq_false_iff]
    intro skipped
    simp only [Cursor.isSkipped, Text.isBlank, Text.isControl, Bool.or_eq_true, Bool.and_eq_true,
      decide_eq_true_eq] at skipped
    omega
  have unquoted : c ≠ '"' := by
    rintro rfl
    cases digit
  refine ⟨c, others, rfl, counts, ?_⟩
  unfold read
  rw [if_neg unquoted, if_pos digit, ← List.cons_append, readNumber]
  simp only [taken, left, unnamed, Bool.false_eq_true, if_false, numeral.value]
  rw [if_neg]
  simp only [Bool.or_eq_true, decide_eq_true_eq, not_or, Nat.not_lt]
  exact ⟨numeral.points, numeral.ends⟩

/-- A character that stands for itself between quotes. -/
def isQuotable (c : Char) : Bool :=
  c != '"' && c != '\\' && !isBarred c

theorem quotation_plain {c : Char} (unquoted : c ≠ '"') (unescaped : c ≠ '\\') (rest : List Char) :
    quotation (c :: rest) =
      if isBarred c then .barred c 0 else (quotation rest).after [c] 1 :=
  quotation.eq_5 c rest unquoted (fun same _ => unescaped same) (fun _ _ same _ => unescaped same)

theorem quotation_closed {text : List Char} (plain : ∀ c ∈ text, isQuotable c = true)
    (rest : List Char) :
    quotation (text ++ '"' :: rest) = .closed text (text.length + 1) := by
  induction text with
  | nil => rfl
  | cons c others further =>
    have quotable := plain c List.mem_cons_self
    simp only [isQuotable, Bool.and_eq_true, bne_iff_ne, ne_eq, Bool.not_eq_true'] at quotable
    obtain ⟨⟨unquoted, unescaped⟩, unbarred⟩ := quotable
    have inside := further fun x among => plain x (List.mem_cons_of_mem _ among)
    rw [List.cons_append, quotation_plain unquoted unescaped, if_neg (by simp [unbarred]), inside,
      Quotation.after, List.singleton_append, List.length_cons, Nat.add_comm 1]

theorem isToken_text {text : List Char} (plain : ∀ c ∈ text, isQuotable c = true)
    (rest : List Char) :
    IsToken (.text (String.ofList text)) ('"' :: (text ++ ['"'])) rest := by
  refine ⟨'"', text ++ ['"'], rfl, rfl, ?_⟩
  unfold read
  rw [if_pos rfl, List.append_assoc, List.singleton_append, readText, quotation_closed plain]
  simp

/-- Every symbol is a token in front of a space. -/
theorem isToken_symbol (symbol : Symbol) (rest : List Char) :
    IsToken (.symbol symbol) symbol.spelling.toList (' ' :: rest) := by
  cases symbol <;> exact ⟨_, _, rfl, rfl, rfl⟩

/-- Symbols that no other symbol starts with. -/
def Delimits : Symbol → Prop
  | .openParen | .closeParen | .openBracket | .closeBracket | .comma | .question | .minus => True
  | _ => False

theorem isToken_delimiter (symbol : Symbol) (delimits : Delimits symbol) (rest : List Char) :
    IsToken (.symbol symbol) symbol.spelling.toList rest := by
  cases symbol <;> first | exact ⟨_, _, rfl, rfl, rfl⟩ | cases delimits

theorem isToken_bang {c : Char} (clear : c ≠ '=') (rest : List Char) :
    IsToken (.symbol .bang) ['!'] (c :: rest) := by
  have single : symbol? ('!' :: c :: rest) = some (.bang, 1) := by simp [symbol?, clear]
  have unnamed : startsName '!' = false := by decide
  refine ⟨'!', [], rfl, rfl, ?_⟩
  unfold read
  rw [if_neg (by decide), if_neg (by decide), unnamed, List.nil_append, single]
  rfl

theorem ofWord_eq_name {word name : String} (named : ofWord word = .name name) : word = name := by
  unfold ofWord at named
  split at named <;> cases named
  rfl

/-- A name that was read is a word that is no keyword. -/
theorem isName_of_read {c : Char} {rest : List Char} {name : String} {length : Nat}
    (counts : Cursor.isSkipped c = false) (success : read c rest = .ok (.name name, length)) :
    IsName name := by
  unfold read at success
  split at success
  · unfold readText at success
    split at success <;> cases success
  next unquoted =>
  split at success
  · unfold readNumber at success
    dsimp only at success
    repeat' split at success
    all_goals cases success
  next nonDigit =>
  split at success
  · next starts =>
    rw [readWord, Except.ok.injEq, Prod.mk.injEq] at success
    have spelled := ofWord_eq_name success.1
    have named := success.1
    rw [spelled] at named
    refine ⟨?_, named⟩
    rw [← spelled, String.toList_ofList,
      List.takeWhile_cons_of_pos (continuesName_of_startsName starts)]
    simp only [isWord, counts, nonDigit, starts, Bool.not_false, Bool.true_and, Bool.and_true,
      Bool.and_eq_true, bne_iff_ne, ne_eq]
    exact ⟨unquoted, List.all_takeWhile⟩
  · split at success <;> cases success

end Lexeme

namespace Cursor

theorem skip_cons_of_skipped {c : Char} (skipped : isSkipped c = true) (text : List Char)
    (place : Position) : skip ⟨c :: text, place⟩ = skip ⟨text, place.step c⟩ := by
  simp [skip, skipped]

theorem skip_cons_of_counts {c : Char} (counts : isSkipped c = false) (text : List Char)
    (place : Position) : skip ⟨c :: text, place⟩ = ⟨c :: text, place⟩ := by
  simp [skip, counts]

/-- Skipping stops at a character that counts. -/
theorem counts_of_skip {cursor : Cursor} {c : Char} {others : List Char}
    (here : cursor.skip.text = c :: others) : isSkipped c = false := by
  have stopped := List.head?_dropWhile_not isSkipped cursor.text
  rw [show cursor.text.dropWhile isSkipped = c :: others from here] at stopped
  exact stopped

theorem next_isToken {token : Token} {chars rest : List Char}
    (whole : Lexeme.IsToken token chars rest) (place : Position) :
    next ⟨chars ++ rest, place⟩ =
      .token ⟨token, place, (place.past chars).offset⟩ ⟨rest, place.past chars⟩ := by
  obtain ⟨c, others, rfl, counts, success⟩ := whole
  have here := skip_cons_of_counts counts (others ++ rest) place
  unfold next
  rw [List.cons_append, here]
  simp only [success, drop, ← List.cons_append, List.drop_left, List.take_left]

end Cursor

namespace TokenStream

theorem scan_congr {cursor other : Cursor} (same : cursor.next = other.next) :
    scan cursor = scan other := by
  cases found : other.next with
  | finish place => rw [scan_finish found, scan_finish (same.trans found)]
  | broken error => rw [scan_broken found, scan_broken (same.trans found)]
  | token spanned rest => rw [scan_token found, scan_token (same.trans found)]

/-- The text in front of the rest is cut into the tokens. -/
def Cuts (place : Position) (text rest : List Char) (tokens : List Spanned) : Prop :=
  scan ⟨text ++ rest, place⟩ = (scan ⟨rest, place.past text⟩).prepend tokens

namespace Cuts

variable {place : Position} {text more rest : List Char} {ts us : List Spanned}

theorem append (first : Cuts place text (more ++ rest) ts)
    (second : Cuts (place.past text) more rest us) : Cuts place (text ++ more) rest (ts ++ us) := by
  unfold Cuts at first second ⊢
  rw [List.append_assoc, first, second, Position.past_append, prepend_append]

theorem token {token : Token} (whole : Lexeme.IsToken token text rest) :
    Cuts place text rest [⟨token, place, (place.past text).offset⟩] := by
  unfold Cuts
  rw [scan_token (Cursor.next_isToken whole place)]
  rfl

theorem space : Cuts place [' '] rest [] := by
  have same : Cursor.next ⟨' ' :: rest, place⟩ = Cursor.next ⟨rest, place.step ' '⟩ := by
    unfold Cursor.next
    rw [Cursor.skip_cons_of_skipped rfl]
  exact scan_congr same

/-- A whole source is cut when nothing is left behind its text. -/
theorem ofSource {source : String} (cut : Cuts .start source.toList [] ts) :
    TokenStream.ofSource source =
      (TokenStream.finish (Position.start.past source.toList)).prepend ts := by
  have atEnd (place : Position) : scan ⟨[], place⟩ = .finish place := scan_finish rfl
  rwa [Cuts, List.append_nil, atEnd] at cut

end Cuts

/-- The names in a source that can be cut into tokens are words. -/
theorem isName_of_scan {cursor : Cursor} {finish : Position} {tokens : List Spanned}
    (cut : scan cursor = (TokenStream.finish finish).prepend tokens) {spanned : Spanned}
    (among : spanned ∈ tokens) {name : String} (named : spanned.token = .name name) :
    Lexeme.IsName name := by
  induction tokens generalizing cursor with
  | nil => cases among
  | cons first others further =>
    rw [prepend_cons] at cut
    cases found : cursor.next with
    | finish place => rw [scan_finish found] at cut; cases cut
    | broken error => rw [scan_broken found] at cut; cases cut
    | token read rest =>
      rw [scan_token found, TokenStream.next.injEq] at cut
      rcases List.mem_cons.1 among with rfl | later
      · obtain ⟨rfl, -⟩ := cut
        unfold Cursor.next at found
        dsimp only at found
        split at found
        · cases found
        · next c text here =>
          have counts := Cursor.counts_of_skip here
          split at found
          · next token length success =>
            cases found
            dsimp only at named
            subst named
            exact Lexeme.isName_of_read counts success
          · cases found
      · exact further cut.2 later

end TokenStream
end RuleScript
