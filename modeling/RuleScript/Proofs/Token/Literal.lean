import RuleScript.Proofs.Token.Segmentation

/-!
Text literals. What stands between the quotes goes over into the text piece by piece, a plain
character or an escape at a time (`Lexeme.Inside`). A control character other than a line break is
refused where it stands as a plain character, and the place of the fault is its own. Behind a
backslash it is not looked at: no escape is for it, so the two characters are kept as they are, and
a literal can bring a control character into a text in this way (`Lexeme.Guarded`). In the other
direction each text without control characters, but for tabs and line breaks, has a literal that
reads as that text whatever follows it (`Lexeme.literal`).
-/
namespace RuleScript

namespace Lexeme

/-- What stands between the quotes of a literal, and the text that it is for. -/
inductive Inside : List Char → List Char → Prop
  | nil : Inside [] []
  | plain {c : Char} {inner value : List Char} : isQuotable c = true → Inside inner value →
      Inside (c :: inner) (c :: value)
  | pair {c : Char} {inner value : List Char} : Inside inner value →
      Inside ('\\' :: c :: inner) (unescape c ++ value)

theorem isQuotable_iff (c : Char) :
    isQuotable c = true ↔ c ≠ '"' ∧ c ≠ '\\' ∧ isBarred c = false := by
  simp [isQuotable, and_assoc]

theorem quotation_pair (c : Char) (rest : List Char) :
    quotation ('\\' :: c :: rest) = (quotation rest).after (unescape c) 2 := rfl

theorem Quotation.after_nil (rest : Quotation) : rest.after [] 0 = rest := by
  cases rest <;> simp [Quotation.after]

theorem Quotation.after_after (rest : Quotation) (value front : List Char) (length size : Nat) :
    (rest.after value length).after front size = rest.after (front ++ value) (size + length) := by
  cases rest <;> simp [Quotation.after, Nat.add_assoc]

/-- The reader goes through the inside of a literal piece by piece. -/
theorem Inside.quotation_append {inner value : List Char} (inside : Inside inner value)
    (rest : List Char) :
    quotation (inner ++ rest) = (quotation rest).after value inner.length := by
  induction inside with
  | nil => exact (quotation rest).after_nil.symm
  | plain quotable _ further =>
    obtain ⟨unquoted, unescaped, free⟩ := (isQuotable_iff _).1 quotable
    rw [List.cons_append, quotation_plain unquoted unescaped, free, if_neg Bool.false_ne_true,
      further, Quotation.after_after, List.singleton_append, List.length_cons, Nat.add_comm]
  | pair _ further =>
    rw [List.cons_append, List.cons_append, quotation_pair, further, Quotation.after_after,
      List.length_cons, List.length_cons, Nat.add_comm 2]

theorem Inside.closed {inner value : List Char} (inside : Inside inner value) (rest : List Char) :
    quotation (inner ++ '"' :: rest) = .closed value (inner.length + 1) := by
  rw [inside.quotation_append]
  simp [quotation, Quotation.after]

theorem Inside.barred {inner value : List Char} (inside : Inside inner value) {c : Char}
    (barred : isBarred c = true) (rest : List Char) :
    quotation (inner ++ c :: rest) = .barred c inner.length := by
  have unquoted : c ≠ '"' := by rintro rfl; cases barred
  have unescaped : c ≠ '\\' := by rintro rfl; cases barred
  rw [inside.quotation_append, quotation_plain unquoted unescaped, if_pos barred]
  rfl

/-- A literal that was read has an inside. -/
theorem inside_of_closed {text value : List Char} {length : Nat}
    (closed : quotation text = .closed value length) :
    ∃ inner rest, text = inner ++ '"' :: rest ∧ length = inner.length + 1 ∧ Inside inner value := by
  fun_induction quotation text generalizing value length with
  | case1 => cases closed
  | case2 rest =>
    cases closed
    exact ⟨[], rest, rfl, rfl, .nil⟩
  | case3 => cases closed
  | case4 c rest further =>
    obtain ⟨value, length, found, rfl, rfl⟩ := Quotation.after_closed closed
    obtain ⟨inner, behind, rfl, rfl, inside⟩ := further found
    exact ⟨'\\' :: c :: inner, behind, rfl, by simp; omega, .pair inside⟩
  | case5 c rest _ _ _ barred => cases closed
  | case6 c rest unquoted single pair free further =>
    obtain ⟨value, length, found, rfl, rfl⟩ := Quotation.after_closed closed
    obtain ⟨inner, behind, rfl, rfl, inside⟩ := further found
    have quotable : isQuotable c = true := (isQuotable_iff c).2
      ⟨unquoted, unescaped_of_unpaired single pair, Bool.not_eq_true _ ▸ free⟩
    exact ⟨c :: inner, behind, rfl, by simp; omega, .plain quotable inside⟩

theorem Inside.isToken {inner value : List Char} (inside : Inside inner value) (rest : List Char) :
    IsToken (.text (String.ofList value)) ('"' :: (inner ++ ['"'])) rest := by
  refine ⟨'"', inner ++ ['"'], rfl, rfl, ?_⟩
  unfold read
  rw [if_pos rfl, List.append_assoc, List.singleton_append, readText, inside.closed]
  simp

/-- A text token is a literal. -/
theorem inside_of_isToken {s : String} {chars rest : List Char}
    (whole : IsToken (.text s) chars rest) :
    ∃ inner, chars = '"' :: (inner ++ ['"']) ∧ Inside inner s.toList := by
  obtain ⟨c, others, rfl, -, success⟩ := whole
  unfold read at success
  split at success
  · next quote =>
    subst quote
    unfold readText at success
    split at success
    · next value length closed =>
      obtain ⟨inner, behind, text, rfl, inside⟩ := inside_of_closed closed
      rw [Except.ok.injEq, Prod.mk.injEq, Token.text.injEq] at success
      obtain ⟨rfl, size⟩ := success
      rw [List.append_cons] at text
      obtain ⟨rfl, -⟩ := List.append_inj text (by simpa using size.symm)
      exact ⟨inner, rfl, String.toList_ofList ▸ inside⟩
    · cases success
    · cases success
  split at success
  · unfold readNumber at success
    dsimp only at success
    repeat' split at success
    all_goals cases success
  split at success
  · rw [readWord, Except.ok.injEq, Prod.mk.injEq] at success
    have word := success.1
    unfold ofWord at word
    split at word <;> cases word
  · split at success <;> cases success

/-- The text ends in a backslash that escapes what follows it. A backslash does so unless it is
escaped itself. -/
def escapes (text : List Char) : Bool :=
  text.foldl (fun escaped c => c == '\\' && !escaped) false

theorem escapes_plain {c : Char} (unescaped : c ≠ '\\') (text : List Char) :
    escapes (c :: text) = escapes text := by
  have other : (c == '\\') = false := beq_eq_false_iff_ne.2 unescaped
  simp [escapes, other]

theorem escapes_pair (c : Char) (text : List Char) :
    escapes ('\\' :: c :: text) = escapes text := by
  simp [escapes]

/-- A character stands in a text behind a backslash that escapes it. -/
def HasEscaped (text : List Char) (c : Char) : Prop :=
  ∃ i, text[i]? = some c ∧ escapes (text.take i) = true

theorem hasEscaped_pair (c : Char) (text : List Char) : HasEscaped ('\\' :: c :: text) c :=
  ⟨1, rfl, rfl⟩

theorem HasEscaped.behind_plain {text : List Char} {c d : Char} (escaped : HasEscaped text c)
    (unescaped : d ≠ '\\') : HasEscaped (d :: text) c := by
  obtain ⟨i, there, behind⟩ := escaped
  exact ⟨i + 1, there, by rwa [List.take_succ_cons, escapes_plain unescaped]⟩

theorem HasEscaped.behind_pair {text : List Char} {c : Char} (escaped : HasEscaped text c)
    (d : Char) : HasEscaped ('\\' :: d :: text) c := by
  obtain ⟨i, there, behind⟩ := escaped
  exact ⟨i + 2, there, by rwa [List.take_succ_cons, List.take_succ_cons, escapes_pair]⟩

/-- A control character other than a line break stands in a literal only behind a backslash that
escapes it. -/
theorem Inside.escapes_of_barred {inner value : List Char} (inside : Inside inner value) {i : Nat}
    {c : Char} (there : inner[i]? = some c) (barred : isBarred c = true) :
    escapes (inner.take i) = true := by
  induction inside generalizing i with
  | nil => cases there
  | plain quotable _ further =>
    obtain ⟨-, unescaped, free⟩ := (isQuotable_iff _).1 quotable
    cases i with
    | zero =>
      cases there
      exact absurd (free.symm.trans barred) Bool.false_ne_true
    | succ i =>
      rw [List.take_succ_cons, escapes_plain unescaped]
      exact further there
  | pair _ further =>
    rcases i with - | - | i
    · cases there
      cases barred
    · rfl
    · rw [List.take_succ_cons, List.take_succ_cons, escapes_pair]
      exact further there

/-- An escape stands for one character, and of these only the tab is barred, or for itself. -/
theorem unescape_cases (c : Char) :
    (∃ d, unescape c = [d] ∧ (isBarred d = true → d = '\t' ∧ c = 't')) ∨
      unescape c = ['\\', c] := by
  unfold unescape
  split
  · exact .inl ⟨_, rfl, fun barred => by cases barred⟩
  · exact .inl ⟨_, rfl, fun _ => ⟨rfl, rfl⟩⟩
  · exact .inl ⟨_, rfl, fun barred => by cases barred⟩
  · exact .inl ⟨_, rfl, fun barred => by cases barred⟩
  · exact .inr rfl

/-- Where a barred character of a text comes from: a tab from its escape, and any other from one
that stands escaped in the literal, with the backslash in front. -/
def Explains (inner value : List Char) (j : Nat) (c : Char) : Prop :=
  (c = '\t' ∧ HasEscaped inner 't') ∨
    ∃ k, j = k + 1 ∧ value[k]? = some '\\' ∧ HasEscaped inner c

/-- An explanation holds on behind further characters. -/
theorem Explains.behind {inner value more : List Char} {j : Nat} {c : Char}
    (explains : Explains inner value j c) (front : List Char)
    (kept : ∀ d, HasEscaped inner d → HasEscaped more d) :
    Explains more (front ++ value) (j + front.length) c := by
  rcases explains with ⟨tab, escaped⟩ | ⟨k, rfl, backslash, escaped⟩
  · exact .inl ⟨tab, kept _ escaped⟩
  · refine .inr ⟨k + front.length, by omega, ?_, kept _ escaped⟩
    rw [List.getElem?_append_right (Nat.le_add_left _ _), Nat.add_sub_cancel, backslash]

theorem Inside.explains {inner value : List Char} (inside : Inside inner value) {j : Nat}
    {c : Char} (there : value[j]? = some c) (barred : isBarred c = true) :
    Explains inner value j c := by
  induction inside generalizing j with
  | nil => cases there
  | @plain d inner value quotable _ further =>
    obtain ⟨-, unescaped, free⟩ := (isQuotable_iff d).1 quotable
    cases j with
    | zero =>
      cases there
      exact absurd (free.symm.trans barred) Bool.false_ne_true
    | succ j =>
      exact (further there).behind [d] fun _ escaped => escaped.behind_plain unescaped
  | @pair d inner value _ further =>
    rcases unescape_cases d with ⟨x, single, tab⟩ | itself
    · rw [single] at there ⊢
      cases j with
      | zero =>
        cases there
        obtain ⟨rfl, rfl⟩ := tab barred
        exact .inl ⟨rfl, hasEscaped_pair _ _⟩
      | succ j => exact (further there).behind [x] fun _ escaped => escaped.behind_pair d
    · rw [itself] at there ⊢
      rcases j with - | - | j
      · cases there
        cases barred
      · cases there
        exact .inr ⟨0, rfl, rfl, hasEscaped_pair _ _⟩
      · exact (further there).behind ['\\', d] fun _ escaped => escaped.behind_pair d

/-- A literal goes on behind the text: no escape is open at its end, and outside of escapes it has
neither a quote nor a barred character. -/
structure StaysOpen (inner : List Char) : Prop where
  complete : escapes inner = false
  clear : ∀ i c, inner[i]? = some c → escapes (inner.take i) = false →
    c ≠ '"' ∧ isBarred c = false

theorem StaysOpen.exists_inside {inner : List Char} (stays : StaysOpen inner) :
    ∃ value, Inside inner value := by
  obtain ⟨complete, clear⟩ := stays
  fun_induction quotation inner with
  | case1 => exact ⟨[], .nil⟩
  | case2 rest => exact absurd rfl (clear 0 '"' rfl rfl).1
  | case3 => cases complete
  | case4 c rest further =>
    rw [escapes_pair] at complete
    obtain ⟨value, inside⟩ := further complete fun i d there outside =>
      clear (i + 2) d there (by rwa [List.take_succ_cons, List.take_succ_cons, escapes_pair])
    exact ⟨_, .pair inside⟩
  | case5 c rest _ _ _ barred =>
    have free := (clear 0 c rfl rfl).2
    exact absurd (free.symm.trans barred) Bool.false_ne_true
  | case6 c rest unquoted single pair free further =>
    have unescaped := unescaped_of_unpaired single pair
    rw [escapes_plain unescaped] at complete
    obtain ⟨value, inside⟩ := further complete fun i d there outside =>
      clear (i + 1) d there (by rwa [List.take_succ_cons, escapes_plain unescaped])
    exact ⟨_, .plain ((isQuotable_iff c).2 ⟨unquoted, unescaped, Bool.not_eq_true _ ▸ free⟩) inside⟩

/-- What a literal and its text hold of barred characters. -/
structure Guarded (inner value : List Char) : Prop where
  /-- They stand behind a backslash that escapes them. -/
  escaped : ∀ i c, inner[i]? = some c → isBarred c = true → escapes (inner.take i) = true
  explained : ∀ j c, value[j]? = some c → isBarred c = true → Explains inner value j c
  /-- Where none of them is escaped there are none at all, but for tabs in the text that are written
  as escapes. -/
  clear : (∀ c, HasEscaped inner c → isBarred c = false) →
    (∀ c ∈ inner, isBarred c = false) ∧
      ∀ c ∈ value, isBarred c = true → c = '\t' ∧ HasEscaped inner 't'

theorem Inside.guarded {inner value : List Char} (inside : Inside inner value) :
    Guarded inner value := by
  refine ⟨fun i c there barred => inside.escapes_of_barred there barred,
    fun j c there barred => inside.explains there barred, fun free => ⟨fun c among => ?_, ?_⟩⟩
  · obtain ⟨i, there⟩ := List.getElem?_of_mem among
    by_contra present
    have barred : isBarred c = true := Bool.not_eq_false _ ▸ present
    exact present (free c ⟨i, there, inside.escapes_of_barred there barred⟩)
  · intro c among barred
    obtain ⟨j, there⟩ := List.getElem?_of_mem among
    rcases inside.explains there barred with tab | ⟨-, -, -, escaped⟩
    · exact tab
    · exact absurd ((free c escaped).symm.trans barred) Bool.false_ne_true

/-- A character as a literal writes it. A carriage return stands for itself. -/
def spell : Char → List Char
  | '\\' => ['\\', '\\']
  | '"' => ['\\', '"']
  | '\t' => ['\\', 't']
  | '\n' => ['\\', 'n']
  | c => [c]

/-- The literal for a text. -/
def literal (text : List Char) : List Char :=
  '"' :: (text.flatMap spell ++ ['"'])

/-- A character that has no spelling: it is barred, and of these only the tab has an escape. -/
def isUnwritable (c : Char) : Bool :=
  isBarred c && c != '\t'

theorem isUnwritable_eq_false_iff (c : Char) : isUnwritable c = false ↔
    (Text.isControl c = true → c = '\t' ∨ c = '\n' ∨ c = '\r') := by
  cases control : Text.isControl c with
  | false => simp [isUnwritable, isBarred, control]
  | true =>
    simp only [isUnwritable, isBarred, control, Bool.and_eq_false_iff, bne_eq_false_iff_eq]
    grind

theorem spell_of_barred {c : Char} (barred : isBarred c = true) (other : c ≠ '\t') :
    spell c = [c] := by
  unfold spell
  split
  · cases barred
  · cases barred
  · exact absurd rfl other
  · cases barred
  · rfl

theorem Inside.spell {c : Char} (writable : isUnwritable c = false) {inner value : List Char}
    (inside : Inside inner value) : Inside (spell c ++ inner) (c :: value) := by
  unfold Lexeme.spell
  split
  · exact .pair inside
  · exact .pair inside
  · exact .pair inside
  · exact .pair inside
  · next unescaped unquoted untabbed _ =>
    refine .plain ((isQuotable_iff c).2 ⟨unquoted, unescaped, ?_⟩) inside
    simpa [isUnwritable, show c ≠ '\t' from untabbed] using writable

theorem inside_flatMap_spell {text : List Char} (writable : ∀ c ∈ text, isUnwritable c = false) :
    Inside (text.flatMap spell) text := by
  induction text with
  | nil => exact .nil
  | cons c text further =>
    rw [List.flatMap_cons]
    exact (further fun d among => writable d (List.mem_cons_of_mem _ among)).spell
      (writable c List.mem_cons_self)

end Lexeme

namespace Cursor

open Lexeme

/-- A barred character inside a literal breaks the source off where it stands. -/
theorem next_barred {inner value : List Char} (inside : Inside inner value) {c : Char}
    (barred : isBarred c = true) (rest : List Char) (place : Position) :
    next ⟨'"' :: (inner ++ c :: rest), place⟩ =
      .broken ⟨.illegalSymbol c, place.past ('"' :: inner)⟩ := by
  have failure : Lexeme.read '"' (inner ++ c :: rest) =
      .error (.illegalSymbol c, inner.length + 1) := by
    unfold Lexeme.read
    rw [if_pos rfl, readText, inside.barred barred]
  unfold next
  rw [skip_cons_of_counts rfl]
  simp only [failure, drop, List.take_succ_cons, List.take_left]

end Cursor

namespace TokenStream

theorem tokens_prepend_broken (tokens : List Spanned) (error : ScanError) :
    ((TokenStream.broken error).prepend tokens).tokens = .error error := by
  induction tokens with
  | nil => rfl
  | cons first others further =>
    rw [prepend_cons, TokenStream.tokens, further]
    rfl

open Lexeme in
/-- The source breaks off at a barred character in a literal that is open there. -/
theorem tokens_barred {source : String} {before inner more : List Char} {c : Char}
    {tokens : List Spanned} (whole : source.toList = before ++ '"' :: (inner ++ c :: more))
    (cut : Cuts .start before ('"' :: (inner ++ c :: more)) tokens) (stays : StaysOpen inner)
    (barred : isBarred c = true) :
    (ofSource source).tokens =
      .error ⟨.illegalSymbol c, .ofOffset source.toList (before.length + 1 + inner.length)⟩ := by
  obtain ⟨value, inside⟩ := stays.exists_inside
  have broken := scan_broken (Cursor.next_barred inside barred more (Position.start.past before))
  have front : source.toList.take (before.length + 1 + inner.length) = before ++ '"' :: inner := by
    rw [whole, ← List.cons_append, ← List.append_assoc]
    exact List.take_left' (by simp; omega)
  have within : before.length + 1 + inner.length ≤ source.toList.length := by
    rw [whole]
    simp
    omega
  rw [ofSource, Cursor.ofSource, ← Position.start_past_take within, front, whole, cut, broken,
    tokens_prepend_broken, Position.past_append]

end TokenStream

open Lexeme

/-- A text token of any source has a literal whose barred characters are all escaped. Where a barred
character stands in an open literal and is not escaped, the source breaks off at that character. -/
theorem literals_guarded (source : String) :
    (∀ tokens finish, (TokenStream.ofSource source).tokens = .ok (tokens, finish) →
      ∀ spanned ∈ tokens, ∀ s, spanned.token = .text s →
        ∃ inner, spanned.slice source.toList = '"' :: (inner ++ ['"']) ∧
          Inside inner s.toList ∧ Guarded inner s.toList) ∧
    ∀ before inner c more tokens, source.toList = before ++ '"' :: (inner ++ c :: more) →
      TokenStream.Cuts .start before ('"' :: (inner ++ c :: more)) tokens → StaysOpen inner →
      isBarred c = true →
      (TokenStream.ofSource source).tokens =
        .error ⟨.illegalSymbol c, .ofOffset source.toList (before.length + 1 + inner.length)⟩ := by
  refine ⟨fun tokens finish cut spanned among s text => ?_,
    fun before inner c more tokens whole cut stays barred =>
      TokenStream.tokens_barred whole cut stays barred⟩
  obtain ⟨rest, -, token⟩ := TokenStream.isToken_slice cut spanned among
  rw [text] at token
  obtain ⟨inner, slice, inside⟩ := inside_of_isToken token
  exact ⟨inner, slice, inside, inside.guarded⟩

/-- The first literal has a tab and an escaped bell; in the second one a bell stands behind an
escaped quote. -/
theorem literals_guarded_bells :
    (∃ inner, Spanned.slice ⟨.text "\t\\\x07", .start, 6⟩ "\"\\t\\\x07\"".toList =
        '"' :: (inner ++ ['"']) ∧
      Inside inner "\t\\\x07".toList ∧ Guarded inner "\t\\\x07".toList) ∧
    (TokenStream.ofSource "\"\" \"\\\"\x07\"").tokens =
      .error ⟨.illegalSymbol '\x07', ⟨1, 7, 6⟩⟩ := by
  constructor
  · have inside : Inside ['\\', 't', '\\', '\x07'] ['\t', '\\', '\x07'] := .pair (.pair .nil)
    exact (literals_guarded "\"\\t\\\x07\"").1 _ _ (TokenStream.tokens_alone (inside.isToken [])) _
      List.mem_cons_self _ rfl
  · have stays : StaysOpen ['\\', '"'] := by
      refine ⟨rfl, fun i c there outside => ?_⟩
      rcases i with - | - | i
      · cases there
        decide
      · cases outside
      · cases there
    exact (literals_guarded "\"\" \"\\\"\x07\"").2 ['"', '"', ' '] _ _ ['"'] _ rfl
      ((TokenStream.Cuts.token (Inside.nil.isToken _)).append .space) stays rfl

/-- A barred character that is escaped is read into the text. -/
theorem escaped_control_admitted :
    isBarred '\x00' = true ∧
    (TokenStream.ofSource "\"\\\x00\"").tokens =
      .ok ([⟨.text "\\\x00", .start, 4⟩], ⟨1, 5, 4⟩) := by
  have inside : Inside ['\\', '\x00'] ['\\', '\x00'] := .pair .nil
  exact ⟨rfl, TokenStream.tokens_alone (inside.isToken [])⟩

namespace Cursor

theorem next_literal {text : List Char} (writable : ∀ c ∈ text, isUnwritable c = false)
    (rest : List Char) (place : Position) :
    next ⟨literal text ++ rest, place⟩ =
      .token ⟨.text (String.ofList text), place, place.offset + (literal text).length⟩
        ⟨rest, place.past (literal text)⟩ := by
  rw [← Position.offset_past]
  exact next_isToken ((inside_flatMap_spell writable).isToken rest) place

/-- The literal for a text breaks off at the first character that cannot be written. -/
theorem next_literal_unwritable {before : List Char} {c : Char}
    (writable : ∀ d ∈ before, isUnwritable d = false) (unwritable : isUnwritable c = true)
    (after rest : List Char) (place : Position) :
    next ⟨literal (before ++ c :: after) ++ rest, place⟩ =
      .broken ⟨.illegalSymbol c, place.past ('"' :: before.flatMap spell)⟩ := by
  obtain ⟨barred, other⟩ : isBarred c = true ∧ c ≠ '\t' := by
    simpa [isUnwritable] using unwritable
  have split : literal (before ++ c :: after) ++ rest =
      '"' :: (before.flatMap spell ++ c :: (after.flatMap spell ++ '"' :: rest)) := by
    simp [literal, spell_of_barred barred other]
  rw [split, next_barred (inside_flatMap_spell writable) barred]

end Cursor

/-- The literal for a text reads back as the text exactly if the text has no control characters but
tabs and line breaks. -/
theorem literal_read_back (s : String) (rest : List Char) (place : Position) :
    (∀ c ∈ s.toList, Text.isControl c = true → c = '\t' ∨ c = '\n' ∨ c = '\r') ↔
      Cursor.next ⟨literal s.toList ++ rest, place⟩ =
        .token ⟨.text s, place, place.offset + (literal s.toList).length⟩
          ⟨rest, place.past (literal s.toList)⟩ := by
  simp only [← isUnwritable_eq_false_iff]
  constructor
  · intro writable
    simpa only [String.ofList_toList] using Cursor.next_literal writable rest place
  · intro reads
    cases found : s.toList.find? isUnwritable with
    | none => exact fun c among => Bool.not_eq_true _ ▸ List.find?_eq_none.1 found c among
    | some c =>
      obtain ⟨unwritable, before, after, whole, free⟩ := List.find?_eq_some_iff_append.1 found
      have breaks := Cursor.next_literal_unwritable (fun d among => by simpa using free d among)
        unwritable after rest place
      rw [whole, breaks] at reads
      cases reads

end RuleScript
